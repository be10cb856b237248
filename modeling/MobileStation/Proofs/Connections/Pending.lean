import MobileStation.Proofs.Connections.Procedures
import MobileStation.Proofs.Run

/-!
# The pending connection

The network is asked for one connection at a time. The invariant that carries this, `Orderly`, is
about the table and the main state at once: the references differ, at most one connection is
pending, and one is pending only in the states in which its establishment is supervised.

Main statements: `Orderly.perform` (every action keeps the invariant), `orderly_run`, and
`establishment_supervised` (the invariant in plain words, for every run).
-/

namespace MobileStation

/-- The connections of the station are in order. -/
structure Station.Orderly (s : Station) : Prop where
  wellFormed : s.connections.WellFormed
  onePending : s.connections.pendingCount ≤ 1
  supervised : s.PendingSupervised

namespace Station

/-! ## Steps -/

/-- Whether a station is in order depends on the table and on the main state. -/
theorem Orderly.of_frame {s t : Station} (h : s.Orderly) (hmachine : t.machine = s.machine)
    (htable : t.connections = s.connections) : t.Orderly := by
  refine ⟨htable ▸ h.wellFormed, htable ▸ h.onePending, ?_⟩
  intro hpending
  rw [hmachine]
  exact h.supervised (htable ▸ hpending)

/-- Rewriting the transaction of a connection keeps the station in order. -/
theorem Orderly.lookedUp {s : Station} (h : s.Orderly) (i : Input) : (s.lookedUp i).Orderly := by
  cases i with
  | cm p =>
    have hcount : (s.updateTransaction p).connections.pendingCount =
        s.connections.pendingCount :=
      ConnectionTable.pendingCount_modifyFirst
        (f := fun c => { c with transaction := p.transaction }) (fun _ => rfl) _ _
    refine ⟨h.wellFormed.modifyFirst (f := fun c => { c with transaction := p.transaction })
      (fun _ => rfl) _, hcount ▸ h.onePending, ?_⟩
    intro hpending
    exact h.supervised (hcount ▸ hpending)
  | _ => exact h

/-- A spontaneous change keeps the table well formed, with at most one connection pending. -/
theorem Orderly.spontaneous {s : Station} (h : s.Orderly) {change : Change}
    (hchange : change.Spontaneous s.connections) :
    (change.apply s.connections).WellFormed ∧ (change.apply s.connections).pendingCount ≤ 1 := by
  cases hchange with
  | keep => exact ⟨h.wellFormed, h.onePending⟩
  | opened c table data hstate hadd =>
    have hwell := h.wellFormed.add hadd
    obtain ⟨_, _, _, rfl⟩ := ConnectionTable.add_eq_ok_iff.mp hadd
    refine ⟨hwell, ?_⟩
    simpa [Change.apply, ConnectionTable.pendingCount, Connection.isPending, hstate]
      using h.onePending
  | confirm =>
    -- The only pending connection is put into use.
    refine ⟨h.wellFormed.modifyFirst (f := fun c => { c with state := .dedicated })
      (fun _ => rfl) _, ?_⟩
    have hnone : (Change.apply s.connections .confirm).pendingCount = 0 :=
      ConnectionTable.pendingCount_modifyPending h.onePending
    omega
  | release filter cause isError =>
    have hnone : (Change.apply s.connections (.release filter cause isError)).pendingCount = 0 :=
      s.connections.pendingCount_release filter
    exact ⟨h.wellFormed.release filter, by omega⟩

/-- A change that a primitive asks for keeps the table well formed, with at most one connection
pending. -/
theorem Orderly.requested {s : Station} (h : s.Orderly) {p : CmPrimitive} {sent : List Output}
    {change : Change} (hchange : change.Requested s p sent) :
    (change.apply s.connections).WellFormed ∧ (change.apply s.connections).pendingCount ≤ 1 := by
  cases hchange with
  | keep => exact ⟨h.wellFormed, h.onePending⟩
  | refuse cause => exact ⟨h.wellFormed, h.onePending⟩
  | request table route cause data htype hfree hadd hencode hsent =>
    have hwell := h.wellFormed.add hadd
    obtain ⟨_, _, _, rfl⟩ := ConnectionTable.add_eq_ok_iff.mp hadd
    refine ⟨hwell, ?_⟩
    -- Nothing was pending before, or the request would have been turned down.
    have hone : (Change.apply s.connections (.request p)).pendingCount =
        s.connections.pendingCount + 1 := by
      simp [Change.apply, ConnectionTable.pendingCount, requestedConnection, Connection.isPending]
    omega
  | drop htype hstate =>
    exact ⟨h.wellFormed.remove _,
      Nat.le_trans (s.connections.pendingCount_remove_le _) h.onePending⟩

/-- Handling an input keeps the station in order. -/
theorem Orderly.handle {s : Station} (h : s.Orderly) (i : Input) :
    (s.handle i).station.Orderly := by
  obtain ⟨change, sent, hfollows, hallowed⟩ := s.handle_follows i
  -- The change starts from the table in which the transaction is rewritten already.
  have hlooked : (s.lookedUp i).Orderly := h.lookedUp i
  have htable : (change.apply (s.lookedUp i).connections).WellFormed ∧
      (change.apply (s.lookedUp i).connections).pendingCount ≤ 1 := by
    cases i with
    | cm p => exact hlooked.requested hallowed
    | _ => exact hlooked.spontaneous hallowed
  obtain ⟨hwell, hone⟩ := htable
  rw [← hfollows.table] at hwell hone
  exact ⟨hwell, hone, hfollows.supervised hlooked.onePending hlooked.supervised⟩

/-- Every action keeps the station in order. -/
theorem Orderly.perform {s : Station} (h : s.Orderly) (a : Action) : (s.perform a).Orderly := by
  cases hhandled : a.handled? s with
  | some r =>
    obtain ⟨t, i⟩ := r
    have hqueues := queues_of_handled hhandled
    have ht : t.Orderly := h.of_frame (by rw [hqueues]) (by rw [hqueues])
    rw [perform_of_handled hhandled]
    exact ht.handle i
  | none =>
    by_cases hexit : a = .exit
    · -- A station that drops all it holds is in order with an empty table.
      subst hexit
      exact ⟨h.wellFormed.sublist (List.nil_sublist _), Nat.zero_le _, .of_count_eq_zero rfl⟩
    · obtain ⟨hmachine, htable, _⟩ := perform_frame hhandled hexit
      exact h.of_frame hmachine htable

/-! ## Runs -/

/-- A station starts without connections. -/
theorem orderly_ofSubscriber (config : Config) (subscriber : Subscriber) :
    (ofSubscriber config subscriber).Orderly :=
  ⟨⟨rfl, Nat.zero_le _, List.nodup_nil⟩, Nat.zero_le _, .of_count_eq_zero rfl⟩

/-- A station is in order after every run. -/
theorem orderly_run (config : Config) (subscriber : Subscriber) (actions : List Action) :
    ((ofSubscriber config subscriber).run actions).Orderly :=
  invariant_run (fun _ a h => h.perform a) (orderly_ofSubscriber config subscriber) actions

/-- After every run at most one connection is being established, and only in the states that
establish one; no reference is in use twice, and there are at most 32 connections. -/
theorem establishment_supervised (config : Config) (subscriber : Subscriber)
    (actions : List Action) :
    let s := (ofSubscriber config subscriber).run actions
    (s.connections.connections.filter (·.isPending)).length ≤ 1 ∧
      (∀ c ∈ s.connections.connections, c.isPending = true →
        s.machine.state ∈ [.waitForRadioConnection, .waitForOutgoingConnection,
          .waitForAdditionalConnection]) ∧
      (s.connections.connections.map (·.reference)).Nodup ∧
      s.connections.connections.length ≤ 32 := by
  intro s
  -- The table and the state are in order together: the one is not preserved without the other.
  have h : s.Orderly := orderly_run config subscriber actions
  refine ⟨?_, ?_, h.wellFormed.distinct, h.wellFormed.bounded⟩
  · rw [← List.countP_eq_length_filter]
    exact h.onePending
  · intro c hc hpending
    have hcount : s.connections.pendingCount ≠ 0 := by
      rw [ConnectionTable.pendingCount, Ne, List.countP_eq_zero]
      intro hnone
      exact hnone c hc hpending
    exact MainState.establishes_iff.mp (h.supervised hcount)

end Station

end MobileStation
