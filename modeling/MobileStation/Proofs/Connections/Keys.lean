import MobileStation.Proofs.Connections.Account

/-!
# Keys of the connections

The network names a connection by protocol and transaction. A new connection gets a key of its own,
but a primitive from above rewrites the transaction of the connection it refers to, whatever the
keys of the others. The keys stay distinct exactly as long as no primitive takes the key of another
connection; one that releases its connection at once does no harm.

Main statements: `keysDistinct_handleCm_iff` (the primitives that keep the keys distinct) and
`keysDistinct_throughout_iff` (the runs throughout which the keys are distinct).
-/

namespace MobileStation

namespace Station

/-- No two connections have the same protocol and the same transaction. -/
def KeysDistinct (s : Station) : Prop :=
  (s.connections.connections.map fun c => (c.protocol, c.transaction)).Nodup

/-- The primitive gives the connection it refers to the key of another one. -/
def MeetsKey (s : Station) (p : CmPrimitive) : Prop :=
  ∃ c ∈ s.connections.connections, c.reference = p.reference ∧
    ∃ d ∈ s.connections.connections, d.reference ≠ p.reference ∧
      d.protocol = c.protocol ∧ d.transaction = p.transaction

/-- The primitive releases the connection it refers to. -/
def Releases (s : Station) (p : CmPrimitive) : Prop :=
  p.type = .releaseRequest ∧ s.machine.state.releases = true

/-- The action handles a primitive that gives a connection the key of another one and leaves it so.
-/
def TakesKey (s : Station) (a : Action) : Prop :=
  ∃ t p, a.handled? s = some (t, .cm p) ∧ t.MeetsKey p ∧ ¬ t.Releases p

/-! ## One input -/

/-- A spontaneous change keeps the keys distinct. -/
theorem KeysDistinct.spontaneous {s : Station} (h : s.KeysDistinct) {change : Change}
    (hchange : change.Spontaneous s.connections) :
    (change.apply s.connections).keys.Nodup := by
  cases hchange with
  | keep => exact h
  | opened c table data hstate hadd =>
    have hkeys := (ConnectionTable.keys_nodup_iff_of_add hadd).mpr h
    obtain ⟨_, _, _, rfl⟩ := ConnectionTable.add_eq_ok_iff.mp hadd
    exact hkeys
  | confirm =>
    rw [Change.apply, ConnectionTable.keys_confirm]
    exact h
  | release filter cause isError => exact h.sublist (List.filter_sublist.map _)

/-- A change that a primitive asks for, short of a release, has distinct keys if and only if they
were distinct before. -/
theorem keysDistinct_requested_iff {s : Station} {p : CmPrimitive} {sent : List Output}
    {change : Change} (hchange : change.Requested s p sent) (hreleases : ¬ s.Releases p) :
    (change.apply s.connections).keys.Nodup ↔ s.KeysDistinct := by
  cases hchange with
  | keep => exact Iff.rfl
  | refuse cause => exact Iff.rfl
  | request table route cause data htype hfree hadd hencode hsent =>
    have hkeys := ConnectionTable.keys_nodup_iff_of_add hadd
    obtain ⟨_, _, _, rfl⟩ := ConnectionTable.add_eq_ok_iff.mp hadd
    exact hkeys
  | drop htype hstate => exact absurd ⟨htype, hstate⟩ hreleases

/-- Rewriting a transaction keeps the keys distinct if and only if the key is not that of another
connection. -/
theorem keysDistinct_updateTransaction_iff {s : Station} (hs : s.Orderly) (h : s.KeysDistinct)
    (p : CmPrimitive) : (s.updateTransaction p).KeysDistinct ↔ ¬ s.MeetsKey p := by
  rw [KeysDistinct, connections_updateTransaction hs, List.map_map,
    List.nodup_map_iff_inj_on hs.wellFormed.nodup]
  constructor
  · rintro hinj ⟨c, hc, hreference, d, hd, hother, hprotocol, htransaction⟩
    have heq := hinj d hd c hc (by simp [retransacted, hreference, hother, hprotocol, htransaction])
    exact hother (heq ▸ hreference)
  · intro hfree c hc d hd heq
    simp only [Function.comp_apply, retransacted] at heq
    -- Only the connection with the reference of the primitive has another key than before.
    by_cases hcref : c.reference = p.reference <;> by_cases hdref : d.reference = p.reference
    · exact hs.wellFormed.eq_of_reference hc hd (hcref.trans hdref.symm)
    · simp only [hcref, hdref, if_true, if_false, Prod.mk.injEq] at heq
      exact absurd ⟨c, hc, hcref, d, hd, hdref, heq.1.symm, heq.2.symm⟩ hfree
    · simp only [hcref, hdref, if_true, if_false, Prod.mk.injEq] at heq
      exact absurd ⟨d, hd, hdref, c, hc, hcref, heq.1, heq.2⟩ hfree
    · simp only [hcref, hdref, if_false] at heq
      exact List.inj_on_of_nodup_map h hc hd heq

theorem settle_frame (s : Station) : s.settle.connections = s.connections := by
  unfold settle
  split <;> simp [awaitNetwork, startReleaseTimer, startTimer]

theorem releaseRequested_frame (s : Station) (p : CmPrimitive) :
    (s.releaseRequested p).station.connections = s.connections.remove p.reference := by
  simp only [releaseRequested]
  split
  · simp [withdrawRequest, awaitNetwork, startReleaseTimer, startTimer, stopTimer, dropConnection]
  · rfl

/-- A primitive that releases its connection removes it from the table. -/
theorem table_releases {s : Station} {p : CmPrimitive} (h : s.Releases p) :
    (s.handleCm p).station.connections =
      (s.updateTransaction p).connections.remove p.reference := by
  rcases cmProcedure?_of_releases (m := (s.updateTransaction p).machine) h.1 h.2 with
    hactive | hwaiting | hrequested
  · simp only [handleCm, hactive]
    exact settle_frame _
  · simp only [handleCm, hwaiting]
    rfl
  · simp only [handleCm, hrequested]
    exact releaseRequested_frame _ p

/-- A primitive that releases its connection leaves the others as they were. -/
theorem connections_releases {s : Station} (hs : s.Orderly) {p : CmPrimitive}
    (h : s.Releases p) :
    (s.handleCm p).station.connections.connections =
      s.connections.connections.filter (·.reference != p.reference) := by
  have hremove := (hs.lookedUp (.cm p)).wellFormed.remove_eq p.reference
  rw [table_releases h]
  refine (congrArg ConnectionTable.connections hremove).trans ?_
  refine (congrArg (List.filter _) (connections_updateTransaction hs p)).trans ?_
  rw [List.filter_map]
  have hsame : s.connections.connections.filter ((·.reference != p.reference) ∘ retransacted p) =
      s.connections.connections.filter (·.reference != p.reference) :=
    List.filter_congr fun c _ => by simp [retransacted_frame]
  refine (congrArg (List.map _) hsame).trans ?_
  -- The rewritten connection is the one that was removed.
  have hothers : ∀ c ∈ s.connections.connections.filter (·.reference != p.reference),
      retransacted p c = c := by
    intro c hc
    rw [retransacted, if_neg (by simpa using (List.mem_filter.mp hc).2)]
  exact (List.map_congr_left hothers).trans (List.map_id' _)

/-- Handling a primitive from above keeps the keys distinct unless it takes the key of another
connection. -/
theorem keysDistinct_handleCm_iff {s : Station} (hs : s.Orderly) (h : s.KeysDistinct)
    (p : CmPrimitive) :
    (s.handleCm p).station.KeysDistinct ↔ ¬ (s.MeetsKey p ∧ ¬ s.Releases p) := by
  by_cases hreleases : s.Releases p
  · -- The connection that may have the key of another one is gone at once.
    rw [KeysDistinct, connections_releases hs hreleases]
    refine iff_of_true (h.sublist (List.filter_sublist.map _)) ?_
    intro hmeets
    exact hmeets.2 hreleases
  · obtain ⟨change, sent, hfollows, hallowed⟩ := s.handle_follows (.cm p)
    have htable : (s.handleCm p).station.connections =
        change.apply (s.updateTransaction p).connections := hfollows.table
    have hkeys := keysDistinct_requested_iff (s := s.updateTransaction p) hallowed hreleases
    rw [← htable, keysDistinct_updateTransaction_iff hs h] at hkeys
    exact hkeys.trans (by simp [hreleases])

/-! ## Runs -/

/-- Handling an input from elsewhere keeps the keys distinct. -/
theorem KeysDistinct.handle {s : Station} (h : s.KeysDistinct) {i : Input}
    (hinput : ∀ p, i ≠ .cm p) : (s.handle i).station.KeysDistinct := by
  obtain ⟨change, sent, hfollows, hallowed⟩ := s.handle_follows i
  have hkeys : (change.apply (s.lookedUp i).connections).keys.Nodup := by
    cases i with
    | cm p => exact absurd rfl (hinput p)
    | _ => exact h.spontaneous hallowed
  rwa [← hfollows.table] at hkeys

/-- An action that handles no input keeps the keys distinct. -/
theorem KeysDistinct.perform {s : Station} (h : s.KeysDistinct) {a : Action}
    (hhandled : a.handled? s = none) : (s.perform a).KeysDistinct := by
  by_cases hexit : a = .exit
  · subst hexit
    exact List.nodup_nil
  · obtain ⟨_, htable, _⟩ := perform_frame hhandled hexit
    rw [KeysDistinct, htable]
    exact h

/-- An action keeps the keys distinct if and only if it does not take the key of another
connection. -/
theorem keysDistinct_perform_iff {s : Station} (hs : s.Orderly) (h : s.KeysDistinct) (a : Action) :
    (s.perform a).KeysDistinct ↔ ¬ s.TakesKey a := by
  cases hhandled : a.handled? s with
  | none =>
    refine iff_of_true (h.perform hhandled) ?_
    rintro ⟨t, p, hsome, _⟩
    rw [hhandled] at hsome
    cases hsome
  | some r =>
    obtain ⟨t, i⟩ := r
    -- The keys are those of the state after the input was taken, and that changes the queues alone.
    have hqueues := queues_of_handled hhandled
    have ht : t.Orderly := hs.of_frame (by rw [hqueues]) (by rw [hqueues])
    have hkeys : t.KeysDistinct := by
      rw [hqueues]
      exact h
    rw [perform_of_handled hhandled]
    cases i with
    | cm p =>
      have htakes : s.TakesKey a ↔ t.MeetsKey p ∧ ¬ t.Releases p := by
        simp [TakesKey, hhandled]
      rw [htakes]
      exact keysDistinct_handleCm_iff ht hkeys p
    | _ =>
      refine iff_of_true (hkeys.handle nofun) ?_
      rintro ⟨t', p, hsome, _⟩
      rw [hhandled] at hsome
      cases hsome

/-- The keys of the connections are distinct throughout exactly those runs in which no primitive
from above gives a connection the key of another one and leaves it so. -/
theorem keysDistinct_throughout_iff (config : Config) (subscriber : Subscriber)
    (actions : List Action) :
    Throughout KeysDistinct (ofSubscriber config subscriber) actions ↔
      EveryStep (fun s a => ¬ s.TakesKey a) (ofSubscriber config subscriber) actions :=
  throughout_iff_everyStep (fun _ a hs => hs.perform a)
    (fun _ a _ hs h => keysDistinct_perform_iff hs h a) (orderly_ofSubscriber config subscriber)
    List.nodup_nil

/-- Of two calls that the network opened, the second takes the key of the first when its owner names
it by the transaction of the first. -/
theorem second_call_takes_first_key :
    ¬ ((ofConfig { imei := "356938035643809", imeisv := "3569380356438091" }).run
      [.handle (.rr { type := .establishIndication }),
        .handle (.message [0x03, 0x05]),
        .handle (.message [0x13, 0x05]),
        .handle (.cm
          { type := .dataRequest
            protocol := .cc
            reference := 2
            transaction := 8
            payload := [0x83, 0x05] })]).KeysDistinct := by
  unfold KeysDistinct
  decide +kernel

end Station

end MobileStation
