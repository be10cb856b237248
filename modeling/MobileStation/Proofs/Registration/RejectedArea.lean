import MobileStation.Proofs.Registration.Forbidden

/-!
# The area that a reject forbids

A reject because of the network or the area is acted upon when the radio link is released. The cause
is kept until then, the area is not: what is forbidden is the area of the cell by then, which need
not be the one in which the location update was asked for.

Main statements: `RejectCompleted.lists` (what a completed reject forbids) and
`rejectedAreas_forbidden_iff` (the runs in which that is always the area that rejected).
-/

namespace MobileStation.Station

/-! ## Ends of a location update -/

/-- The action handles a reject of the location update that is under way. -/
def RejectedBy (s : Station) (a : Action) (cause : RejectCause) : Prop :=
  s.machine.state = .locationUpdatingInitiated ∧
    ∃ t i data body, a.handled? s = some (t, i) ∧ i.network? = some data ∧
      Received.read data = .mobility .locationUpdatingReject body ∧
      Message.decodeCause body = .ok cause

/-- A station that handles an answer to the location update runs the procedure for it. -/
theorem receiveMessage_of_answer {s : Station} {data body : Octets} {type : MessageType}
    {procedure : MessageProcedure} (hread : Received.read data = .mobility type body)
    (hprocedure : s.machine.messageProcedure type = .ok procedure) :
    s.receiveMessage data = procedure.run s.noteContact body := by
  rw [receiveMessage_eq, hread]
  dsimp only
  rw [hprocedure]

theorem messageProcedure_of_updating {m : StateMachine}
    (h : m.state = .locationUpdatingInitiated) :
    m.messageProcedure .locationUpdatingAccept = .ok .receiveUpdateAccept ∧
      m.messageProcedure .locationUpdatingReject = .ok .receiveUpdateReject := by
  obtain ⟨state, last, departure⟩ := m
  subst h
  exact ⟨rfl, rfl⟩

/-- A reject leads to the wait for the release of the link, with its cause. -/
theorem RejectedBy.perform {s : Station} {a : Action} {cause : RejectCause}
    (h : s.RejectedBy a cause) :
    (s.perform a).machine.state = .locationUpdatingReject ∧
      (s.perform a).update.rejectCause = cause := by
  obtain ⟨hstate, t, i, data, body, hhandled, hnetwork, hread, hdecode⟩ := h
  have ht : t.machine = s.machine := by rw [queues_of_handled hhandled]
  have hprocedure := (messageProcedure_of_updating (ht ▸ hstate)).2
  rw [perform_of_handled hhandled, t.handle_of_network? hnetwork,
    receiveMessage_of_answer hread hprocedure]
  simp only [MessageProcedure.run, receiveUpdateReject, hdecode, station_done]
  exact ⟨by simp, congrArg Record.rejectCause (record_enter _ _ _)⟩

/-- An accept ends the location update. -/
theorem state_of_accepts {s t : Station} {a : Action} {i : Input}
    {accept : LocationUpdatingAccept} (hhandled : a.handled? s = some (t, i))
    (h : s.Accepts i accept) : (s.perform a).machine.state = .waitForNetworkCommand := by
  obtain ⟨hstate, data, body, hnetwork, hread, hdecode⟩ := h
  have ht : t.machine = s.machine := by rw [queues_of_handled hhandled]
  have hprocedure := (messageProcedure_of_updating (ht ▸ hstate)).1
  rw [perform_of_handled hhandled, t.handle_of_network? hnetwork,
    receiveMessage_of_answer hread hprocedure]
  simp only [MessageProcedure.run, receiveUpdateAccept, hdecode]
  obtain ⟨u, happly, _⟩ := sends_applyAcceptedIdentity
    (((t.noteContact.stopTimer .t3212).stopTimer .t3210).registerIn accept.lai) accept.identity
  rw [happly]
  simp [Outcome.andThen, Outcome.done, awaitNetwork]

/-- What a completed reject leaves if its cause is final. -/
theorem CompletesReject.record {s : Station} {a : Action} (h : s.CompletesReject a)
    (hfinal : isFinalReject s.update.rejectCause = true) :
    (s.perform a).record = (s.rejectFinally s.update.rejectCause).record := by
  obtain ⟨hreject, t, p, hhandled, hloss⟩ := h
  have ht : t.machine.state = .locationUpdatingReject ∧
      t.update.rejectCause = s.update.rejectCause ∧ t.record = s.record := by
    rw [queues_of_handled hhandled]
    exact ⟨hreject, rfl, rfl⟩
  rw [perform_of_handled hhandled, handle_loss hloss, ht.1]
  show t.completeReject.station.record = _
  simp only [completeReject, ht.2.1, hfinal, if_true, station_done, record_returnIdle]
  exact record_rejectFinally ht.2.2 _

theorem CompletesReject.idle {s : Station} {a : Action} (h : s.CompletesReject a) :
    (s.perform a).machine.state = .idle := by
  obtain ⟨hreject, t, p, hhandled, hloss⟩ := h
  have ht : t.machine = s.machine := by rw [queues_of_handled hhandled]
  rw [perform_of_handled hhandled, handle_loss hloss, ht, hreject]
  exact t.takes_completeReject.leads.1

/-! ## While a location update is under way -/

theorem leavesLists_of_handled {s : Station} {a : Action} {r : Station × Input}
    (h : a.handled? s = some r) : s.LeavesLists a := by
  constructor
  · rintro u rfl
    cases h
  · rintro c rfl
    cases h

theorem AsksUpdate.leavesLists {s : Station} {a : Action} (h : s.AsksUpdate a) :
    s.LeavesLists a := by
  obtain ⟨o, ho, _⟩ := h
  cases hhandled : a.handled? s with
  | none =>
    rw [emits_of_not_handled hhandled] at ho
    cases ho
  | some r => exact leavesLists_of_handled hhandled

/-- As long as the location update is not over, the lists stay as they are. -/
theorem lists_perform {s : Station} {a : Action} (hleaves : s.LeavesLists a)
    (hstage : (s.perform a).machine.state.updateStage ≤ 2) :
    (s.perform a).subscriber.forbidden = s.subscriber.forbidden ∧
      (s.perform a).cell.forbidden = s.cell.forbidden := by
  cases hhandled : a.handled? s with
  | none => exact lists_of_not_handled hhandled hleaves
  | some r =>
    obtain ⟨t, i⟩ := r
    -- An accept or the end of a reject would write the lists, but would also lead past the stage of
    -- the wait.
    cases (writes_of_handled hhandled).lists with
    | keep hnetworks hareas => exact ⟨hnetworks, hareas⟩
    | accept accept haccepts hnetworks hareas =>
      rw [state_of_accepts hhandled haccepts] at hstage
      exact absurd hstage (by decide)
    | reject p hinput hloss hstate hnetworks hareas =>
      have hcompletes : s.CompletesReject a := ⟨hstate, t, p, hinput ▸ hhandled, hloss⟩
      rw [hcompletes.idle] at hstage
      exact absurd hstage (by decide)

/-- In a run in which the location update is not over, the lists stay as they are. -/
theorem lists_run {s : Station} {actions : List Action}
    (hwaits : EveryStep (fun t a => ¬ t.AsksUpdate a ∧ t.LeavesLists a) s actions)
    (hstage : (s.run actions).machine.state.updateStage ≤ 2) :
    (s.run actions).subscriber.forbidden = s.subscriber.forbidden ∧
      (s.run actions).cell.forbidden = s.cell.forbidden := by
  induction actions generalizing s with
  | nil => exact ⟨rfl, rfl⟩
  | cons a rest ih =>
    obtain ⟨hfirst, hrest⟩ := hwaits
    -- No stage is gone back to, so the update was not over after the first step either.
    have hbefore := stage_run (hrest.imp fun _ _ h => h.1)
    obtain ⟨hnetworks, hareas⟩ := lists_perform hfirst.2 (Nat.le_trans hbefore hstage)
    obtain ⟨hnetworksRest, hareasRest⟩ := ih hrest hstage
    exact ⟨hnetworksRest.trans hnetworks, hareasRest.trans hareas⟩

theorem rejectCause_rejectFinally (s : Station) (cause : RejectCause) :
    (s.rejectFinally cause).update.rejectCause = s.update.rejectCause := by
  have hidentity : (s.rejectIdentity cause).update.rejectCause = s.update.rejectCause := by
    unfold rejectIdentity
    split <;> rfl
  unfold rejectFinally forbidRejected
  split
  · exact hidentity
  · split <;> exact hidentity

/-- Once the answer was a reject, its cause is kept. -/
theorem rejectCause_perform {s : Station} {a : Action}
    (hstage : 2 ≤ s.machine.state.updateStage) :
    (s.perform a).update.rejectCause = s.update.rejectCause := by
  cases hhandled : a.handled? s with
  | none =>
    by_cases hwrites : (∃ c, a = .cell c) ∨ ∃ u, a = .subscriber u
    · rcases hwrites with ⟨c, rfl⟩ | ⟨u, rfl⟩ <;> rfl
    · rw [not_or, not_exists, not_exists] at hwrites
      exact congrArg Record.rejectCause (record_of_not_handled hhandled hwrites.1 hwrites.2)
  | some r =>
    obtain ⟨t, i⟩ := r
    have hwrites := writes_of_handled hhandled
    show (s.perform a).record.rejectCause = _
    generalize (s.perform a).record = left at hwrites
    -- The cause is only written while the answer is awaited, which is an earlier stage.
    cases hwrites with
    | accept _ data body accept hstate _ _ _ =>
      rw [hstate] at hstage
      exact absurd hstage (by decide)
    | refuse _ data body cause hstate _ _ _ =>
      rw [hstate] at hstage
      exact absurd hstage (by decide)
    | reject p _ _ _ => exact s.rejectCause_rejectFinally _
    | _ => rfl

theorem rejectCause_run {s : Station} {actions : List Action}
    (hstage : 2 ≤ s.machine.state.updateStage)
    (hsilent : EveryStep (fun t a => ¬ t.AsksUpdate a) s actions) :
    (s.run actions).update.rejectCause = s.update.rejectCause := by
  refine (invariant_run_of_everyStep (P := fun t => 2 ≤ t.machine.state.updateStage ∧
    t.update.rejectCause = s.update.rejectCause) ?_ hsilent ⟨hstage, rfl⟩).2
  rintro t a hstep ⟨ht, hcause⟩
  exact ⟨Nat.le_trans ht (stage_perform hstep), (rejectCause_perform ht).trans hcause⟩

/-! ## Completed rejects -/

/-- `ask` asks for a location update; `wait` is the wait for its end, in which it is rejected and no
other is asked for; and `lose` is the loss of the link that completes the reject. Meanwhile nobody
writes the lists, but the cell may be reselected. -/
structure RejectCompleted (s : Station) (ask : Action) (wait : List Action) (lose : Action)
    (cause : RejectCause) : Prop where
  asks : s.AsksUpdate ask
  waits : EveryStep (fun t a => ¬ t.AsksUpdate a ∧ t.LeavesLists a) (s.perform ask) wait
  rejected : ∃ first reject second, wait = first ++ reject :: second ∧
    ((s.perform ask).run first).RejectedBy reject cause
  completes : ((s.perform ask).run wait).CompletesReject lose

/-- What the lists gain on the way from `s` to `t` is the network or the area that rejected, and
nothing else. -/
structure ForbidsRejected (lai : Lai) (cause : RejectCause) (s t : Station) : Prop where
  network : cause.code = 11 →
    t.subscriber.forbidden = s.subscriber.forbidden ++ [lai.plmn] ∧
      t.cell.forbidden = s.cell.forbidden
  area : cause.code = 12 →
    t.subscriber.forbidden = s.subscriber.forbidden ∧
      t.cell.forbidden = s.cell.forbidden ++ [lai]

/-- The cell is still one of the network or the area that rejected. -/
structure ServesRejected (lai : Lai) (cause : RejectCause) (s : Station) : Prop where
  network : cause.code = 11 → s.cell.lai.plmn = lai.plmn
  area : cause.code = 12 → s.cell.lai = lai

section Completed

variable {s : Station} {ask lose : Action} {wait : List Action} {cause : RejectCause}

/-- The cause that is acted upon is that of the reject. -/
theorem RejectCompleted.rejectCause (h : s.RejectCompleted ask wait lose cause) :
    ((s.perform ask).run wait).update.rejectCause = cause := by
  obtain ⟨first, reject, second, rfl, hrejected⟩ := h.rejected
  obtain ⟨hstate, hcause⟩ := hrejected.perform
  have hsecond := (everyStep_append.mp (h.waits.imp fun _ _ h => h.1)).2.2
  rw [run_append, run_cons, rejectCause_run (by rw [hstate]; decide) hsecond, hcause]

/-- Until the link is lost, nothing is forbidden. -/
theorem RejectCompleted.lists_left (h : s.RejectCompleted ask wait lose cause) :
    ((s.perform ask).run wait).subscriber.forbidden = s.subscriber.forbidden ∧
      ((s.perform ask).run wait).cell.forbidden = s.cell.forbidden := by
  have hleft : ((s.perform ask).run wait).machine.state.updateStage ≤ 2 := by
    rw [h.completes.1]
    decide
  obtain ⟨hnetworks, hareas⟩ := lists_run h.waits hleft
  have hasked : (s.perform ask).machine.state.updateStage ≤ 2 := by
    rw [(asksUpdate_iff.mp h.asks).waits]
    decide
  obtain ⟨hnetworksAsked, hareasAsked⟩ := lists_perform h.asks.leavesLists hasked
  exact ⟨hnetworks.trans hnetworksAsked, hareas.trans hareasAsked⟩

/-- A completed reject forbids the network or the area in which the cell is by then. -/
theorem RejectCompleted.lists (h : s.RejectCompleted ask wait lose cause)
    (hcause : cause.code = 11 ∨ cause.code = 12) :
    let left := (s.perform ask).run wait
    (left.perform lose).subscriber.forbidden =
        (if cause.code = 11 then (s.subscriber.forbid left.cell.lai.plmn).forbidden
        else s.subscriber.forbidden) ∧
      (left.perform lose).cell.forbidden =
        (if cause.code = 12 then (s.cell.forbid left.cell.lai).forbidden
        else s.cell.forbidden) := by
  intro left
  obtain ⟨hnetworks, hareas⟩ := h.lists_left
  have hleft : left.update.rejectCause = cause := h.rejectCause
  -- The cause is still the one that was given, and it is one that is acted upon.
  have hfinal : isFinalReject left.update.rejectCause = true := by
    rw [hleft, isFinalReject_iff]
    rcases hcause with hcode | hcode <;> simp [hcode]
  have hrecord := h.completes.record hfinal
  rw [show ((s.perform ask).run wait).update.rejectCause = cause from hleft] at hrecord
  obtain ⟨hsubscriber, hcell, _⟩ := Record.mk.inj hrecord
  have hnetwork : cause = .plmnNotAllowed ↔ cause.code = 11 := by
    obtain ⟨code⟩ := cause
    simp [RejectCause.plmnNotAllowed]
  have harea : cause = .locationAreaNotAllowed ↔ cause.code = 12 := by
    obtain ⟨code⟩ := cause
    simp [RejectCause.locationAreaNotAllowed]
  constructor
  · rw [hsubscriber, networks_rejectFinally]
    simp only [hnetwork, Subscriber.forbidden_forbid, hnetworks]
    rfl
  · rw [hcell, cell_rejectFinally]
    simp only [harea]
    split
    · simp only [ServingCell.forbidden_forbid, hareas]
      rfl
    · exact hareas

/-- Forbidding one entry looks like forbidding another, which was not forbidden yet, only if the two
are the same. -/
theorem forbidden_eq_append_iff {α : Type} [DecidableEq α] {forbidden : List α} {x y : α}
    (hy : y ∉ forbidden) :
    (if x ∈ forbidden then forbidden else forbidden ++ [x]) = forbidden ++ [y] ↔ x = y := by
  split
  · next hx => simpa using fun h : x = y => hy (h ▸ hx)
  · simp

/-- The network or the area that rejected is the one that is forbidden if and only if the cell is
still one of it when the link is lost. -/
theorem RejectCompleted.forbids_iff (h : s.RejectCompleted ask wait lose cause) :
    ForbidsRejected s.cell.lai cause s (((s.perform ask).run wait).perform lose) ↔
      ServesRejected s.cell.lai cause ((s.perform ask).run wait) := by
  -- The request was allowed, so neither its network nor its area was on a list before.
  have hallowed := h.asks.whereAllowed
  have hnetwork : s.cell.lai.plmn ∉ s.subscriber.forbidden := by
    simpa [Subscriber.isForbidden] using hallowed.network
  have harea : s.cell.lai ∉ s.cell.forbidden := by
    simpa [ServingCell.isForbidden] using hallowed.area
  constructor
  · intro hforbids
    refine ⟨?_, ?_⟩
    · intro hcode
      have hgained := (hforbids.network hcode).1
      rwa [(h.lists (.inl hcode)).1, if_pos hcode, Subscriber.forbidden_forbid,
        forbidden_eq_append_iff hnetwork] at hgained
    · intro hcode
      have hgained := (hforbids.area hcode).2
      rwa [(h.lists (.inr hcode)).2, if_pos hcode, ServingCell.forbidden_forbid,
        forbidden_eq_append_iff harea] at hgained
  · intro hserves
    refine ⟨?_, ?_⟩
    · intro hcode
      obtain ⟨hnetworks, hareas⟩ := h.lists (.inl hcode)
      rw [hnetworks, hareas, if_pos hcode, if_neg (by rw [hcode]; decide),
        Subscriber.forbidden_forbid, forbidden_eq_append_iff hnetwork]
      exact ⟨hserves.network hcode, rfl⟩
    · intro hcode
      obtain ⟨hnetworks, hareas⟩ := h.lists (.inr hcode)
      rw [hnetworks, hareas, if_pos hcode, if_neg (by rw [hcode]; decide),
        ServingCell.forbidden_forbid, forbidden_eq_append_iff harea]
      exact ⟨rfl, hserves.area hcode⟩

end Completed

/-! ## Runs -/

/-- Whenever a run completes a reject, the network or the area in which the location update was
asked for is the one that is forbidden. -/
def RejectedAreasForbidden (s : Station) (actions : List Action) : Prop :=
  ∀ before ask wait lose rest cause, actions = before ++ ask :: (wait ++ lose :: rest) →
    let asked := s.run before
    asked.RejectCompleted ask wait lose cause →
      ForbidsRejected asked.cell.lai cause asked (((asked.perform ask).run wait).perform lose)

/-- Whenever a run completes a reject, the cell is still one of the network or the area in which the
location update was asked for. -/
def RejectedAreasServed (s : Station) (actions : List Action) : Prop :=
  ∀ before ask wait lose rest cause, actions = before ++ ask :: (wait ++ lose :: rest) →
    let asked := s.run before
    asked.RejectCompleted ask wait lose cause →
      ServesRejected asked.cell.lai cause ((asked.perform ask).run wait)

/-- The networks and areas that reject are the ones that are forbidden in exactly those runs in
which, whenever the radio link is lost after a reject, the cell is still one of the network or the
area that rejected. -/
theorem rejectedAreas_forbidden_iff (s : Station) (actions : List Action) :
    s.RejectedAreasForbidden actions ↔ s.RejectedAreasServed actions := by
  constructor
  · intro h before ask wait lose rest cause heq asked hcompleted
    exact hcompleted.forbids_iff.mp (h before ask wait lose rest cause heq hcompleted)
  · intro h before ask wait lose rest cause heq asked hcompleted
    exact hcompleted.forbids_iff.mpr (h before ask wait lose rest cause heq hcompleted)

/-- The cell is reselected between a reject of its area and the release of the link: the area that
is forbidden is the new one, which has rejected nothing. -/
theorem area_forbidden_after_reselection :
    ¬ RejectedAreasForbidden
      (ofConfig
        { imei := "356938035643809"
          imeisv := "3569380356438091"
          sim := some { imsi := "262420000000001" } })
      [.cell (.campedIn ⟨⟨262, 42, false⟩, 7⟩),
        .handle (.event .newLocationArea),
        .handle (.rr { type := .establishConfirm }),
        .handle (.message [0x05, 0x04, 0x0C]),
        .cell (.campedIn ⟨⟨262, 42, false⟩, 8⟩),
        .handle (.rr { type := .releaseIndication })] := by
  intro h
  have hforbids := h
    [.cell (.campedIn ⟨⟨262, 42, false⟩, 7⟩)]
    (.handle (.event .newLocationArea))
    [.handle (.rr { type := .establishConfirm }),
      .handle (.message [0x05, 0x04, 0x0C]),
      .cell (.campedIn ⟨⟨262, 42, false⟩, 8⟩)]
    (.handle (.rr { type := .releaseIndication })) [] .locationAreaNotAllowed rfl
    ?_
  · have harea := (hforbids.area rfl).2
    revert harea
    decide +kernel
  · refine ⟨?_, ?_, ?_, ?_⟩
    · unfold AsksUpdate
      decide +kernel
    · have hreselects (t : Station) (ht : t.cell.forbidden = []) :
          t.LeavesLists (.cell (.campedIn ⟨⟨262, 42, false⟩, 8⟩)) := by
        have hnew := t.leavesLists_reselect (.campedIn ⟨⟨262, 42, false⟩, 8⟩)
        rwa [ServingCell.reselect, ht] at hnew
      refine ⟨⟨?_, leavesLists_of_handled rfl⟩, ⟨?_, leavesLists_of_handled rfl⟩,
        ⟨?_, hreselects _ (by decide +kernel)⟩, trivial⟩ <;>
      · unfold AsksUpdate
        decide +kernel
    · exact ⟨[.handle (.rr { type := .establishConfirm })], _, _, rfl, by decide +kernel, _, _,
        [0x05, 0x04, 0x0C], [0x0C], rfl, rfl, by decide +kernel, rfl⟩
    · exact ⟨by decide +kernel, _, { type := .releaseIndication }, rfl, .inl rfl⟩

end MobileStation.Station
