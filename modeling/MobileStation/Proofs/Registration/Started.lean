import MobileStation.Proofs.Registration.Request

/-!
# The start of a location update

A location update that nobody wanted yet comes to be wanted by an event alone: the announcement of a
new location area, or the expiry of the periodic timer, in an idle substate whose rule starts an
update, and in a cell that allows one. A change of the cell as such starts nothing, and neither does
the return to the idle state.

Main statements: `perform_starts_iff` (the actions that start a location update),
`StartsUpdate.requests` (a location update that is started is asked for) and `wanted_run_iff` (where
a location update comes from that is wanted after a run).
-/

namespace MobileStation

/-- The procedure starts a location update, if none is wanted and the cell allows one. A cell that
was found while searching needs none where the station is registered already, unless it still has to
attach. -/
def EventProcedure.starts (s : Station) : EventProcedure → Bool
  | normalUpdate => true
  | periodicUpdate => true
  | selectCell => s.subscriber.simValid && (!s.stillRegistered || s.attachRequired)
  | _ => false

namespace Station

/-- The event starts a location update. -/
structure StartsUpdate (s : Station) (e : Event) : Prop where
  unwanted : s.update.wanted = false
  allowed : s.updateAllowed = true
  rule : ∃ procedure, s.machine.eventProcedure? e = some procedure ∧ procedure.starts s = true

/-- The action handles an event that starts a location update. -/
def StartsBy (s : Station) (a : Action) : Prop :=
  ∃ t e, a.handled? s = some (t, .event e) ∧ s.StartsUpdate e

/-! ## Procedures -/

/-- A wanted location update is given up where the cell does not allow it. -/
theorem wanted_tryUpdate (s : Station) :
    s.tryUpdate.station.update.wanted = (s.update.wanted && s.updateAllowed) := by
  unfold tryUpdate requestUpdate
  split
  · next hwanted => simp_all
  · next hwanted =>
    split
    · next hallowed => split <;> simp_all [sendRr, send]
    · next hallowed => simp_all

theorem wanted_startUpdate {s : Station} (h : s.update.wanted = false) (kind : UpdateKind) :
    (s.startUpdate kind).station.update.wanted = s.updateAllowed := by
  rw [startUpdate, if_neg (by simp [h]), wanted_tryUpdate, Bool.true_and]
  rfl

/-- In a cell that allows a location update, an idle station with a usable SIM is in the substate
that its registration calls for. -/
theorem idleSubstate_of_updateAllowed {s : Station} (hidle : s.machine.state = .idle)
    (hallowed : s.updateAllowed = true) (hsim : s.subscriber.simValid = true) :
    s.idleSubstate =
      if s.stillRegistered then .normalService
      else if s.subscriber.isRegisteredIn s.cell.lai then .attemptingToUpdate
      else .locationUpdateNeeded := by
  simp only [updateAllowed, Bool.and_eq_true] at hallowed
  obtain ⟨⟨⟨hcamped, _⟩, _⟩, _⟩ := hallowed
  have hany : s.cell.campedAny = true := by
    simp only [ServingCell.campedNormally, decide_eq_true_eq] at hcamped
    simp [ServingCell.campedAny, hcamped]
  cases hregistered : s.subscriber.isRegisteredIn s.cell.lai <;>
    cases hupdated : s.subscriber.isUpdated <;>
    simp [idleSubstate, stillRegistered, hsim, hany, hidle, hcamped, hregistered, hupdated]

theorem attachRequired_of_record {s t : Station} (h : t.record = s.record) :
    t.attachRequired = s.attachRequired := by
  obtain ⟨hsubscriber, hcell, _⟩ := Record.mk.inj h
  simp only [attachRequired, hsubscriber, hcell]

/-- A cell that was found: the substate decides, and in that of normal service the attach. -/
theorem selectCell_eq {s : Station} (hidle : s.machine.state = .idle)
    (hallowed : s.updateAllowed = true) :
    s.selectCell =
      if EventProcedure.selectCell.starts s then s.returnIdle.normalUpdate
      else .done s.returnIdle := by
  have hsubstate : s.returnIdle.machine.substate = some s.idleSubstate := by
    rw [StateMachine.substate, if_pos (by simp), lastSubstate_returnIdle]
  have hattach := attachRequired_of_record s.record_returnIdle
  have hstarts : EventProcedure.selectCell.starts s =
      (s.subscriber.simValid && (!s.stillRegistered || s.attachRequired)) := rfl
  simp only [selectCell, hsubstate, hattach, hstarts]
  -- Without a SIM no update starts, wherever the station is registered.
  by_cases hsim : s.subscriber.simValid = true
  · rw [idleSubstate_of_updateAllowed hidle hallowed hsim]
    cases hregistered : s.stillRegistered with
    | true => simp [hsim]
    | false => cases s.subscriber.isRegisteredIn s.cell.lai <;> simp [hsim]
  · rw [Bool.not_eq_true] at hsim
    simp [idleSubstate_of_not_simValid hsim, hsim]

theorem wanted_selectCell {s : Station} (hidle : s.machine.state = .idle)
    (h : s.update.wanted = false) :
    s.selectCell.station.update.wanted =
      (s.updateAllowed && EventProcedure.selectCell.starts s) := by
  have hunwanted : s.returnIdle.update.wanted = false := by simp [h]
  have hallowed := updateAllowed_of_record s.record_returnIdle
  -- In a cell that allows no update the rule may start one all the same, but its wish is dropped at
  -- once.
  cases hcell : s.updateAllowed with
  | true =>
    rw [selectCell_eq hidle hcell]
    split
    · next hstarts =>
      rw [normalUpdate, wanted_startUpdate hunwanted, hallowed, hcell, hstarts]
      rfl
    · next hstarts => simp [hstarts, h]
  | false =>
    rcases s.selectCell_cases with hcase | hcase
    · rw [hcase, normalUpdate, wanted_startUpdate hunwanted, hallowed, hcell]
      rfl
    · rw [hcase]
      exact hunwanted

/-! ## Inputs -/

/-- Only an event makes a station want a location update. -/
theorem wanted_of_handle {s : Station} {i : Input} (h : ∀ e, i ≠ .event e)
    (hwanted : (s.handle i).station.update.wanted = true) : s.update.wanted = true := by
  cases i with
  | cm p => exact (s.carries_handleCm p).wanted hwanted
  | registration p => cases p <;> exact hwanted
  | rr p =>
    revert hwanted
    simp only [handle, handleRr]
    split
    · exact (s.steady_rrProcedure p _).wanted
    · exact id
  | message data => exact (s.steady_receiveMessage data).wanted hwanted
  | event e => exact absurd rfl (h e)

theorem wanted_eventProcedure {s : Station} {e : Event} {procedure : EventProcedure}
    (hprocedure : s.machine.eventProcedure? e = some procedure) (h : s.update.wanted = false) :
    (procedure.run s e).station.update.wanted = (s.updateAllowed && procedure.starts s) := by
  have hstate := state_mem_of_eventProcedure? hprocedure
  by_cases hupdates : procedure.updates = true
  · cases procedure with
    | normalUpdate => exact (wanted_startUpdate h _).trans (Bool.and_true _).symm
    | periodicUpdate => exact (wanted_startUpdate h _).trans (Bool.and_true _).symm
    | tryUpdate =>
      refine s.wanted_tryUpdate.trans ?_
      rw [h, Bool.false_and]
      exact (Bool.and_false _).symm
    | selectCell => exact wanted_selectCell (List.mem_singleton.mp hstate) h
    | _ => cases hupdates
  · -- The other procedures want no update.
    have hstarts : procedure.starts s = false := by
      revert hupdates
      cases procedure <;> first | exact fun _ => rfl | exact fun hnot => absurd rfl hnot
    have hsteady : (procedure.run s e).station.update.wanted = true → s.update.wanted = true := by
      by_cases habort : procedure = .abortLink
      · subst habort
        exact (s.calm_eventProcedure e rfl).steady.wanted
      · refine (carries_eventProcedure e hstate ?_).wanted
        revert hupdates habort
        cases procedure <;> decide
    rw [hstarts, Bool.and_false]
    cases hafter : (procedure.run s e).station.update.wanted with
    | false => rfl
    | true => exact (hsteady hafter).symm.trans h

/-- Handling an input starts a location update exactly if it is an event that does. -/
theorem handle_starts_iff {s : Station} (h : s.update.wanted = false) (i : Input) :
    (s.handle i).station.update.wanted = true ↔ ∃ e, i = .event e ∧ s.StartsUpdate e := by
  -- Nothing but an event starts an update.
  by_cases hevent : ∃ e, i = .event e
  · obtain ⟨e, rfl⟩ := hevent
    simp only [handle, handleEvent, Input.event.injEq, exists_eq_left']
    cases hprocedure : s.machine.eventProcedure? e with
    | none =>
      refine iff_of_false (by simp [h]) ?_
      rintro ⟨_, _, procedure, hsome, _⟩
      cases hprocedure.symm.trans hsome
    | some procedure =>
      dsimp only
      rw [wanted_eventProcedure hprocedure h, Bool.and_eq_true]
      constructor
      · rintro ⟨hallowed, hstarts⟩
        exact ⟨h, hallowed, procedure, hprocedure, hstarts⟩
      · rintro ⟨_, hallowed, found, hfound, hstarts⟩
        obtain rfl : procedure = found := Option.some.inj (hprocedure.symm.trans hfound)
        exact ⟨hallowed, hstarts⟩
  · have hother : ∀ e, i ≠ .event e := fun e heq => hevent ⟨e, heq⟩
    refine iff_of_false ?_ ?_
    · intro hwanted
      exact Bool.false_ne_true (h.symm.trans (wanted_of_handle hother hwanted))
    · rintro ⟨e, heq, _⟩
      exact hother e heq

/-! ## Actions -/

/-- An action that handles nothing leaves the wish for a location update alone. -/
theorem wanted_of_not_handled {s : Station} {a : Action} (h : a.handled? s = none) :
    (s.perform a).update.wanted = s.update.wanted := by
  by_cases hexit : a = .exit
  · rw [hexit]
    rfl
  · exact (perform_frame h hexit).2.2

/-- A location update is started from the idle state. -/
theorem StartsUpdate.idle {s : Station} {e : Event} (h : s.StartsUpdate e) :
    s.machine.state = .idle := by
  obtain ⟨_, _, procedure, hprocedure, hstarts⟩ := h
  have hstate := state_mem_of_eventProcedure? hprocedure
  cases procedure with
  | normalUpdate => exact List.mem_singleton.mp hstate
  | periodicUpdate => exact List.mem_singleton.mp hstate
  | selectCell => exact List.mem_singleton.mp hstate
  | _ => cases hstarts

/-- An action starts a location update exactly if it handles an event that does. -/
theorem perform_starts_iff {s : Station} {a : Action} (h : s.update.wanted = false) :
    (s.perform a).update.wanted = true ↔ s.StartsBy a := by
  cases hhandled : a.handled? s with
  | none =>
    rw [wanted_of_not_handled hhandled, h]
    refine iff_of_false Bool.false_ne_true ?_
    rintro ⟨t, e, hsome, _⟩
    cases hhandled.symm.trans hsome
  | some r =>
    obtain ⟨t, i⟩ := r
    have hqueues := queues_of_handled hhandled
    -- The queues are no part of what starts an update.
    have hstarts (e : Event) : t.StartsUpdate e ↔ s.StartsUpdate e := by
      rw [hqueues]
      exact ⟨fun h => ⟨h.unwanted, h.allowed, h.rule⟩, fun h => ⟨h.unwanted, h.allowed, h.rule⟩⟩
    rw [perform_of_handled hhandled, handle_starts_iff (by rw [hqueues]; exact h)]
    constructor
    · rintro ⟨e, rfl, he⟩
      exact ⟨t, e, hhandled, (hstarts e).mp he⟩
    · rintro ⟨u, e, hsome, he⟩
      obtain ⟨rfl, rfl⟩ := Prod.mk.inj (Option.some.inj (hhandled.symm.trans hsome))
      exact ⟨e, rfl, (hstarts e).mpr he⟩

/-! ## The request -/

/-- A location update that is started leads to the wait for the radio link, unless the request for
it cannot be written. -/
theorem state_startUpdate {s : Station} {kind : UpdateKind} (hunwanted : s.update.wanted = false)
    (hallowed : s.updateAllowed = true)
    (hwritten : ∀ e, (s.startUpdate kind).failure ≠ some (.codec e)) :
    (s.startUpdate kind).station.machine.state = .waitForRadioLocationUpdate := by
  let t : Station :=
    { s with
      update :=
        { s.update with wanted := true, kind := kind, attempts := 0, accessFailed := false } }
  have hstarted : s.startUpdate kind = t.requestUpdate := by
    rw [startUpdate, if_neg (by simp [hunwanted])]
    show t.tryUpdate = _
    rw [tryUpdate, if_neg (by simp [t]), if_pos (show t.updateAllowed = true from hallowed)]
  -- The request can fail in no other way than that it cannot be written.
  rw [hstarted] at hwritten ⊢
  unfold requestUpdate at hwritten ⊢
  split at hwritten
  · exact absurd rfl (hwritten _)
  · simp [sendRr, send]

/-- An event that starts a location update asks for it, unless the request cannot be written. -/
theorem StartsUpdate.requests {s : Station} {e : Event} (h : s.StartsUpdate e)
    (hwritten : ∀ error, (s.handle (.event e)).failure ≠ some (.codec error)) :
    RequestsUpdate s (s.handle (.event e)).station := by
  have hidle := h.idle
  obtain ⟨hunwanted, hallowed, procedure, hprocedure, hstarts⟩ := h
  have hmay := s.handle_mayRequest (.event e)
  have hrun : s.handle (.event e) = procedure.run s e := by
    simp only [handle, handleEvent, hprocedure]
  rw [hrun] at hwritten hmay ⊢
  -- It is enough to show that the step leads to the wait for the link, for only a request does.
  refine hmay.resolve_right fun hno => ?_
  have hwaits : (procedure.run s e).station.machine.state = .waitForRadioLocationUpdate := by
    cases procedure with
    | normalUpdate => exact state_startUpdate hunwanted hallowed hwritten
    | periodicUpdate => exact state_startUpdate hunwanted hallowed hwritten
    | selectCell =>
      simp only [EventProcedure.run, selectCell_eq hidle hallowed, hstarts, if_true] at hwritten ⊢
      refine state_startUpdate (by simp [hunwanted]) ?_ hwritten
      rw [updateAllowed_of_record s.record_returnIdle]
      exact hallowed
    | _ => cases hstarts
  cases hidle.symm.trans (hno.waits hwaits)

/-! ## Runs -/

/-- A location update is wanted throughout the run, or one was started on the way and is wanted
since then. -/
def WantedSince (s : Station) (actions : List Action) : Prop :=
  Throughout (fun t => t.update.wanted = true) s actions ∨
    ∃ before start after, actions = before ++ start :: after ∧ (s.run before).StartsBy start ∧
      Throughout (fun t => t.update.wanted = true) ((s.run before).perform start) after

theorem wantedSince_cons {s : Station} {a : Action} {rest : List Action} :
    s.WantedSince (a :: rest) ↔ (s.perform a).WantedSince rest := by
  constructor
  · rintro (⟨_, hrest⟩ | ⟨before, start, after, heq, hstarts, hafter⟩)
    · exact .inl hrest
    · cases before with
      | nil =>
        obtain ⟨rfl, rfl⟩ := List.cons.inj heq
        exact .inl hafter
      | cons b before =>
        obtain ⟨rfl, rfl⟩ := List.cons.inj heq
        exact .inr ⟨before, start, after, rfl, hstarts, hafter⟩
  · rintro (hrest | ⟨before, start, after, rfl, hstarts, hafter⟩)
    · -- The update was wanted before the first step, or is started by it.
      cases hwanted : s.update.wanted with
      | true => exact .inl ⟨hwanted, hrest⟩
      | false =>
        have hfirst : (s.perform a).update.wanted = true := throughout_iff.mp hrest 0
        exact .inr ⟨[], a, rest, rfl, (perform_starts_iff hwanted).mp hfirst, hrest⟩
    · exact .inr ⟨a :: before, start, after, rfl, hstarts, hafter⟩

/-- A location update that is wanted after a run was wanted all the time, or was started on the way
and not given up since. -/
theorem wanted_run_iff {s : Station} {actions : List Action} :
    (s.run actions).update.wanted = true ↔ s.WantedSince actions := by
  induction actions generalizing s with
  | nil => simp [WantedSince, Throughout]
  | cons a rest ih => rw [run_cons, ih, wantedSince_cons]

/-- Outside the idle state no location update is started: one that is wanted at the end was wanted
all the time. -/
theorem wanted_throughout_of_busy {s : Station} {actions : List Action}
    (h : EveryStep (fun t _ => t.machine.state ≠ .idle) s actions)
    (hwanted : (s.run actions).update.wanted = true) :
    Throughout (fun t => t.update.wanted = true) s actions := by
  induction actions generalizing s with
  | nil => exact hwanted
  | cons a rest ih =>
    have hrest := ih h.2 hwanted
    refine ⟨?_, hrest⟩
    by_contra hunwanted
    obtain ⟨_, e, _, hstarts⟩ :=
      (perform_starts_iff (by simpa using hunwanted)).mp (throughout_iff.mp hrest 0)
    exact h.1 hstarts.idle

end Station

end MobileStation
