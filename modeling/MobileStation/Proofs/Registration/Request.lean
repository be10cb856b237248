import MobileStation.Proofs.Registration.Record
import MobileStation.Proofs.Service.Asking

/-!
# Requests for a location update

A step either asks for a location update or does not, and it shows: a station that asks is idle in a
cell that allows the update, sends the request and nothing else, and waits for the radio link. A
station that does not ask goes on through the stages of an update in their order.

Main statements: `asksUpdate_iff` (what a step that asks for a location update looks like) and
`stage_perform` (the stages of an update are passed in order until the next one is asked for).
-/

namespace MobileStation

/-- The output asks for a radio link for a location update. -/
def Output.asksUpdate : Output → Bool
  | rr p => p.type = .establishRequest && p.cause = EstablishmentCause.locationUpdate.code
  | _ => false

namespace Station

/-- The action asks for a location update. -/
def AsksUpdate (s : Station) (a : Action) : Prop := ∃ o ∈ s.emits a, o.asksUpdate = true

/-- On the way from `s` to `t` a location update is asked for. -/
structure RequestsUpdate (s t : Station) : Prop where
  idle : s.machine.state = .idle
  allowed : s.updateAllowed = true
  waits : t.machine.state = .waitForRadioLocationUpdate
  wanted : t.update.wanted = true
  /-- The request is sent, and nothing else. -/
  sent : ∃ data, sentBetween s t = [.rr (.establish .locationUpdate data)] ∧
    (Message.locationUpdatingRequest t.updateRequest).encode = .ok data

/-- On the way from `s` to `t` no location update is asked for. -/
structure RequestsNoUpdate (s t : Station) : Prop where
  silent : ∀ o ∈ sentBetween s t, o.asksUpdate = false
  waits : t.machine.state = .waitForRadioLocationUpdate →
    s.machine.state = .waitForRadioLocationUpdate

/-- A location update is asked for or not. -/
def MayRequestUpdate (s t : Station) : Prop := RequestsUpdate s t ∨ RequestsNoUpdate s t

/-! ## Steps around a request -/

theorem updateAllowed_of_record {s t : Station} (h : t.record = s.record) :
    t.updateAllowed = s.updateAllowed := by
  obtain ⟨hsubscriber, hcell, _⟩ := Record.mk.inj h
  simp only [updateAllowed, hsubscriber, hcell]

/-- A request after updates of what it is not about. -/
theorem MayRequestUpdate.after {s t u : Station} (h : MayRequestUpdate t u)
    (hidle : s.machine.state = .idle) (hstate : t.machine.state = .idle)
    (houtbox : t.outbox = s.outbox) (hrecord : t.record = s.record) : MayRequestUpdate s u := by
  have hsent : sentBetween s u = sentBetween t u := by
    rw [sentBetween, sentBetween, houtbox]
  rcases h with hasks | hsilent
  · refine .inl ⟨hidle, ?_, hasks.waits, hasks.wanted, hsent ▸ hasks.sent⟩
    rw [← updateAllowed_of_record hrecord]
    exact hasks.allowed
  · refine .inr ⟨hsent ▸ hsilent.silent, ?_⟩
    intro hwaits
    rw [hsilent.waits hwaits] at hstate
    cases hstate

/-- Nothing is asked for by a step that sends nothing and leaves the state alone. -/
theorem RequestsNoUpdate.of_frame {s t : Station} (hstate : t.machine.state = s.machine.state)
    (houtbox : t.outbox = s.outbox) : RequestsNoUpdate s t :=
  ⟨fun _ ho => absurd ho (notMem_sentBetween houtbox), fun h => hstate ▸ h⟩

theorem updateRequest_enter (s : Station) (state : MainState) (substate : Option IdleSubstate) :
    (s.enter state substate).updateRequest = s.updateRequest := by
  have hframe := s.enter_frame state substate
  have hconfig : (s.enter state substate).config = s.config := by
    unfold enter armPeriodicTimer resumeDetach
    split <;> split <;> rfl
  simp only [updateRequest, hframe, hconfig]

/-! ## Procedures that may ask -/

/-- A wanted location update is asked for where the cell allows it. -/
theorem mayRequest_tryUpdate {s : Station} (hidle : s.machine.state = .idle) :
    MayRequestUpdate s s.tryUpdate.station := by
  unfold tryUpdate requestUpdate
  split
  · exact .inr (.of_frame rfl rfl)
  · next hwanted =>
    split
    · next hallowed =>
      split
      · exact .inr (.of_frame rfl rfl)
      · next data hencode =>
        -- Only here is anything sent.
        refine .inl ⟨hidle, hallowed, ?_, ?_, data, ?_, ?_⟩
        · exact (s.enter_frame _ _).1 ▸ rfl
        · have hupdate : (s.enter .waitForRadioLocationUpdate none).update = s.update := by simp
          show (s.enter .waitForRadioLocationUpdate none).update.wanted = true
          rw [hupdate]
          simpa using hwanted
        · exact sentBetween_sendRr rfl (by simp)
        · show (Message.locationUpdatingRequest
            (s.enter .waitForRadioLocationUpdate none).updateRequest).encode = .ok data
          rw [updateRequest_enter]
          exact hencode
    · exact .inr (.of_frame rfl rfl)

theorem mayRequest_startUpdate {s : Station} (hidle : s.machine.state = .idle)
    (kind : UpdateKind) : MayRequestUpdate s (s.startUpdate kind).station := by
  simp only [startUpdate]
  split
  · exact .inr (.of_frame rfl rfl)
  · refine MayRequestUpdate.after (mayRequest_tryUpdate ?_) hidle ?_ ?_ ?_
    · exact hidle
    · exact hidle
    · rfl
    · rfl

theorem mayRequest_selectCell {s : Station} (hidle : s.machine.state = .idle) :
    MayRequestUpdate s s.selectCell.station := by
  have hreturned : s.returnIdle.machine.state = .idle := by simp
  rcases s.selectCell_cases with hcase | hcase <;> rw [hcase]
  · exact (mayRequest_startUpdate hreturned _).after hidle hreturned (by simp) s.record_returnIdle
  · exact .inr (.of_frame (hreturned.trans hidle.symm) (by simp))

/-! ## Procedures that do not ask -/

end Station

/-- The signal asks for a radio link. -/
def Signal.establishes : Signal → Bool
  | establish _ => true
  | _ => false

/-- The course neither asks for a radio link nor leads to the wait for one that carries a location
update. -/
def Course.asksNoUpdate (c : Course) : Bool :=
  c.next ≠ .enters .waitForRadioLocationUpdate && c.sent.all (!·.establishes)

namespace Station

/-- On such a course no location update is asked for. -/
theorem RequestsNoUpdate.of_takes {s t : Station} {c : Course} (h : Takes s t c)
    (hc : c.asksNoUpdate = true) : RequestsNoUpdate s t := by
  simp only [Course.asksNoUpdate, Bool.and_eq_true, decide_eq_true_eq, List.all_eq_true,
    Bool.not_eq_true'] at hc
  obtain ⟨hnext, hsent⟩ := hc
  refine ⟨?_, ?_⟩
  · intro o ho
    obtain ⟨sent, houtbox, hmatches⟩ := h.exists_matches
    rw [sentBetween_of_outbox houtbox] at ho
    by_contra hasks
    -- A request for a radio link is the signal of one.
    cases o with
    | rr p =>
      obtain ⟨signal, hsignal, hmatch⟩ := hmatches _ ho rfl
      have hno := hsent signal hsignal
      have htype : p.type = .establishRequest := by
        simp only [Output.asksUpdate, Bool.and_eq_false_imp, decide_eq_true_eq,
          Classical.not_imp] at hasks
        exact hasks.1
      cases signal <;> simp_all [Signal.Matches, Signal.establishes]
    | _ => exact hasks rfl
  · intro hwaits
    rw [h.leads.state] at hwaits
    cases hcase : c.next with
    | stays => simpa only [hcase, Next.state] using hwaits
    | enters state =>
      rw [hcase] at hwaits hnext
      exact absurd (congrArg Next.enters hwaits) hnext
    | _ =>
      rw [hcase] at hwaits
      cases hwaits

theorem RequestsNoUpdate.of_takesOneOf {s t : Station} {courses : List Course}
    (h : TakesOneOf s t courses) (hc : ∀ c ∈ courses, c.asksNoUpdate = true) :
    RequestsNoUpdate s t := by
  obtain ⟨c, hmem, htakes⟩ := h
  exact .of_takes htakes (hc c hmem)

/-- A request for a service is for no location update. -/
theorem code_causeOf_ne (p : CmPrimitive) :
    (causeOf p).code ≠ EstablishmentCause.locationUpdate.code := by
  unfold causeOf
  split
  · split <;> decide
  · decide
  · decide

theorem silent_requestFromIdle (s : Station) (p : CmPrimitive) :
    ∀ o ∈ sentBetween s (s.requestFromIdle p).station, o.asksUpdate = false := by
  have hrefused {t : Station} (h : t.outbox = s.outbox) (cause : UInt8) :
      ∀ o ∈ sentBetween s (t.refuse p cause), o.asksUpdate = false := by
    have hsent : sentBetween s (t.refuse p cause) = [.cm (p.refusal cause)] :=
      sentBetween_of_outbox (by rw [refuse, sendCm, send, h]; rfl)
    simp [hsent, Output.asksUpdate]
  simp only [requestFromIdle, requestService]
  split
  · exact hrefused rfl _
  · split
    · exact fun _ ho => absurd ho (notMem_sentBetween rfl)
    · next data _ =>
      split
      · exact hrefused rfl _
      · exact fun _ ho => absurd ho (notMem_sentBetween rfl)
      · next table _ =>
        -- The link is asked for here as it is for an update, but for another cause.
        let u : Station := { s with update.attempts := 0, connections := table }
        have hsent : sentBetween s
            ((u.sendRr (.establish (causeOf p) data)).enter .waitForRadioConnection none) =
            [.rr (.establish (causeOf p) data)] :=
          sentBetween_sendRr (enter_frame _ _ _).2.2.2.2.2 rfl
        intro o ho
        have hrequest : o ∈ [Output.rr (.establish (causeOf p) data)] := hsent ▸ ho
        rw [List.mem_singleton.mp hrequest]
        simp [Output.asksUpdate, RrPrimitive.establish, code_causeOf_ne]

theorem requestsNo_cmProcedure (s : Station) (p : CmPrimitive) (procedure : CmProcedure) :
    RequestsNoUpdate s (procedure.run s p).station := by
  have htakes := s.takes_cmProcedure p procedure
  -- A request from the idle state establishes the link, so that its course alone does not tell it
  -- from an update.
  by_cases hradio : procedure = .requestFromIdle
  · subst hradio
    refine ⟨s.silent_requestFromIdle p, ?_⟩
    obtain ⟨c, hmem, hcourse⟩ := htakes
    have htable : ∀ c ∈ CmProcedure.requestFromIdle.courses,
        c.next = .stays ∨ c.next = .enters .waitForRadioConnection := by decide
    intro hwaits
    rw [hcourse.leads.state] at hwaits
    rcases htable c hmem with hnext | hnext <;> rw [hnext] at hwaits
    · exact hwaits
    · cases hwaits
  · refine .of_takesOneOf htakes ?_
    revert hradio
    cases procedure <;> decide

/-- A detach is no location update. -/
theorem requestsNo_startDetach (s : Station) : RequestsNoUpdate s s.startDetach.station := by
  unfold startDetach
  split
  · split
    · exact .of_frame rfl rfl
    · refine ⟨?_, ?_⟩
      · rw [station_done, sentBetween_sendRr rfl (enter_frame _ _ _).2.2.2.2.2]
        simp [Output.asksUpdate, RrPrimitive.establish, EstablishmentCause.code]
      · intro hwaits
        have hstate : (s.enter .waitForRadioDetach none).machine.state = .waitForRadioDetach := by
          simp
        cases hstate.symm.trans hwaits
  · exact .of_takes s.takes_endDetach rfl

/-! ## Inputs -/

theorem mayRequest_eventProcedure {s : Station} {e : Event} {procedure : EventProcedure}
    (hprocedure : s.machine.eventProcedure? e = some procedure) :
    MayRequestUpdate s (procedure.run s e).station := by
  have hstate := state_mem_of_eventProcedure? hprocedure
  have htakes := s.takes_eventProcedure e procedure
  -- The detach establishes the link as well, and is looked at on its own. The courses of all others
  -- tell that they do not.
  by_cases hupdates : procedure.updates = true ∨ procedure = .startDetach
  · cases procedure with
    | normalUpdate => exact mayRequest_startUpdate (List.mem_singleton.mp hstate) _
    | periodicUpdate => exact mayRequest_startUpdate (List.mem_singleton.mp hstate) _
    | tryUpdate => exact mayRequest_tryUpdate (List.mem_singleton.mp hstate)
    | selectCell => exact mayRequest_selectCell (List.mem_singleton.mp hstate)
    | startDetach => exact .inr s.requestsNo_startDetach
    | _ => simp [EventProcedure.updates] at hupdates
  · refine .inr (.of_takesOneOf htakes ?_)
    have htable : ∀ state, ∀ c ∈ procedure.courses state, c.asksNoUpdate = true := by
      intro state
      revert hupdates
      cases procedure <;> cases state <;> decide
    exact htable _

/-- Only an event makes a station ask for a location update. -/
theorem handle_requestsNo {s : Station} {i : Input} (h : ∀ e, i ≠ .event e) :
    RequestsNoUpdate s (s.handle i).station := by
  -- But for the requests of protocols, the courses tell that no update is asked for.
  cases i with
  | cm p =>
    simp only [handle, handleCm]
    split
    · next procedure _ =>
      obtain ⟨hsilent, hwaits⟩ := requestsNo_cmProcedure (s.updateTransaction p) p procedure
      exact ⟨hsilent, hwaits⟩
    · exact .of_frame rfl rfl
  | registration p => exact .of_takes (s.takes_handleRegistration p) rfl
  | rr p =>
    simp only [handle, handleRr]
    split
    · next procedure _ =>
      have htable : ∀ state, ∀ c ∈ procedure.courses state, c.asksNoUpdate = true := by
        intro state
        cases procedure <;> cases state <;> decide
      exact .of_takesOneOf (s.takes_rrProcedure p procedure) (htable _)
    · exact .of_frame rfl rfl
  | message data =>
    have htable : ∀ state, ∀ c ∈ messageCourses state, c.asksNoUpdate = true := by
      intro state
      cases state <;> decide
    exact .of_takesOneOf (s.takes_receiveMessage data) (htable _)
  | event e => exact absurd rfl (h e)

/-- Handling an input asks for a location update or not. -/
theorem handle_mayRequest (s : Station) (i : Input) : MayRequestUpdate s (s.handle i).station := by
  cases i with
  | event e =>
    simp only [handle, handleEvent]
    split
    · next procedure hprocedure => exact mayRequest_eventProcedure hprocedure
    · exact .inr (.of_frame rfl rfl)
  | _ => exact .inr (handle_requestsNo fun _ => by simp)

/-! ## Actions -/

theorem perform_mayRequest (s : Station) (a : Action) : MayRequestUpdate s (s.perform a) := by
  cases hhandled : a.handled? s with
  | none =>
    refine .inr ⟨?_, ?_⟩
    · intro o ho
      rw [← emits, emits_of_not_handled hhandled] at ho
      cases ho
    · rw [machine_of_not_handled hhandled]
      exact id
  | some r =>
    obtain ⟨t, i⟩ := r
    have hqueues := queues_of_handled hhandled
    -- The request is counted from the state before the input was taken, which differs in the queues
    -- alone.
    have hframe : t.machine = s.machine ∧ t.outbox = s.outbox ∧ t.record = s.record := by
      rw [hqueues]
      exact ⟨rfl, rfl, rfl⟩
    rw [perform_of_handled hhandled]
    rcases t.handle_mayRequest i with hasks | ⟨hsilent, hwaits⟩
    · have hidle : s.machine.state = .idle := by
        rw [← hframe.1]
        exact hasks.idle
      exact MayRequestUpdate.after (.inl hasks) hidle hasks.idle hframe.2.1 hframe.2.2
    · refine .inr ⟨?_, ?_⟩
      · rwa [sentBetween, ← hframe.2.1]
      · rwa [← hframe.1]

/-- A location update is asked for exactly in the steps that look like it. -/
theorem asksUpdate_iff {s : Station} {a : Action} :
    s.AsksUpdate a ↔ RequestsUpdate s (s.perform a) := by
  constructor
  · rintro ⟨o, ho, hasks⟩
    refine (s.perform_mayRequest a).resolve_right ?_
    intro hno
    simp [hno.silent o ho] at hasks
  · intro h
    obtain ⟨data, hsent, _⟩ := h.sent
    exact ⟨.rr (.establish .locationUpdate data), by rw [emits, hsent]; simp, rfl⟩

/-- A location update is asked for when an event is handled. -/
theorem AsksUpdate.exists_event {s : Station} {a : Action} (h : s.AsksUpdate a) :
    ∃ t e, a.handled? s = some (t, .event e) := by
  obtain ⟨o, ho, hasks⟩ := h
  cases hhandled : a.handled? s with
  | none =>
    rw [emits_of_not_handled hhandled] at ho
    cases ho
  | some r =>
    obtain ⟨t, i⟩ := r
    -- Nothing but an event makes the request.
    by_cases hevent : ∃ e, i = .event e
    · obtain ⟨e, rfl⟩ := hevent
      exact ⟨t, e, rfl⟩
    · rw [emits_of_handled hhandled] at ho
      have hno := handle_requestsNo (s := t) fun e heq => hevent ⟨e, heq⟩
      simp [hno.silent o ho] at hasks

end Station

/-! ## Stages -/

/-- How far a location update has come: the radio link is asked for, the answer is awaited, a reject
was received, or there is none under way. -/
def MainState.updateStage : MainState → Nat
  | waitForRadioLocationUpdate => 0
  | locationUpdatingInitiated => 1
  | locationUpdatingReject => 2
  | _ => 3

theorem MainState.updateStage_le (state : MainState) : state.updateStage ≤ 3 := by
  cases state <;> decide

namespace Station

/-- No course goes back in the stages, but that of a request for a location update. -/
theorem CourseOf.updateStage_le {m : StateMachine} {c : Course} {i : Input} (h : CourseOf m c i)
    (hother : c.next ≠ .enters .waitForRadioLocationUpdate) :
    m.state.updateStage ≤ (c.next.state m.state).updateStage := by
  refine h.of_tables (P := fun state c => c.next ≠ .enters .waitForRadioLocationUpdate →
    state.updateStage ≤ (c.next.state state).updateStage) ?_ ?_ ?_ ?_ ?_ hother
  · exact fun state _ => Nat.le_refl _
  · intro procedure
    cases procedure <;> decide
  · intro procedure hmessage
    cases procedure <;> first | exact absurd rfl hmessage | decide
  · intro state
    cases state <;> decide
  · intro procedure
    cases procedure <;> decide

/-- Until a location update is asked for, no stage is gone back to. -/
theorem stage_perform {s : Station} {a : Action} (h : ¬ s.AsksUpdate a) :
    s.machine.state.updateStage ≤ (s.perform a).machine.state.updateStage := by
  have hno : RequestsNoUpdate s (s.perform a) :=
    (s.perform_mayRequest a).resolve_left fun hasks => h (asksUpdate_iff.mpr hasks)
  cases hhandled : a.handled? s with
  | none =>
    exact Nat.le_of_eq (by rw [machine_of_not_handled hhandled])
  | some r =>
    obtain ⟨c, hcourse, htakes⟩ := perform_takes hhandled
    have hstate := htakes.leads.state
    -- Only a request leads back to the first stage.
    by_cases hnext : c.next = .enters .waitForRadioLocationUpdate
    · have hwaits : s.machine.state = .waitForRadioLocationUpdate := by
        refine hno.waits ?_
        rw [hstate, hnext]
        rfl
      rw [hwaits]
      exact Nat.zero_le _
    · rw [hstate]
      exact hcourse.updateStage_le hnext

/-- In a run that asks for no location update no stage is gone back to. -/
theorem stage_run {s : Station} {actions : List Action}
    (h : EveryStep (fun s a => ¬ s.AsksUpdate a) s actions) :
    s.machine.state.updateStage ≤ (s.run actions).machine.state.updateStage := by
  induction actions generalizing s with
  | nil => exact Nat.le_refl _
  | cons a rest ih => exact Nat.le_trans (stage_perform h.1) (ih h.2)

end Station

end MobileStation
