import MobileStation.Proofs.Steps.Inputs
import MobileStation.Proofs.Update.Reject
import MobileStation.Proofs.Update.Wanted

/-!
# Where a delayed detach comes back

A detach that has to wait is remembered in a flag, and every change of state takes the flag and puts
the detach back into the event queue. Nothing else that a procedure does touches the flag or a
queue, so a procedure either leaves both alone, or has handed the detach back, however many states
it has passed through.

Main statements: `Resumes.trans` (steps one after the other), `resumes_enter` (a change of state),
`handle_resumes` (the handling of an input) and `queues_handle` (what that does to the queues).
-/

namespace MobileStation

/-! ## Steps -/

namespace Station

/-- What a change of state puts back into the event queue. -/
def delayedEvents (s : Station) : List Event := if s.detachDelayed then [.imsiDetach] else []

/-- What a step does with a delayed detach and with the queues. -/
inductive Resumes (s t : Station) : Prop where
  /-- No state is entered: the flag and the queues are as they were. -/
  | stays (hmachine : t.machine = s.machine) (hdelayed : t.detachDelayed = s.detachDelayed)
      (hqueues : t.queues = s.queues)
  /-- A state is entered: a delayed detach is back in the queue. -/
  | moves (hdelayed : t.detachDelayed = false)
      (hqueues : t.queues = { s.queues with events := s.queues.events ++ s.delayedEvents })

namespace Resumes

variable {s t u : Station}

theorem refl (s : Station) : Resumes s s := .stays rfl rfl rfl

/-- Steps one after the other. The first state that is entered takes the flag, and leaves nothing to
hand back to the states entered after it. -/
theorem trans (first : Resumes s t) (second : Resumes t u) : Resumes s u := by
  -- The detach is taken up again once at most: afterwards none is delayed any more.
  cases first with
  | stays hmachine hdelayed hqueues =>
    have hback : t.delayedEvents = s.delayedEvents := by rw [delayedEvents, hdelayed, delayedEvents]
    cases second with
    | stays hmachine' hdelayed' hqueues' =>
      exact .stays (hmachine'.trans hmachine) (hdelayed'.trans hdelayed) (hqueues'.trans hqueues)
    | moves hdelayed' hqueues' => exact .moves hdelayed' (by rw [hqueues', hqueues, hback])
  | moves hdelayed hqueues =>
    have hnone : t.delayedEvents = [] := by simp [delayedEvents, hdelayed]
    cases second with
    | stays _ hdelayed' hqueues' =>
      exact .moves (hdelayed'.trans hdelayed) (hqueues'.trans hqueues)
    | moves hdelayed' hqueues' =>
      exact .moves hdelayed' (by rw [hqueues', hnone, hqueues, List.append_nil])

/-- A step after updates of other fields. -/
theorem after (h : Resumes t u) (hmachine : t.machine = s.machine)
    (hdelayed : t.detachDelayed = s.detachDelayed) (hqueues : t.queues = s.queues) :
    Resumes s u :=
  (Resumes.stays hmachine hdelayed hqueues).trans h

/-- Procedures one after the other. -/
theorem andThen {o : Outcome} {next : Station → Outcome} (first : Resumes s o.station)
    (second : Resumes o.station (next o.station).station) :
    Resumes s (o.andThen next).station := by
  unfold Outcome.andThen
  split
  · exact first.trans second
  · exact first

end Resumes

/-! ## Changes of state -/

theorem resumes_sendMessage (s : Station) (m : Message) :
    Resumes s (s.sendMessage m).station := by
  unfold sendMessage
  split <;> exact .stays rfl rfl rfl

/-- A change of state puts a delayed detach back. -/
theorem resumes_enter (s : Station) (state : MainState) (substate : Option IdleSubstate) :
    Resumes s (s.enter state substate) := by
  have harm (u : Station) : u.armPeriodicTimer.detachDelayed = u.detachDelayed := by
    unfold armPeriodicTimer
    split <;> rfl
  cases hflag : s.detachDelayed with
  | false =>
    refine .moves ?_ ?_
    · simp [enter, harm, resumeDetach, hflag]
    · simp [enter, resumeDetach, delayedEvents, hflag]
  | true =>
    refine .moves ?_ ?_
    · simp [enter, harm, resumeDetach, queueEvent, hflag]
    · simp [enter, resumeDetach, queueEvent, delayedEvents, hflag]

theorem resumes_returnIdle (s : Station) : Resumes s s.returnIdle := by
  unfold returnIdle
  split
  · exact s.resumes_enter _ _
  · exact (resumes_enter _ _ _).after rfl rfl rfl

theorem resumes_awaitNetwork (s : Station) : Resumes s s.awaitNetwork :=
  (resumes_enter _ _ _).after rfl rfl rfl

theorem resumes_awaitService (s : Station) (state : MainState) :
    Resumes s (s.awaitService state) :=
  (resumes_enter _ _ _).after rfl rfl rfl

theorem resumes_awaitDetach (s : Station) : Resumes s s.awaitDetach :=
  (resumes_enter _ _ _).after rfl rfl rfl

theorem resumes_settle (s : Station) : Resumes s s.settle := by
  unfold settle
  split
  · exact s.resumes_awaitNetwork
  · exact s.resumes_enter _ _

/-! ## Connections -/

theorem resumes_requestService (s : Station) (p : CmPrimitive) (route : Route)
    {next : Station → Station} (hnext : ∀ u, Resumes u (next u)) :
    Resumes s (s.requestService p route next).station := by
  simp only [requestService]
  split
  · exact .stays rfl rfl rfl
  · split
    · exact .stays rfl rfl rfl
    · split
      · exact .stays rfl rfl rfl
      · exact .stays rfl rfl rfl
      · exact (hnext _).after rfl rfl rfl

theorem resumes_withdrawRequest (s : Station) : Resumes s s.withdrawRequest.station :=
  s.resumes_awaitNetwork.trans (resumes_sendMessage _ _)

theorem resumes_releaseRequested (s : Station) (p : CmPrimitive) :
    Resumes s (s.releaseRequested p).station := by
  simp only [releaseRequested]
  split
  · exact (resumes_withdrawRequest _).after rfl rfl rfl
  · exact .stays rfl rfl rfl

theorem resumes_cmProcedure (s : Station) (p : CmPrimitive) (procedure : CmProcedure) :
    Resumes s (procedure.run s p).station := by
  cases procedure with
  | requestFromIdle => exact s.resumes_requestService p _ fun u => u.resumes_enter _ _
  | requestFirst => exact s.resumes_requestService p _ fun u => u.resumes_awaitService _
  | requestAdditional => exact s.resumes_requestService p _ fun u => u.resumes_awaitService _
  | refuseBusy => exact .stays rfl rfl rfl
  | forwardData =>
    simp only [CmProcedure.run, forwardData]
    split <;> exact .stays rfl rfl rfl
  | releaseActive => exact (resumes_settle _).after rfl rfl rfl
  | releaseWaiting => exact .stays rfl rfl rfl
  | releaseRequested => exact s.resumes_releaseRequested p

theorem resumes_beginService (s : Station) : Resumes s s.beginService.station := by
  unfold beginService
  split
  · exact s.resumes_withdrawRequest
  · exact s.resumes_awaitService _

theorem resumes_confirmPending (s : Station) : Resumes s s.confirmPending := by
  unfold confirmPending
  split
  · exact .stays rfl rfl rfl
  · exact .refl s

theorem resumes_confirmService (s : Station) : Resumes s s.confirmService.station := by
  have hactive : Resumes s ((s.stopTimer .t3230).enter .connectionActive none) :=
    (resumes_enter _ _ _).after rfl rfl rfl
  exact hactive.trans (resumes_confirmPending _)

theorem resumes_receiveServiceReject (s : Station) (body : Octets) :
    Resumes s (s.receiveServiceReject body).station := by
  unfold receiveServiceReject
  split
  · exact .refl s
  · dsimp only
    split
    · split <;> exact (resumes_settle _).after rfl rfl rfl
    · exact (resumes_settle _).after rfl rfl rfl

theorem resumes_joinLink (s : Station) : Resumes s s.joinLink := by
  unfold joinLink
  split
  · exact (resumes_enter _ _ _).after rfl rfl rfl
  · exact .refl s

/-- A message that is handed on may take up the link. -/
theorem resumes_joinLink_sendCm (s : Station) (p : CmPrimitive) :
    Resumes s (s.joinLink.sendCm p) :=
  s.resumes_joinLink.trans (.stays rfl rfl rfl)

theorem resumes_receiveCm (s : Station) (protocol : CmProtocol) (header : Header)
    (data : Octets) : Resumes s (s.receiveCm protocol header data).station := by
  simp only [receiveCm]
  split
  · exact s.resumes_joinLink_sendCm _
  · split
    · exact .stays rfl rfl rfl
    · exact (resumes_joinLink_sendCm _ _).after rfl rfl rfl

/-! ## Location updates -/

theorem resumes_tryUpdate (s : Station) : Resumes s s.tryUpdate.station := by
  unfold tryUpdate requestUpdate
  split
  · exact .refl s
  · split
    · split
      · exact .refl s
      · exact (s.resumes_enter _ _).trans (.stays rfl rfl rfl)
    · exact .stays rfl rfl rfl

theorem resumes_startUpdate (s : Station) (kind : UpdateKind) :
    Resumes s (s.startUpdate kind).station := by
  simp only [startUpdate]
  split
  · exact .refl s
  · exact (resumes_tryUpdate _).after rfl rfl rfl

theorem resumes_selectCell (s : Station) : Resumes s s.selectCell.station := by
  rcases s.selectCell_cases with hcase | hcase <;> rw [hcase]
  · exact s.resumes_returnIdle.trans (resumes_startUpdate _ _)
  · exact s.resumes_returnIdle

theorem resumes_failUpdate (s : Station) : Resumes s s.failUpdate.station := by
  have hcounted : Resumes s (s.stopTimer .t3210).countAttempt := by
    unfold countAttempt
    split <;> exact .stays rfl rfl rfl
  have hlater (u : Station) : Resumes u u.retryLater.returnIdle := by
    unfold retryLater
    split <;> exact (resumes_returnIdle _).after rfl rfl rfl
  refine hcounted.trans ?_
  simp only [failUpdate, station_done]
  split
  · exact hlater _
  · exact (hlater _).after rfl rfl rfl

theorem resumes_loseUpdateLink (s : Station) (p : RrPrimitive) :
    Resumes s (s.loseUpdateLink p).station := by
  simp only [loseUpdateLink]
  split
  · exact (resumes_returnIdle _).after rfl rfl rfl
  · exact (resumes_failUpdate _).after rfl rfl rfl

theorem resumes_timeoutUpdate (s : Station) : Resumes s s.timeoutUpdate.station := by
  unfold timeoutUpdate
  split
  · exact (resumes_failUpdate _).after rfl rfl rfl
  · exact .refl s

theorem resumes_receiveUpdateAccept (s : Station) (body : Octets) :
    Resumes s (s.receiveUpdateAccept body).station := by
  unfold receiveUpdateAccept
  split
  · exact .refl s
  · next accept _ =>
    have hregistered : Resumes s (((s.stopTimer .t3212).stopTimer .t3210).registerIn accept.lai) :=
      .stays rfl rfl rfl
    -- Nothing is taken up before a new state is entered, and that is the last that happens.
    refine hregistered.trans (Resumes.andThen ?_ ?_)
    · unfold applyAcceptedIdentity
      split
      · exact (resumes_sendMessage _ _).after rfl rfl rfl
      · exact (resumes_sendMessage _ _).after rfl rfl rfl
      · exact .refl _
    · exact (resumes_awaitNetwork _).after rfl rfl rfl

theorem resumes_rejectFinally (s : Station) (cause : RejectCause) :
    Resumes s (s.rejectFinally cause) := by
  have hidentity : Resumes s (s.rejectIdentity cause) := by
    unfold rejectIdentity
    split <;> exact .stays rfl rfl rfl
  refine hidentity.trans ?_
  unfold rejectFinally forbidRejected
  split
  · exact .stays rfl rfl rfl
  · split <;> exact .stays rfl rfl rfl

theorem resumes_completeReject (s : Station) : Resumes s s.completeReject.station := by
  simp only [completeReject]
  split
  · refine (s.resumes_rejectFinally s.update.rejectCause).trans ?_
    exact (resumes_returnIdle _).after rfl rfl rfl
  · exact (resumes_failUpdate _).after rfl rfl rfl

theorem resumes_applySystemInformation (s : Station) (info : SystemInformation) (chance : Nat) :
    Resumes s (s.applySystemInformation info chance) := by
  simp only [applySystemInformation, changePeriodicInterval]
  split
  · split
    · split <;> exact .stays rfl rfl rfl
    · exact .stays rfl rfl rfl
  · split <;> exact .stays rfl rfl rfl

/-! ## Detach -/

theorem resumes_endDetach (s : Station) : Resumes s s.endDetach.station :=
  (resumes_returnIdle _).after rfl rfl rfl

theorem resumes_startDetach (s : Station) : Resumes s s.startDetach.station := by
  unfold startDetach
  split
  · split
    · exact .refl s
    · exact (s.resumes_enter _ _).trans (.stays rfl rfl rfl)
  · exact s.resumes_endDetach

theorem resumes_detachOverLink (s : Station) : Resumes s s.detachOverLink.station := by
  have hreleased : Resumes s
      ((s.stopTimer .t3230).releaseConnections .all CmCause.normalRelease false) :=
    .stays rfl rfl rfl
  refine hreleased.trans ?_
  simp only [detachOverLink]
  split
  · exact (resumes_sendMessage _ _).andThen (resumes_awaitDetach _)
  · exact resumes_awaitNetwork _

/-! ## Common procedures -/

theorem resumes_receiveAuthenticationReject (s : Station) :
    Resumes s s.receiveAuthenticationReject.station := by
  simp only [receiveAuthenticationReject]
  split
  · exact (resumes_returnIdle _).after rfl rfl rfl
  · exact .stays rfl rfl rfl

theorem resumes_receiveAbort (s : Station) (body : Octets) :
    Resumes s (s.receiveAbort body).station := by
  simp only [receiveAbort]
  split
  · exact .refl s
  · split
    · exact s.resumes_sendMessage _
    · split
      · exact (resumes_returnIdle _).after rfl rfl rfl
      · exact .stays rfl rfl rfl

theorem resumes_messageProcedure (s : Station) (body : Octets) (procedure : MessageProcedure) :
    Resumes s (procedure.run s body).station := by
  -- Only a procedure that enters a state takes up the detach, the others do not even touch the
  -- queue.
  cases procedure with
  | receiveTmsiReallocation =>
    simp only [MessageProcedure.run, receiveTmsiReallocation]
    split
    · exact s.resumes_sendMessage _
    · exact .refl s
    · exact (resumes_sendMessage _ _).after rfl rfl rfl
    · exact (resumes_sendMessage _ _).after rfl rfl rfl
    · exact s.resumes_sendMessage _
  | receiveAuthenticationRequest =>
    simp only [MessageProcedure.run, receiveAuthenticationRequest]
    split
    · exact .refl s
    · split
      · exact .stays rfl rfl rfl
      · exact s.resumes_sendMessage _
  | receiveAuthenticationReject => exact s.resumes_receiveAuthenticationReject
  | receiveIdentityRequest =>
    simp only [MessageProcedure.run, receiveIdentityRequest]
    split
    · exact .refl s
    · split
      · exact s.resumes_sendMessage _
      · split <;> exact s.resumes_sendMessage _
  | receiveAbort => exact s.resumes_receiveAbort body
  | receiveInformation =>
    simp only [MessageProcedure.run, receiveInformation]
    split <;> exact .stays rfl rfl rfl
  | receiveUpdateAccept => exact s.resumes_receiveUpdateAccept body
  | receiveUpdateReject =>
    simp only [MessageProcedure.run, receiveUpdateReject]
    split
    · exact .refl s
    · exact (resumes_enter _ _ _).after rfl rfl rfl
  | receiveServiceAccept =>
    simp only [MessageProcedure.run, receiveServiceAccept]
    split
    · exact s.resumes_confirmService
    · exact .refl s
  | receiveServiceReject => exact s.resumes_receiveServiceReject body
  | receiveStatus =>
    simp only [MessageProcedure.run, receiveStatus]
    split <;> exact .refl s

/-! ## Inputs -/

theorem resumes_noteContact (s : Station) : Resumes s s.noteContact := by
  simp only [noteContact]
  split <;> exact .stays rfl rfl rfl

theorem resumes_receiveMessage (s : Station) (data : Octets) :
    Resumes s (s.receiveMessage data).station := by
  rw [receiveMessage_eq]
  split
  · exact .refl s
  · exact .refl s
  · exact s.resumes_sendMessage _
  · refine s.resumes_noteContact.trans ?_
    split
    · exact resumes_messageProcedure _ _ _
    · exact resumes_sendMessage _ _
  · exact s.resumes_receiveCm _ _ _

theorem resumes_rrProcedure (s : Station) (p : RrPrimitive) (procedure : RrProcedure) :
    Resumes s (procedure.run s p).station := by
  cases procedure with
  | acceptLink => exact s.resumes_enter _ _
  | detachSent => exact s.resumes_awaitDetach
  | endDetach => exact s.resumes_endDetach
  | beginUpdate => exact (resumes_enter _ _ _).after rfl rfl rfl
  | loseUpdateLink => exact s.resumes_loseUpdateLink p
  | completeReject => exact s.resumes_completeReject
  | beginService => exact s.resumes_beginService
  | receiveMessage => exact s.resumes_receiveMessage p.payload
  | confirmService => exact s.resumes_confirmService
  | indicateSync => exact .stays rfl rfl rfl
  | loseConnections => exact (resumes_returnIdle _).after rfl rfl rfl
  | loseLink => exact (resumes_returnIdle _).after rfl rfl rfl

/-- All procedures for events but the one that delays a detach. -/
theorem resumes_eventProcedure (s : Station) (e : Event) {procedure : EventProcedure}
    (h : procedure ≠ .delayDetach) : Resumes s (procedure.run s e).station := by
  cases procedure with
  | normalUpdate => exact s.resumes_startUpdate _
  | periodicUpdate => exact s.resumes_startUpdate _
  | tryUpdate => exact s.resumes_tryUpdate
  | timeoutUpdate => exact s.resumes_timeoutUpdate
  | selectCell => exact s.resumes_selectCell
  | startDetach => exact s.resumes_startDetach
  | endDetach => exact s.resumes_endDetach
  | detachOverLink => exact s.resumes_detachOverLink
  | delayDetach => exact absurd rfl h
  | applySystemInformation =>
    simp only [EventProcedure.run]
    split
    · exact s.resumes_applySystemInformation _ _
    · exact .refl s
  | abortLink => exact (resumes_returnIdle _).after rfl rfl rfl
  | timeoutService => exact (resumes_settle _).after rfl rfl rfl
  | answerAuthentication =>
    simp only [EventProcedure.run]
    split
    · exact s.resumes_sendMessage _
    · exact .refl s
  | nothing => exact .refl s

/-- An input is a detach that has to wait. -/
def Delays (s : Station) (i : Input) : Prop :=
  i = .event .imsiDetach ∧ s.machine.eventProcedure? .imsiDetach = some .delayDetach

/-- Only one procedure delays a detach, and only for the event that asks for it. -/
theorem eq_imsiDetach_of_delayDetach {m : StateMachine} {e : Event}
    (h : m.eventProcedure? e = some .delayDetach) : e = .imsiDetach := by
  have htag := tag_mem_of_eventProcedure? h
  cases e <;> simp_all [EventProcedure.tags, Event.tag]

/-- Handling an input leaves a delayed detach alone or puts it back, unless the input is itself a
detach that has to wait. -/
theorem handle_resumes {s : Station} {i : Input} (h : ¬ s.Delays i) :
    Resumes s (s.handle i).station := by
  cases i with
  | cm p =>
    simp only [handle, handleCm]
    split
    · exact (resumes_cmProcedure _ p _).after rfl rfl rfl
    · exact .stays rfl rfl rfl
  | registration p => cases p <;> exact .stays rfl rfl rfl
  | rr p =>
    simp only [handle, handleRr]
    split
    · exact s.resumes_rrProcedure p _
    · exact .refl s
  | message data => exact s.resumes_receiveMessage data
  | event e =>
    simp only [handle, handleEvent]
    split
    · next procedure hprocedure =>
      refine s.resumes_eventProcedure e ?_
      -- The rule that delays is excluded by the hypothesis.
      rintro rfl
      obtain rfl := eq_imsiDetach_of_delayDetach hprocedure
      exact h ⟨rfl, hprocedure⟩
    · exact .refl s

/-- A detach that has to wait changes nothing but the flag. -/
theorem handle_of_delays {s : Station} {i : Input} (h : s.Delays i) :
    s.handle i = .done { s with detachDelayed := true } := by
  obtain ⟨rfl, hprocedure⟩ := h
  simp only [handle, handleEvent, hprocedure]
  rfl

/-- Handling an input takes nothing out of a queue, and puts nothing into one but events. -/
theorem queues_handle (s : Station) (i : Input) :
    ∃ added, (s.handle i).station.queues =
      { s.queues with events := s.queues.events ++ added } := by
  by_cases hdelays : s.Delays i
  · exact ⟨[], by rw [handle_of_delays hdelays, List.append_nil]; rfl⟩
  · cases handle_resumes hdelays with
    | stays _ _ hqueues => exact ⟨[], by rw [hqueues, List.append_nil]⟩
    | moves _ hqueues => exact ⟨s.delayedEvents, hqueues⟩

end Station

end MobileStation
