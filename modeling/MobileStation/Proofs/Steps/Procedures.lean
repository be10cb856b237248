import MobileStation.Proofs.Steps.Course
import MobileStation.Station.Handle

/-!
# Which courses the procedures take

Each procedure has a short table of courses, and takes one of them whatever it is given. A procedure
whose courses depend on the main state is told the state.

Main statement: `handle_takes` (an input takes one of the courses of the procedure that the rules
select for it).
-/

namespace MobileStation

/-! ## Tables -/

/-- The courses of a procedure for a primitive from above. -/
def CmProcedure.courses : CmProcedure → List Course
  | requestFromIdle =>
    [.stay, ⟨.enters .waitForRadioConnection, [.establish .cmServiceRequest]⟩]
  | requestFirst => [.stay, ⟨.enters .waitForOutgoingConnection, [.send .cmServiceRequest]⟩]
  | requestAdditional =>
    [.stay, ⟨.enters .waitForAdditionalConnection, [.send .cmServiceRequest]⟩]
  | refuseBusy => [.stay]
  | forwardData => [.stay, ⟨.stays, [.forward]⟩]
  | releaseActive => [⟨.enters .waitForNetworkCommand, []⟩, ⟨.enters .connectionActive, []⟩]
  | releaseWaiting => [.stay]
  | releaseRequested => [.stay, ⟨.enters .waitForNetworkCommand, [.send .cmServiceAbort]⟩]

namespace MessageProcedure

/-- All procedures. -/
def all : List MessageProcedure :=
  [receiveTmsiReallocation, receiveAuthenticationRequest, receiveAuthenticationReject,
    receiveIdentityRequest, receiveAbort, receiveInformation, receiveUpdateAccept,
    receiveUpdateReject, receiveServiceAccept, receiveServiceReject, receiveStatus]

theorem mem_all (procedure : MessageProcedure) : procedure ∈ all := by
  cases procedure <;> decide

/-- The courses of a procedure for a message, in a given state. -/
def courses (state : MainState) : MessageProcedure → List Course
  | receiveTmsiReallocation =>
    [.stay, ⟨.stays, [.send .mmStatus]⟩, ⟨.stays, [.send .tmsiReallocationComplete]⟩]
  | receiveAuthenticationRequest => [.stay, ⟨.stays, [.send .mmStatus]⟩]
  | receiveAuthenticationReject =>
    if state = .imsiDetachInitiated then [⟨.idlesWithoutSim, [.abort]⟩] else [.stay]
  | receiveIdentityRequest =>
    [.stay, ⟨.stays, [.send .mmStatus]⟩, ⟨.stays, [.send .identityResponse]⟩]
  | receiveAbort => [.stay, ⟨.stays, [.send .mmStatus]⟩, ⟨.idlesWithoutSim, []⟩]
  | receiveInformation => [.stay]
  | receiveUpdateAccept =>
    [.stay, ⟨.enters .waitForNetworkCommand, []⟩,
      ⟨.enters .waitForNetworkCommand, [.send .tmsiReallocationComplete]⟩]
  | receiveUpdateReject => [.stay, ⟨.enters .locationUpdatingReject, []⟩]
  | receiveServiceAccept => [.stay, ⟨.enters .connectionActive, []⟩]
  | receiveServiceReject =>
    [.stay, ⟨.enters .waitForNetworkCommand, []⟩, ⟨.enters .connectionActive, []⟩]
  | receiveStatus => [.stay]

end MessageProcedure

/-- The courses of a message of the network, in a given state: it is refused, it is handed on, or it
is one of mobility management. -/
def messageCourses (state : MainState) : List Course :=
  [.stay, ⟨.stays, [.send .mmStatus]⟩, ⟨.enters .connectionActive, []⟩] ++
    (MessageProcedure.all.filter (state ∈ ·.states)).flatMap (·.courses state)

/-- The courses of a procedure for a primitive from below, in a given state. -/
def RrProcedure.courses (state : MainState) : RrProcedure → List Course
  | acceptLink => [⟨.enters .waitForNetworkCommand, []⟩]
  | detachSent => [⟨.enters .imsiDetachInitiated, []⟩]
  | endDetach => [⟨.idlesWithoutSim, []⟩]
  | beginUpdate => [⟨.enters .locationUpdatingInitiated, []⟩]
  | loseUpdateLink => [⟨.idles, []⟩]
  | completeReject => [⟨.idles, [.reject]⟩]
  | beginService =>
    [⟨.enters .waitForNetworkCommand, [.send .cmServiceAbort]⟩,
      ⟨.enters .waitForOutgoingConnection, []⟩]
  | receiveMessage => messageCourses state
  | confirmService => [⟨.enters .connectionActive, []⟩]
  | indicateSync => [.stay]
  | loseConnections => [⟨.idles, []⟩]
  | loseLink => [⟨.idles, []⟩]

/-- The courses of a procedure for an event, in a given state. -/
def EventProcedure.courses (state : MainState) : EventProcedure → List Course
  | normalUpdate =>
    [.stay, ⟨.enters .waitForRadioLocationUpdate, [.establish .locationUpdatingRequest]⟩]
  | periodicUpdate =>
    [.stay, ⟨.enters .waitForRadioLocationUpdate, [.establish .locationUpdatingRequest]⟩]
  | tryUpdate =>
    [.stay, ⟨.enters .waitForRadioLocationUpdate, [.establish .locationUpdatingRequest]⟩]
  | timeoutUpdate =>
    if state = .locationUpdatingInitiated then [.stay, ⟨.idles, [.abort]⟩] else [.stay]
  | selectCell =>
    [⟨.idles, []⟩, ⟨.enters .waitForRadioLocationUpdate, [.establish .locationUpdatingRequest]⟩]
  | startDetach =>
    [.stay, ⟨.enters .waitForRadioDetach, [.establish .imsiDetachIndication]⟩,
      ⟨.idlesWithoutSim, []⟩]
  | endDetach => [⟨.idlesWithoutSim, []⟩]
  | detachOverLink =>
    [.stay, ⟨.enters .imsiDetachInitiated, [.send .imsiDetachIndication]⟩,
      ⟨.enters .waitForNetworkCommand, []⟩]
  | delayDetach => [.stay]
  | applySystemInformation => [.stay]
  | abortLink => [⟨.idles, [.abort]⟩]
  | timeoutService => [⟨.enters .waitForNetworkCommand, []⟩, ⟨.enters .connectionActive, []⟩]
  | answerAuthentication => [.stay, ⟨.stays, [.send .authenticationResponse]⟩]
  | nothing => [.stay]

/-- The courses of an input: those of the procedure that the rules select for it. -/
def StateMachine.courses (m : StateMachine) : Input → List Course
  | .cm p => ((m.cmProcedure? p).map CmProcedure.courses).getD [.stay]
  | .registration _ => [.stay]
  | .rr p => ((m.rrProcedure? p).map (RrProcedure.courses m.state)).getD [.stay]
  | .message _ => messageCourses m.state
  | .event e => ((m.eventProcedure? e).map (EventProcedure.courses m.state)).getD [.stay]

namespace Station

/-! ## Connections of the protocols above -/

/-- The signal that carries a service request. -/
def Route.signal : Route → Signal
  | newLink => .establish .cmServiceRequest
  | openLink => .send .cmServiceRequest

theorem sends_route (s : Station) (route : Route) (cause : EstablishmentCause) {m : Message}
    {data : Octets} (htype : m.type = .cmServiceRequest) (h : m.encode = .ok data) :
    Sends s (s.sendRr (route.primitive cause data)) [route.signal] := by
  cases route with
  | newLink =>
    rw [Route.signal, ← htype]
    exact (s.takes_establish cause h).toSends
  | openLink =>
    rw [Route.signal, ← htype]
    exact (s.takes_send h).toSends

/-- A service request is sent, or the station stays. -/
theorem takes_requestService (s : Station) (p : CmPrimitive) (route : Route)
    {next : Station → Station} {state : MainState}
    (hnext : ∀ u : Station, Takes u (next u) ⟨.enters state, []⟩) :
    TakesOneOf s (s.requestService p route next).station
      [.stay, ⟨.enters state, [route.signal]⟩] := by
  simp only [requestService]
  split
  · exact .of_takes ((takes_sendCm _ _).after_frame rfl rfl rfl) (by simp)
  · split
    · exact .of_takes (.of_frame rfl rfl rfl) (by simp)
    · next data hencode =>
      split
      · exact .of_takes ((takes_sendCm _ _).after_frame rfl rfl rfl) (by simp)
      · exact .of_takes (.of_frame rfl rfl rfl) (by simp)
      · next table _ =>
        -- The table is not part of a course, so it is as good as the old one here.
        have hsent : Sends s _ [route.signal] :=
          (sends_route { s with update.attempts := 0, connections := table } route (causeOf p) rfl
            hencode).after rfl (.refl _)
        have htakes : Takes s _ ⟨.enters state, [route.signal]⟩ := hsent.andTakes (hnext _) nofun
        exact .of_takes htakes (by simp)

theorem takes_awaitService (s : Station) (state : MainState) :
    Takes s (s.awaitService state) ⟨.enters state, []⟩ :=
  (takes_enter _ _).after_frame rfl rfl rfl

theorem takes_awaitNetwork (s : Station) :
    Takes s s.awaitNetwork ⟨.enters .waitForNetworkCommand, []⟩ :=
  (takes_enter _ _).after_frame rfl rfl rfl

theorem takes_settle (s : Station) :
    TakesOneOf s s.settle
      [⟨.enters .waitForNetworkCommand, []⟩, ⟨.enters .connectionActive, []⟩] := by
  unfold settle
  split
  · exact .of_takes s.takes_awaitNetwork (by simp)
  · exact .of_takes (s.takes_enter _) (by simp)

theorem takes_withdrawRequest (s : Station) :
    Takes s s.withdrawRequest.station ⟨.enters .waitForNetworkCommand, [.send .cmServiceAbort]⟩ :=
  s.takes_awaitNetwork.andStays (s.awaitNetwork.takes_sendMessage_of_encode rfl)

theorem takes_forwardData (s : Station) (p : CmPrimitive) :
    TakesOneOf s (s.forwardData p).station [.stay, ⟨.stays, [.forward]⟩] := by
  unfold forwardData
  split
  · have hsent : Sends s (s.sendRr (.send p.payload)) [.forward] := s.sends_send rfl rfl
    exact .of_takes (hsent.stays rfl rfl) (by simp)
  · exact .of_takes (takes_sendCm _ _) (by simp)

theorem takes_releaseRequested (s : Station) (p : CmPrimitive) :
    TakesOneOf s (s.releaseRequested p).station
      [.stay, ⟨.enters .waitForNetworkCommand, [.send .cmServiceAbort]⟩] := by
  simp only [releaseRequested]
  split
  · exact .of_takes ((takes_withdrawRequest _).after_frame rfl rfl rfl) (by simp)
  · exact .of_takes (.of_frame rfl rfl rfl) (by simp)

/-- A procedure for a primitive from above takes one of its courses. -/
theorem takes_cmProcedure (s : Station) (p : CmPrimitive) (procedure : CmProcedure) :
    TakesOneOf s (procedure.run s p).station procedure.courses := by
  cases procedure with
  | requestFromIdle => exact s.takes_requestService p .newLink fun u => u.takes_enter _
  | requestFirst => exact s.takes_requestService p .openLink fun u => u.takes_awaitService _
  | requestAdditional => exact s.takes_requestService p .openLink fun u => u.takes_awaitService _
  | refuseBusy => exact .of_takes (takes_sendCm _ _) (by simp [CmProcedure.courses])
  | forwardData => exact s.takes_forwardData p
  | releaseActive => exact (takes_settle _).after_frame rfl rfl rfl
  | releaseWaiting => exact .of_takes (.of_frame rfl rfl rfl) (by simp [CmProcedure.courses])
  | releaseRequested => exact s.takes_releaseRequested p

theorem takes_beginService (s : Station) :
    TakesOneOf s s.beginService.station
      [⟨.enters .waitForNetworkCommand, [.send .cmServiceAbort]⟩,
        ⟨.enters .waitForOutgoingConnection, []⟩] := by
  unfold beginService
  split
  · exact .of_takes s.takes_withdrawRequest (by simp)
  · exact .of_takes (s.takes_awaitService _) (by simp)

theorem takes_confirmPending (s : Station) : Takes s s.confirmPending .stay := by
  unfold confirmPending
  split
  · exact (takes_sendCm _ _).after_frame rfl rfl rfl
  · exact .refl s

theorem takes_confirmService (s : Station) :
    Takes s s.confirmService.station ⟨.enters .connectionActive, []⟩ := by
  have hactive : Takes s ((s.stopTimer .t3230).enter .connectionActive none)
      ⟨.enters .connectionActive, []⟩ :=
    (takes_enter _ _).after_frame rfl rfl rfl
  exact hactive.andStays (takes_confirmPending _)

theorem takes_indicateSync (s : Station) (p : RrPrimitive) :
    Takes s (s.indicateSync p).station .stay := by
  have hsent : Sends s (s.indicateSync p).station [] :=
    (sends_sendAllCm _ _).after rfl (.refl _)
  exact hsent.stays rfl rfl

theorem takes_timeoutService (s : Station) :
    TakesOneOf s s.timeoutService.station
      [⟨.enters .waitForNetworkCommand, []⟩, ⟨.enters .connectionActive, []⟩] := by
  have hreleased := (s.takes_release .pendingOnly CmCause.timerExpiry false).toSends
  exact (takes_settle _).after hreleased (by simp)

theorem takes_loseConnections (s : Station) :
    Takes s s.loseConnections.station ⟨.idles, []⟩ := by
  have hreleased : Sends s
      ((s.stopTimer .t3230).releaseConnections .all CmCause.normalRelease true) [] :=
    (takes_release _ _ _ _).toSends.after rfl (.refl _)
  exact hreleased.andTakes (takes_returnIdle _) (by decide)

theorem takes_abortLink (s : Station) : Takes s s.abortLink.station ⟨.idles, [.abort]⟩ :=
  (s.sends_abort _).andTakes (takes_returnIdle _) (by decide)

theorem takes_loseLink (s : Station) : Takes s s.loseLink.station ⟨.idles, []⟩ :=
  (takes_returnIdle _).after_frame rfl rfl rfl

theorem takes_receiveServiceAccept (s : Station) :
    TakesOneOf s s.receiveServiceAccept.station [.stay, ⟨.enters .connectionActive, []⟩] := by
  unfold receiveServiceAccept
  split
  · exact .of_takes s.takes_confirmService (by simp)
  · exact .refl (by simp)

theorem takes_receiveServiceReject (s : Station) (body : Octets) :
    TakesOneOf s (s.receiveServiceReject body).station
      [.stay, ⟨.enters .waitForNetworkCommand, []⟩, ⟨.enters .connectionActive, []⟩] := by
  simp only [receiveServiceReject]
  split
  · exact .refl (by simp)
  · split
    · -- The registration is forgotten, and maybe the SIM is given up, before the state moves on.
      refine ((takes_settle _).after ?_ (by simp)).mono (by simp)
      refine (takes_release _ _ _ _).toSends.after ?_ ?_
      · split <;> rfl
      · split
        · exact ⟨rfl, rfl, nofun⟩
        · exact ⟨rfl, rfl, id⟩
    · refine ((takes_settle _).after ?_ (by simp)).mono (by simp)
      exact (takes_release _ _ _ _).toSends.after rfl (.refl _)

/-! ## Location updates -/

theorem sends_deregister (s : Station) (status : UpdateStatus) : Sends s (s.deregister status) [] :=
  .of_outbox rfl ⟨rfl, rfl, id⟩

theorem takes_failUpdate (s : Station) : Takes s s.failUpdate.station ⟨.idles, []⟩ := by
  have hcounted : Sends s (s.stopTimer .t3210).countAttempt [] :=
    .of_outbox (by simp [stopTimer]) (.of_eq (by simp [stopTimer]))
  have hfailed (u : Station) : Takes u u.retryLater.returnIdle ⟨.idles, []⟩ :=
    (takes_returnIdle _).after_frame (by simp) (by simp) (by simp)
  simp only [failUpdate]
  split
  · exact hcounted.andTakes (hfailed _) (by decide)
  · exact (hcounted.trans (sends_deregister _ _)).andTakes (hfailed _) (by decide)

theorem takes_loseUpdateLink (s : Station) (p : RrPrimitive) :
    Takes s (s.loseUpdateLink p).station ⟨.idles, []⟩ := by
  simp only [loseUpdateLink]
  split
  · exact (takes_returnIdle _).after_frame rfl rfl rfl
  · exact (takes_failUpdate _).after_frame rfl rfl rfl

theorem takes_timeoutUpdate (s : Station) :
    TakesOneOf s s.timeoutUpdate.station
      (if s.machine.state = .locationUpdatingInitiated then [.stay, ⟨.idles, [.abort]⟩]
        else [.stay]) := by
  unfold timeoutUpdate
  split
  · next h =>
    rw [if_pos h.2]
    exact .of_takes ((s.sends_abort _).andTakes (takes_failUpdate _) (by decide)) (by simp)
  · exact .refl (by split <;> simp)

/-- A request for a location update is sent, or none of the fields is touched that a course is
about. -/
theorem takes_tryUpdate (s : Station) :
    Takes s s.tryUpdate.station
        ⟨.enters .waitForRadioLocationUpdate, [.establish .locationUpdatingRequest]⟩ ∨
      (s.tryUpdate.station.machine = s.machine ∧ s.tryUpdate.station.outbox = s.outbox ∧
        s.tryUpdate.station.subscriber = s.subscriber) := by
  -- The update is not wanted, not allowed, or cannot be written; or the request is sent.
  unfold tryUpdate
  split
  · exact .inr ⟨rfl, rfl, rfl⟩
  · split
    · unfold requestUpdate
      split
      · exact .inr ⟨rfl, rfl, rfl⟩
      · next data hencode =>
        exact .inl ((s.takes_enter _).andStays (takes_establish _ _ hencode))
    · exact .inr ⟨rfl, rfl, rfl⟩

theorem takes_startUpdate (s : Station) (kind : UpdateKind) :
    Takes s (s.startUpdate kind).station
        ⟨.enters .waitForRadioLocationUpdate, [.establish .locationUpdatingRequest]⟩ ∨
      ((s.startUpdate kind).station.machine = s.machine ∧
        (s.startUpdate kind).station.outbox = s.outbox ∧
        (s.startUpdate kind).station.subscriber = s.subscriber) := by
  simp only [startUpdate]
  split
  · exact .inr ⟨rfl, rfl, rfl⟩
  · refine (takes_tryUpdate _).imp (fun h => ?_) id
    exact h.after_frame rfl rfl rfl

theorem takes_selectCell (s : Station) :
    TakesOneOf s s.selectCell.station
      [⟨.idles, []⟩,
        ⟨.enters .waitForRadioLocationUpdate, [.establish .locationUpdatingRequest]⟩] := by
  have hidle : TakesOneOf s s.returnIdle
      [⟨.idles, []⟩,
        ⟨.enters .waitForRadioLocationUpdate, [.establish .locationUpdatingRequest]⟩] :=
    .of_takes s.takes_returnIdle (by simp)
  -- The update starts from the idle state that has been entered, so that both are one course.
  have hupdate : TakesOneOf s s.returnIdle.normalUpdate.station
      [⟨.idles, []⟩,
        ⟨.enters .waitForRadioLocationUpdate, [.establish .locationUpdatingRequest]⟩] := by
    rcases s.returnIdle.takes_startUpdate _ with hrequest | ⟨hmachine, houtbox, hsubscriber⟩
    · exact .of_takes (s.sends_returnIdle.andTakes hrequest (by decide)) (by simp)
    · exact .of_takes (s.takes_returnIdle.before_frame hmachine houtbox hsubscriber) (by simp)
  simp only [selectCell]
  split
  · exact hupdate
  · exact hupdate
  · split
    · exact hupdate
    · exact hidle
  · exact hidle

theorem takes_beginUpdate (s : Station) :
    Takes s s.beginUpdate.station ⟨.enters .locationUpdatingInitiated, []⟩ :=
  (takes_enter _ _).after_frame rfl rfl rfl

/-- An identity in an accept is acknowledged, or there is none to acknowledge. -/
theorem sends_applyAcceptedIdentity (s : Station) (identity : Option MobileIdentity) :
    ∃ t, s.applyAcceptedIdentity identity = .done t ∧
      (Sends s t [] ∨ Sends s t [.send .tmsiReallocationComplete]) := by
  unfold applyAcceptedIdentity
  split
  · refine ⟨_, sendMessage_of_encode _ rfl, .inr ?_⟩
    exact (takes_send _ (m := .tmsiReallocationComplete) rfl).toSends.after rfl ⟨rfl, rfl, id⟩
  · refine ⟨_, sendMessage_of_encode _ rfl, .inr ?_⟩
    exact (takes_send _ (m := .tmsiReallocationComplete) rfl).toSends.after rfl ⟨rfl, rfl, id⟩
  · exact ⟨s, rfl, .inl (.refl s)⟩

theorem takes_receiveUpdateAccept (s : Station) (body : Octets) :
    TakesOneOf s (s.receiveUpdateAccept body).station
      [.stay, ⟨.enters .waitForNetworkCommand, []⟩,
        ⟨.enters .waitForNetworkCommand, [.send .tmsiReallocationComplete]⟩] := by
  simp only [receiveUpdateAccept]
  split
  · exact .refl (by simp)
  · next accept _ =>
    have hstored : Sends s (((s.stopTimer .t3212).stopTimer .t3210).registerIn accept.lai) [] :=
      .of_outbox rfl ⟨rfl, rfl, id⟩
    obtain ⟨t, happly, hsent⟩ := sends_applyAcceptedIdentity
      (((s.stopTimer .t3212).stopTimer .t3210).registerIn accept.lai) accept.identity
    have hreported : Sends t
        ((t.send (.plmnSearch .registered)).send (.registration .registerConfirm)) [] :=
      (t.sends_of_not_signal rfl).trans (sends_of_not_signal _ rfl)
    have hlast := hreported.andTakes (takes_awaitNetwork _) (by decide)
    rw [happly]
    -- Only a new TMSI is confirmed.
    rcases hsent with hnothing | hcomplete
    · exact .of_takes ((hstored.trans hnothing).andTakes hlast (by decide)) (by simp)
    · exact .of_takes ((hstored.trans hcomplete).andTakes hlast (by decide)) (by simp)

theorem takes_receiveUpdateReject (s : Station) (body : Octets) :
    TakesOneOf s (s.receiveUpdateReject body).station
      [.stay, ⟨.enters .locationUpdatingReject, []⟩] := by
  simp only [receiveUpdateReject]
  split
  · exact .refl (by simp)
  · exact .of_takes ((takes_enter _ _).after_frame rfl rfl rfl) (by simp)

theorem isReject_rejectEvent (cause : RejectCause) : (rejectEvent cause).isReject = true := by
  unfold rejectEvent
  split
  · rfl
  · split <;> rfl

theorem sends_rejectEvent (s : Station) (cause : RejectCause) :
    Sends s (s.send (.plmnSearch (rejectEvent cause))) [.reject] :=
  s.sends_send (isReject_rejectEvent cause) (isReject_rejectEvent cause)

theorem sends_rejectIdentity (s : Station) (cause : RejectCause) :
    Sends s (s.rejectIdentity cause) [] := by
  unfold rejectIdentity
  split
  · exact .of_outbox rfl ⟨rfl, rfl, nofun⟩
  · exact .refl s

theorem sends_forbidRejected (s : Station) (cause : RejectCause) :
    Sends s (s.forbidRejected cause) [] := by
  unfold forbidRejected
  split
  · refine .of_outbox rfl ?_
    show s.subscriber.Kept (s.subscriber.forbid s.cell.lai.plmn)
    unfold Subscriber.forbid
    split
    · exact .refl _
    · exact ⟨rfl, rfl, id⟩
  · split
    · exact .of_outbox rfl (.refl _)
    · exact .refl s

theorem takes_completeReject (s : Station) :
    Takes s s.completeReject.station ⟨.idles, [.reject]⟩ := by
  simp only [completeReject]
  split
  · have hforgotten := (s.sends_rejectIdentity s.update.rejectCause).trans
      (sends_deregister _ .roamingNotAllowed)
    have hreported := hforgotten.trans (sends_rejectEvent _ s.update.rejectCause)
    have hforbidden := hreported.trans (sends_forbidRejected _ s.update.rejectCause)
    exact hforbidden.andTakes ((takes_returnIdle _).after_frame rfl rfl rfl) (by decide)
  · exact (s.sends_rejectEvent _).andTakes (takes_failUpdate _) (by decide)

/-! ## System information -/

theorem takes_applySystemInformation (s : Station) (info : SystemInformation) (chance : Nat) :
    Takes s (s.applySystemInformation info chance) .stay := by
  have hchanged (u : Station) (seconds : UInt32) :
      (u.changePeriodicInterval seconds chance).subscriber = u.subscriber := by
    unfold changePeriodicInterval
    split <;> rfl
  -- What a course keeps of the subscriber is not about attaching.
  have hsubscriber : (s.applySystemInformation info chance).subscriber =
      { s.subscriber with attachAllowed := info.attachAllowed } := by
    simp only [applySystemInformation]
    split
    · split
      · exact hchanged _ _
      · rfl
    · split <;> rfl
  have hsent : Sends s (s.applySystemInformation info chance) [] :=
    .of_outbox (by simp) (by rw [hsubscriber]; exact ⟨rfl, rfl, id⟩)
  exact hsent.takes ⟨by simp, by rw [hsubscriber]; exact id⟩

/-! ## Detach -/

/-- A detach that ends tells of no reject and makes the SIM unusable. -/
theorem takes_endDetach (s : Station) : Takes s s.endDetach.station ⟨.idlesWithoutSim, []⟩ := by
  let unusable : Station :=
    { s.stopTimer .t3220 with
      subscriber := { s.subscriber with simValid := false, attached := false } }
  have hgivenUp : Sends s unusable [] := .of_outbox rfl ⟨rfl, rfl, nofun⟩
  have hreported := ((hgivenUp.trans
    (sends_of_not_signal _ (o := .plmnSearch .simRemoved) rfl)).trans
    (sends_of_not_signal _ (o := .cellSelection .simRemoved) rfl)).trans
    (sends_of_not_signal _ (o := .registration .deregisterIndication) rfl)
  exact takes_returnIdle_of_not_simValid hreported rfl

theorem takes_startDetach (s : Station) :
    TakesOneOf s s.startDetach.station
      [.stay, ⟨.enters .waitForRadioDetach, [.establish .imsiDetachIndication]⟩,
        ⟨.idlesWithoutSim, []⟩] := by
  unfold startDetach
  split
  · split
    · exact .refl (by simp)
    · next data hencode =>
      have hasked : Takes s _ ⟨.enters .waitForRadioDetach, [.establish .imsiDetachIndication]⟩ :=
        (s.takes_enter _).andStays (takes_establish _ .otherSignalling hencode)
      exact .of_takes hasked (by simp)
  · exact .of_takes s.takes_endDetach (by simp)

theorem takes_awaitDetach (s : Station) :
    Takes s s.awaitDetach ⟨.enters .imsiDetachInitiated, []⟩ :=
  (takes_enter _ _).after_frame rfl rfl rfl

theorem takes_detachOverLink (s : Station) :
    TakesOneOf s s.detachOverLink.station
      [.stay, ⟨.enters .imsiDetachInitiated, [.send .imsiDetachIndication]⟩,
        ⟨.enters .waitForNetworkCommand, []⟩] := by
  have hreleased : Takes s
      ((s.stopTimer .t3230).releaseConnections .all CmCause.normalRelease false) .stay :=
    (takes_release _ _ _ _).after_frame rfl rfl rfl
  simp only [detachOverLink]
  split
  -- If the indication cannot be written, the procedure ends with the release.
  · cases hencode : ((s.stopTimer .t3230).releaseConnections .all CmCause.normalRelease
        false).detachIndication.encode with
    | error e =>
      rw [sendMessage_of_not_encode _ hencode]
      exact .of_takes hreleased (by simp)
    | ok data =>
      rw [sendMessage_of_encode _ hencode]
      have hsent : Sends s _ [.send .imsiDetachIndication] :=
        hreleased.toSends.trans (takes_send _ hencode).toSends
      exact .of_takes (hsent.andTakes (takes_awaitDetach _) (by decide)) (by simp)
  · have hwaits : Takes s _ ⟨.enters .waitForNetworkCommand, []⟩ :=
      hreleased.toSends.andTakes (takes_awaitNetwork _) (by decide)
    exact .of_takes hwaits (by simp)

/-! ## Common procedures -/

/-- An answer after updates of the stored area and identity. -/
theorem takes_reallocationComplete {s t : Station} (hmachine : t.machine = s.machine)
    (houtbox : t.outbox = s.outbox) (hkept : s.subscriber.Kept t.subscriber)
    (hstatus : t.subscriber.isUpdatedWithoutSim = s.subscriber.isUpdatedWithoutSim) :
    Takes s (t.sendMessage .tmsiReallocationComplete).station
      ⟨.stays, [.send .tmsiReallocationComplete]⟩ := by
  have hsent := (t.takes_sendMessage_of_encode (m := .tmsiReallocationComplete) rfl).toSends
  refine (hsent.after houtbox hkept).takes ⟨?_, ?_⟩
  · simpa using hmachine
  · simp [hstatus]

theorem takes_receiveTmsiReallocation (s : Station) (body : Octets) :
    TakesOneOf s (s.receiveTmsiReallocation body).station
      [.stay, ⟨.stays, [.send .mmStatus]⟩, ⟨.stays, [.send .tmsiReallocationComplete]⟩] := by
  unfold receiveTmsiReallocation
  split
  · exact .of_takes (s.takes_sendStatus _) (by simp)
  · exact .refl (by simp)
  · exact .of_takes (takes_reallocationComplete rfl rfl ⟨rfl, rfl, id⟩ rfl) (by simp)
  · exact .of_takes (takes_reallocationComplete rfl rfl ⟨rfl, rfl, id⟩ rfl) (by simp)
  · exact .of_takes (s.takes_sendStatus _) (by simp)

theorem takes_receiveAuthenticationRequest (s : Station) (body : Octets) :
    TakesOneOf s (s.receiveAuthenticationRequest body).station
      [.stay, ⟨.stays, [.send .mmStatus]⟩] := by
  unfold receiveAuthenticationRequest
  split
  · exact .refl (by simp)
  · next request _ =>
    split
    · have hsent : Sends s
          ({ s with subscriber.keySequence := request.keySequence }.send
            (.sim ⟨request.keySequence, request.rand⟩)) [] :=
        (sends_of_not_signal _ rfl).after rfl ⟨rfl, rfl, id⟩
      exact .of_takes (c := .stay) (hsent.takes ⟨rfl, id⟩) (by simp)
    · exact .of_takes (s.takes_sendStatus _) (by simp)

/-- The SIM is given up and the registration forgotten. -/
theorem sends_loseSim (s : Station) (status : UpdateStatus) :
    Sends s ({ s with subscriber.simValid := false }.deregister status) [] :=
  .of_outbox rfl ⟨rfl, rfl, nofun⟩

theorem takes_receiveAuthenticationReject (s : Station) :
    TakesOneOf s s.receiveAuthenticationReject.station
      (if s.machine.state = .imsiDetachInitiated then [⟨.idlesWithoutSim, [.abort]⟩]
        else [.stay]) := by
  -- Either way the SIM is lost; only a detach under way goes to the idle state for it.
  have hrefused : Sends s
      ({ s.stopTimer .t3212 with subscriber.simValid := false }.deregister .roamingNotAllowed) [] :=
    (sends_loseSim (s.stopTimer .t3212) _).after rfl (.refl _)
  simp only [receiveAuthenticationReject]
  split
  · next hstate =>
    have hstate : s.machine.state = .imsiDetachInitiated := hstate
    rw [if_pos hstate]
    have haborted := hrefused.trans (sends_abort _ RrCause.normalAbort)
    exact .of_takes (takes_returnIdle_of_not_simValid haborted rfl) (by simp)
  · next hstate =>
    have hstate : s.machine.state ≠ .imsiDetachInitiated := hstate
    rw [if_neg hstate]
    exact .of_takes (c := .stay) (hrefused.takes ⟨rfl, nofun⟩) (by simp)

theorem takes_receiveIdentityRequest (s : Station) (body : Octets) :
    TakesOneOf s (s.receiveIdentityRequest body).station
      [.stay, ⟨.stays, [.send .mmStatus]⟩, ⟨.stays, [.send .identityResponse]⟩] := by
  simp only [receiveIdentityRequest]
  split
  · exact .refl (by simp)
  · split
    · exact .of_takes (s.takes_sendStatus _) (by simp)
    · split
      · exact .of_takes (s.takes_sendStatus _) (by simp)
      · exact (s.takes_sendMessage _).mono (by simp [Message.type])

theorem takes_receiveAbort (s : Station) (body : Octets) :
    TakesOneOf s (s.receiveAbort body).station
      [.stay, ⟨.stays, [.send .mmStatus]⟩, ⟨.idlesWithoutSim, []⟩] := by
  -- The connections are released before the cause is looked at.
  have hreleased : Takes s
      ((s.stopTimer .t3230).releaseConnections .all CmCause.normalRelease false) .stay :=
    (takes_release _ _ _ _).after_frame rfl rfl rfl
  simp only [receiveAbort]
  split
  · exact .refl (by simp)
  · split
    · exact .of_takes (s.takes_sendStatus _) (by simp)
    · split
      · have hrefused : Sends s _ [] :=
          hreleased.toSends.trans (sends_loseSim _ .roamingNotAllowed)
        exact .of_takes (takes_returnIdle_of_not_simValid hrefused rfl) (by simp)
      · exact .of_takes hreleased (by simp)

theorem takes_receiveInformation (s : Station) (body : Octets) :
    Takes s (s.receiveInformation body).station .stay := by
  unfold receiveInformation
  split <;> exact .of_frame rfl rfl rfl

theorem takes_receiveStatus (s : Station) (body : Octets) :
    Takes s (s.receiveStatus body).station .stay := by
  unfold receiveStatus
  split <;> exact .refl s

/-- A procedure for a message takes one of its courses. -/
theorem takes_messageProcedure (s : Station) (body : Octets) (procedure : MessageProcedure) :
    TakesOneOf s (procedure.run s body).station (procedure.courses s.machine.state) := by
  cases procedure with
  | receiveTmsiReallocation => exact s.takes_receiveTmsiReallocation body
  | receiveAuthenticationRequest => exact s.takes_receiveAuthenticationRequest body
  | receiveAuthenticationReject => exact s.takes_receiveAuthenticationReject
  | receiveIdentityRequest => exact s.takes_receiveIdentityRequest body
  | receiveAbort => exact s.takes_receiveAbort body
  | receiveInformation =>
    exact .of_takes (s.takes_receiveInformation body) (by simp [MessageProcedure.courses])
  | receiveUpdateAccept => exact s.takes_receiveUpdateAccept body
  | receiveUpdateReject => exact s.takes_receiveUpdateReject body
  | receiveServiceAccept => exact s.takes_receiveServiceAccept
  | receiveServiceReject => exact s.takes_receiveServiceReject body
  | receiveStatus =>
    exact .of_takes (s.takes_receiveStatus body) (by simp [MessageProcedure.courses])

/-! ## Messages of the network -/

/-- A message that is handed on takes a course of joining the link. -/
theorem takes_joinLink_sendCm (s : Station) (p : CmPrimitive) :
    TakesOneOf s (s.joinLink.sendCm p) [.stay, ⟨.enters .connectionActive, []⟩] := by
  unfold joinLink
  split
  · have hactive : Takes s ((s.stopTimer .t3240).enter .connectionActive none)
        ⟨.enters .connectionActive, []⟩ :=
      (takes_enter _ _).after_frame rfl rfl rfl
    exact .of_takes (hactive.andStays (takes_sendCm _ _)) (by simp)
  · exact .of_takes (s.takes_sendCm p) (by simp)

theorem takes_receiveCm (s : Station) (protocol : CmProtocol) (header : Header) (data : Octets) :
    TakesOneOf s (s.receiveCm protocol header data).station
      [.stay, ⟨.enters .connectionActive, []⟩] := by
  simp only [receiveCm]
  split
  · exact s.takes_joinLink_sendCm _
  · split
    · exact .of_takes (.of_frame rfl rfl rfl) (by simp)
    · exact (takes_joinLink_sendCm _ _).after_frame rfl rfl rfl

theorem takes_receiveMm (s : Station) (header : Header) (body : Octets) :
    TakesOneOf s (s.receiveMm header body).station (messageCourses s.machine.state) := by
  have hstatus (u : Station) (cause : RejectCause) :
      TakesOneOf u (u.sendStatus cause).station (messageCourses s.machine.state) :=
    .of_takes (u.takes_sendStatus cause) (by simp [messageCourses])
  simp only [receiveMm]
  split
  · exact .refl (by simp [messageCourses])
  · split
    · exact hstatus s _
    · next type _ =>
      -- Noting the contact touches timers alone, so the course may be told from the state before
      -- it.
      refine TakesOneOf.after_frame (t := s.noteContact) ?_ (by simp) (by simp) (by simp)
      split
      · next procedure hprocedure =>
        have hstate := state_mem_of_messageProcedure hprocedure
        have hrun := s.noteContact.takes_messageProcedure body procedure
        simp only [noteContact_frame] at hstate hrun
        refine hrun.mono fun c hc => ?_
        exact List.mem_append_right _ (List.mem_flatMap.mpr
          ⟨procedure, List.mem_filter.mpr ⟨procedure.mem_all, by simpa using hstate⟩, hc⟩)
      · exact hstatus s.noteContact _

theorem takes_receiveMessage (s : Station) (data : Octets) :
    TakesOneOf s (s.receiveMessage data).station (messageCourses s.machine.state) := by
  have hstatus (cause : RejectCause) :
      TakesOneOf s (s.sendStatus cause).station (messageCourses s.machine.state) :=
    .of_takes (s.takes_sendStatus cause) (by simp [messageCourses])
  unfold receiveMessage
  split
  · exact .refl (by simp [messageCourses])
  · split
    · exact s.takes_receiveMm _ _
    · split
      · exact (s.takes_receiveCm _ _ _).mono (by simp [messageCourses])
      · exact hstatus _
    · exact hstatus _

/-! ## Inputs -/

/-- A procedure for a primitive from below takes one of its courses. -/
theorem takes_rrProcedure (s : Station) (p : RrPrimitive) (procedure : RrProcedure) :
    TakesOneOf s (procedure.run s p).station (procedure.courses s.machine.state) := by
  cases procedure with
  | acceptLink => exact .of_takes (s.takes_enter _) (by simp [RrProcedure.courses])
  | detachSent => exact .of_takes s.takes_awaitDetach (by simp [RrProcedure.courses])
  | endDetach => exact .of_takes s.takes_endDetach (by simp [RrProcedure.courses])
  | beginUpdate => exact .of_takes s.takes_beginUpdate (by simp [RrProcedure.courses])
  | loseUpdateLink => exact .of_takes (s.takes_loseUpdateLink p) (by simp [RrProcedure.courses])
  | completeReject => exact .of_takes s.takes_completeReject (by simp [RrProcedure.courses])
  | beginService => exact s.takes_beginService
  | receiveMessage => exact s.takes_receiveMessage p.payload
  | confirmService => exact .of_takes s.takes_confirmService (by simp [RrProcedure.courses])
  | indicateSync => exact .of_takes (s.takes_indicateSync p) (by simp [RrProcedure.courses])
  | loseConnections => exact .of_takes s.takes_loseConnections (by simp [RrProcedure.courses])
  | loseLink => exact .of_takes s.takes_loseLink (by simp [RrProcedure.courses])

/-- A request for a location update as one of several courses. -/
theorem takes_update {s t : Station}
    (h : Takes s t
        ⟨.enters .waitForRadioLocationUpdate, [.establish .locationUpdatingRequest]⟩ ∨
      (t.machine = s.machine ∧ t.outbox = s.outbox ∧ t.subscriber = s.subscriber)) :
    TakesOneOf s t
      [.stay, ⟨.enters .waitForRadioLocationUpdate, [.establish .locationUpdatingRequest]⟩] := by
  rcases h with hrequest | ⟨hmachine, houtbox, hsubscriber⟩
  · exact .of_takes hrequest (by simp)
  · exact .of_takes (.of_frame hmachine houtbox hsubscriber) (by simp)

/-- A procedure for an event takes one of its courses. -/
theorem takes_eventProcedure (s : Station) (e : Event) (procedure : EventProcedure) :
    TakesOneOf s (procedure.run s e).station (procedure.courses s.machine.state) := by
  cases procedure with
  | normalUpdate => exact takes_update (s.takes_startUpdate _)
  | periodicUpdate => exact takes_update (s.takes_startUpdate _)
  | tryUpdate => exact takes_update s.takes_tryUpdate
  | timeoutUpdate => exact s.takes_timeoutUpdate
  | selectCell => exact s.takes_selectCell
  | startDetach => exact s.takes_startDetach
  | endDetach => exact .of_takes s.takes_endDetach (by simp [EventProcedure.courses])
  | detachOverLink => exact s.takes_detachOverLink
  | delayDetach => exact .of_takes (.of_frame rfl rfl rfl) (by simp [EventProcedure.courses])
  | applySystemInformation =>
    cases e with
    | systemInformation info chance =>
      exact .of_takes (s.takes_applySystemInformation info chance)
        (by simp [EventProcedure.courses])
    | _ => exact .refl (by simp [EventProcedure.courses])
  | abortLink => exact .of_takes s.takes_abortLink (by simp [EventProcedure.courses])
  | timeoutService => exact s.takes_timeoutService
  | answerAuthentication =>
    cases e with
    | authenticationResponse sres => exact s.takes_sendMessage _
    | _ => exact .refl (by simp [EventProcedure.courses])
  | nothing => exact .refl (by simp [EventProcedure.courses])

theorem takes_handleRegistration (s : Station) (p : RegistrationPrimitive) :
    Takes s (s.handleRegistration p).station .stay := by
  cases p with
  | registerRequest => exact (s.sends_of_not_signal rfl).stays rfl rfl
  | deregisterRequest =>
    exact ((s.sends_of_not_signal rfl).trans (sends_of_not_signal _ rfl)).stays rfl rfl
  | registerConfirm => exact .refl s
  | deregisterIndication => exact .refl s

/-- An input takes one of the courses of the procedure that the rules select for it. -/
theorem handle_takes (s : Station) (i : Input) :
    TakesOneOf s (s.handle i).station (s.machine.courses i) := by
  cases i with
  | cm p =>
    -- The transaction that is taken over first is part of the connections alone.
    refine TakesOneOf.after_frame (t := s.updateTransaction p) ?_ rfl rfl rfl
    show TakesOneOf _ (s.handleCm p).station _
    simp only [handleCm, StateMachine.courses]
    have hmachine : (s.updateTransaction p).machine = s.machine := rfl
    rw [hmachine]
    cases s.machine.cmProcedure? p with
    | some procedure => exact takes_cmProcedure _ p procedure
    | none => exact .refl (by simp)
  | registration p =>
    exact .of_takes (s.takes_handleRegistration p) (by simp [StateMachine.courses])
  | rr p =>
    simp only [handle, handleRr, StateMachine.courses]
    cases s.machine.rrProcedure? p with
    | some procedure => exact s.takes_rrProcedure p procedure
    | none => exact .refl (by simp)
  | message data => exact s.takes_receiveMessage data
  | event e =>
    simp only [handle, handleEvent, StateMachine.courses]
    cases s.machine.eventProcedure? e with
    | some procedure => exact s.takes_eventProcedure e procedure
    | none => exact .refl (by simp)

end Station

end MobileStation
