import MobileStation.Proofs.Rules
import MobileStation.Proofs.Update.Retry

/-!
# Procedures that are about something else

Most procedures have nothing to do with a location update: they are made of a few local updates that
touch a location update only where the station returns to the idle state without a usable SIM, or
where a service is asked for. What all of these local updates preserve, every such procedure does.

Main statements: `Calm.spares` (what such steps leave of a location update), `calm_cmProcedure`,
`calm_receiveMessage`, `calm_rrProcedure` and `calm_eventProcedure` (the procedures that are made of
them).
-/

namespace MobileStation

/-! ## Local updates -/

/-- The states of a location update that is under way. -/
def MainState.updates : MainState → Bool
  | waitForRadioLocationUpdate => true
  | locationUpdatingInitiated => true
  | locationUpdatingReject => true
  | _ => false

/-- A SIM that was unusable is so still, and a subscriber that was not updated is not. -/
structure Subscriber.Fades (before after : Subscriber) : Prop where
  sim : after.simValid = true → before.simValid = true
  updated : after.isUpdated = true → before.isUpdated = true

theorem Subscriber.Fades.refl (u : Subscriber) : u.Fades u := ⟨id, id⟩

namespace Station

/-- What local updates are told by: the state, the timers, what waits, the location update, and what
the deadlines of timers are counted from. -/
def skeleton (s : Station) :
    StateMachine × TimerSet × Queues × LocationUpdate × UInt32 × Nat × Config :=
  (s.machine, s.timers, s.queues, s.update, s.periodicInterval, s.now, s.config)

/-- For how many seconds the station starts the timer. -/
def secondsOf (s : Station) : TimerName → Nat
  | .t3210 => s.config.timers.t3210.toNat
  | .t3211 => s.config.timers.t3211.toNat
  | .t3212 => s.periodicInterval.toNat
  | .t3213 => s.config.timers.t3213.toNat
  | .t3220 => s.config.timers.t3220.toNat
  | .t3230 => s.config.timers.t3230.toNat
  | .t3240 => s.config.timers.t3240.toNat

end Station

/-- A step that is made of local updates which are not about a location update. The attempts are
cleared only where `resets`. -/
inductive Calm (resets : Bool) : Station → Station → Prop where
  /-- Nothing is changed that local updates are told by. -/
  | frame {s t : Station} (hskeleton : t.skeleton = s.skeleton)
      (hsubscriber : s.subscriber.Fades t.subscriber) : Calm resets s t
  | startTimer (s : Station) (name : TimerName) (h : name ∉ [.t3211, .t3212, .t3213]) :
      Calm resets s (s.startTimer name (s.secondsOf name))
  | stopTimer (s : Station) (name : TimerName) (h : name.isRetry = false) :
      Calm resets s (s.stopTimer name)
  /-- A service is asked for. -/
  | clearAttempts (s : Station) (h : resets = true) :
      Calm resets s { s with update.attempts := 0 }
  /-- A state is entered that is neither idle nor one of a location update. -/
  | enter (s : Station) (state : MainState) (substate : Option IdleSubstate)
      (h : state ≠ .idle ∧ state.updates = false) : Calm resets s (s.enter state substate)
  | returnIdle (s : Station) : Calm resets s s.returnIdle
  | trans {s t u : Station} (first : Calm resets s t) (second : Calm resets t u) : Calm resets s u

namespace Calm

variable {resets : Bool} {s t u : Station}

theorem of_frame (hskeleton : t.skeleton = s.skeleton)
    (hsim : t.subscriber.simValid = s.subscriber.simValid)
    (hstatus : t.subscriber.status = s.subscriber.status) : Calm resets s t := by
  refine .frame hskeleton ⟨fun h => hsim ▸ h, ?_⟩
  rw [Subscriber.isUpdated, Subscriber.isUpdated, hstatus]
  exact id

/-- The SIM becomes unusable. -/
theorem of_lost (hskeleton : t.skeleton = s.skeleton) (hsim : t.subscriber.simValid = false)
    (hstatus : t.subscriber.status = s.subscriber.status) : Calm resets s t := by
  refine .frame hskeleton ⟨fun h => absurd h (by simp [hsim]), ?_⟩
  rw [Subscriber.isUpdated, Subscriber.isUpdated, hstatus]
  exact id

theorem refl (s : Station) : Calm resets s s := of_frame rfl rfl rfl

/-- A step after updates of other fields. -/
theorem after (h : Calm resets t u) (hskeleton : t.skeleton = s.skeleton)
    (hsim : t.subscriber.simValid = s.subscriber.simValid)
    (hstatus : t.subscriber.status = s.subscriber.status) : Calm resets s u :=
  (of_frame hskeleton hsim hstatus).trans h

/-- Procedures one after the other. -/
theorem andThen {o : Outcome} {next : Station → Outcome} (first : Calm resets s o.station)
    (second : Calm resets o.station (next o.station).station) :
    Calm resets s (o.andThen next).station := by
  unfold Outcome.andThen
  split
  · exact first.trans second
  · exact first

/-- A step that need not clear the attempts is one that may. -/
theorem weaken (h : Calm resets s t) : Calm true s t := by
  induction h with
  | frame hskeleton hsubscriber => exact .frame hskeleton hsubscriber
  | startTimer s name hname => exact .startTimer s name hname
  | stopTimer s name hname => exact .stopTimer s name hname
  | clearAttempts s _ => exact .clearAttempts s rfl
  | enter s state substate hstate => exact .enter s state substate hstate
  | returnIdle s => exact .returnIdle s
  | trans _ _ first second => exact first.trans second

end Calm

/-! ## What they leave of a location update -/

/-- The station has given up updating for want of a usable SIM: no location update is wanted, and
the substate of the idle state starts none. -/
structure Station.Resigned (s : Station) : Prop where
  sim : s.subscriber.simValid = false
  unwanted : s.update.wanted = false
  substate : s.machine.state = .idle → s.machine.lastSubstate = .noImsi

/-- A step that leaves a location update as it is, or gives it up for want of a usable SIM. The
attempts are cleared only where `resets`. -/
structure Spares (resets : Bool) (s t : Station) : Prop where
  attempts : t.update.attempts = s.update.attempts ∨ resets = true ∧ t.update.attempts = 0
  accessFailed : t.update.accessFailed = s.update.accessFailed
  prospects : t.prospects = s.prospects
  wanted : t.update.wanted = true → s.update.wanted = true
  lost : s.update.wanted = true → t.update.wanted = false → t.Resigned
  resigned : s.Resigned → t.Resigned
  /-- A step that ends in a stage of an update has not left it. -/
  stage : t.machine.state.updates = true →
    t.machine.state = s.machine.state ∧ t.update.wanted = s.update.wanted
  updated : t.subscriber.isUpdated = true → s.subscriber.isUpdated = true

namespace Spares

variable {resets : Bool} {s t u : Station}

theorem trans (first : Spares resets s t) (second : Spares resets t u) : Spares resets s u where
  attempts := by
    rcases second.attempts with hsame | hcleared
    · rw [hsame]
      exact first.attempts
    · exact .inr hcleared
  accessFailed := second.accessFailed.trans first.accessFailed
  prospects := second.prospects.trans first.prospects
  wanted h := first.wanted (second.wanted h)
  -- The wish is lost in the first step or in the second one. A loss in the first one leaves the
  -- station without a SIM, and it stays that way.
  lost := by
    intro hwanted hgone
    cases hbetween : t.update.wanted with
    | true => exact second.lost hbetween hgone
    | false => exact second.resigned (first.lost hwanted hbetween)
  resigned h := second.resigned (first.resigned h)
  stage := by
    intro hupdates
    obtain ⟨hstate, hkept⟩ := second.stage hupdates
    obtain ⟨hfirst, hbefore⟩ := first.stage (hstate ▸ hupdates)
    exact ⟨hstate.trans hfirst, hkept.trans hbefore⟩
  updated h := first.updated (second.updated h)

/-- A step that touches neither the state nor the wish for an update, and opens no prospect. -/
theorem of_frame (hmachine : t.machine = s.machine) (hupdate : t.update = s.update)
    (hprospects : t.prospects = s.prospects) (hsubscriber : s.subscriber.Fades t.subscriber) :
    Spares resets s t where
  attempts := .inl (by rw [hupdate])
  accessFailed := by rw [hupdate]
  prospects := hprospects
  wanted h := hupdate ▸ h
  lost := by
    intro hwanted hgone
    rw [hupdate, hwanted] at hgone
    cases hgone
  resigned := by
    intro h
    refine ⟨?_, hupdate ▸ h.unwanted, hmachine ▸ h.substate⟩
    cases hvalid : t.subscriber.simValid with
    | false => rfl
    | true => exact (hsubscriber.sim hvalid).symm.trans h.sim
  stage _ := ⟨by rw [hmachine], by rw [hupdate]⟩
  updated := hsubscriber.updated

theorem enter (s : Station) {state : MainState} (substate : Option IdleSubstate)
    (h : state ≠ .idle ∧ state.updates = false) : Spares resets s (s.enter state substate) := by
  obtain ⟨hidle, hupdates⟩ := h
  refine ⟨.inl (by simp), by simp, s.prospects_enter _ _, by simp, ?_, ?_, ?_, by simp⟩
  · intro hwanted hgone
    simp [hwanted] at hgone
  · intro hresigned
    refine ⟨by simpa using hresigned.sim, by simpa using hresigned.unwanted, ?_⟩
    intro hstate
    rw [(s.enter_frame state substate).1] at hstate
    exact absurd hstate hidle
  · intro h
    simp [hupdates] at h

theorem returnIdle (s : Station) : Spares resets s s.returnIdle := by
  -- Without a usable SIM the update is given up, and the substate is that of a missing SIM.
  have hresigned (hsim : s.subscriber.simValid = false) : s.returnIdle.Resigned := by
    refine ⟨by simpa using hsim, by simp [hsim], fun _ => ?_⟩
    rw [s.returnIdle_frame.1]
    simp [StateMachine.enter, Station.idleSubstate, hsim]
  refine ⟨.inl (by simp), by simp, s.prospects_returnIdle, ?_, ?_, ?_, ?_, by simp⟩
  · intro h
    simp only [Station.returnIdle_frame, Bool.and_eq_true] at h
    exact h.1
  · intro hwanted hgone
    simp only [Station.returnIdle_frame, hwanted, Bool.true_and] at hgone
    exact hresigned hgone
  · intro h
    exact hresigned h.sim
  · intro h
    simp [MainState.updates] at h

end Spares

/-- What every one of the local updates spares, they spare together. -/
theorem Calm.spares {resets : Bool} {s t : Station} (h : Calm resets s t) :
    Spares resets s t := by
  -- One case for each kind of step; the steps are put together by transitivity.
  induction h with
  | frame hskeleton hsubscriber =>
    simp only [Station.skeleton, Prod.mk.injEq] at hskeleton
    obtain ⟨hmachine, htimers, hqueues, hupdate, _⟩ := hskeleton
    exact .of_frame hmachine hupdate (Station.prospects_of_frame htimers hqueues) hsubscriber
  | startTimer s name hname =>
    -- The timers that a calm step starts are not those of the retries.
    have hretry : name.isRetry = false := by
      revert hname
      cases name <;> decide
    exact .of_frame rfl rfl (Station.prospects_startTimer hretry _) (.refl _)
  | stopTimer s name hname =>
    exact .of_frame rfl rfl (Station.prospects_stopTimer hname) (.refl _)
  | clearAttempts s hresets =>
    refine ⟨.inr ⟨hresets, rfl⟩, rfl, rfl, id, ?_, ?_, fun _ => ⟨rfl, rfl⟩, id⟩
    · intro hwanted hgone
      cases hwanted.symm.trans hgone
    · intro h
      exact ⟨h.sim, h.unwanted, h.substate⟩
  | enter s state substate hstate => exact .enter s substate hstate
  | returnIdle s => exact .returnIdle s
  | trans _ _ first second => exact first.trans second

namespace Station

variable {resets : Bool}

theorem calm_sendMessage (s : Station) (m : Message) :
    Calm resets s (s.sendMessage m).station := by
  unfold sendMessage
  split <;> exact .of_frame rfl rfl rfl

/-- The registration is forgotten, and with it that the station was updated. -/
theorem calm_deregister (s : Station) (status : UpdateStatus) (h : status ≠ .updated) :
    Calm resets s (s.deregister status) := by
  refine .frame rfl ⟨id, ?_⟩
  intro hupdated
  exact absurd (of_decide_eq_true hupdated) h

/-- The network refuses the subscriber for good. -/
theorem calm_refuseSim (s : Station) :
    Calm resets s ({ s with subscriber.simValid := false }.deregister .roamingNotAllowed) := by
  have hlost : Calm resets s { s with subscriber.simValid := false } := .of_lost rfl rfl rfl
  exact hlost.trans (calm_deregister _ _ (by decide))

theorem calm_awaitNetwork (s : Station) : Calm resets s s.awaitNetwork :=
  (Calm.startTimer s .t3240 (by decide)).trans (.enter _ _ _ (by decide))

theorem calm_awaitService (s : Station) {state : MainState}
    (h : state ≠ .idle ∧ state.updates = false) : Calm resets s (s.awaitService state) :=
  (Calm.startTimer s .t3230 (by decide)).trans (.enter _ _ _ h)

theorem calm_awaitDetach (s : Station) : Calm resets s s.awaitDetach :=
  (Calm.startTimer s .t3220 (by decide)).trans (.enter _ _ _ (by decide))

theorem calm_settle (s : Station) : Calm resets s s.settle := by
  unfold settle
  split
  · exact s.calm_awaitNetwork
  · exact .enter _ _ _ (by decide)

/-! ## Connections -/

theorem calm_requestService (s : Station) (p : CmPrimitive) (route : Route)
    {next : Station → Station} (hnext : ∀ u, Calm true u (next u)) :
    Calm true s (s.requestService p route next).station := by
  refine (Calm.clearAttempts s rfl).trans ?_
  simp only [requestService]
  split
  · exact .of_frame rfl rfl rfl
  · split
    · exact .of_frame rfl rfl rfl
    · split
      · exact .of_frame rfl rfl rfl
      · exact .of_frame rfl rfl rfl
      · exact (hnext _).after rfl rfl rfl

theorem calm_withdrawRequest (s : Station) : Calm resets s s.withdrawRequest.station :=
  s.calm_awaitNetwork.trans (calm_sendMessage _ _)

end Station

/-- The procedure asks for a service. -/
def CmProcedure.requests : CmProcedure → Bool
  | requestFromIdle => true
  | requestFirst => true
  | requestAdditional => true
  | _ => false

namespace Station

/-- Primitives from above clear the attempts only where they ask for a service. -/
theorem calm_cmProcedure (s : Station) (p : CmPrimitive) (procedure : CmProcedure) :
    Calm procedure.requests s (procedure.run s p).station := by
  cases procedure with
  | requestFromIdle => exact s.calm_requestService p _ fun u => .enter _ _ _ (by decide)
  | requestFirst => exact s.calm_requestService p _ fun u => u.calm_awaitService (by decide)
  | requestAdditional => exact s.calm_requestService p _ fun u => u.calm_awaitService (by decide)
  | refuseBusy => exact .of_frame rfl rfl rfl
  | forwardData =>
    simp only [CmProcedure.run, forwardData]
    split <;> exact .of_frame rfl rfl rfl
  | releaseActive => exact (calm_settle _).after rfl rfl rfl
  | releaseWaiting => exact .of_frame rfl rfl rfl
  | releaseRequested =>
    simp only [CmProcedure.run, releaseRequested]
    split
    -- T3230 goes with the request for which it was running.
    · refine Calm.trans ?_ (calm_withdrawRequest _)
      exact (Calm.stopTimer _ .t3230 rfl).after rfl rfl rfl
    · exact .of_frame rfl rfl rfl

theorem calm_beginService (s : Station) : Calm resets s s.beginService.station := by
  unfold beginService
  split
  · exact s.calm_withdrawRequest
  · exact s.calm_awaitService (by decide)

theorem calm_confirmService (s : Station) : Calm resets s s.confirmService.station := by
  have hactive : Calm resets s ((s.stopTimer .t3230).enter .connectionActive none) :=
    (Calm.stopTimer s _ rfl).trans (.enter _ _ _ (by decide))
  refine hactive.trans ?_
  simp only [confirmService, station_done]
  unfold confirmPending
  split <;> exact .of_frame rfl rfl rfl

theorem calm_receiveServiceReject (s : Station) (body : Octets) :
    Calm resets s (s.receiveServiceReject body).station := by
  unfold receiveServiceReject
  split
  · exact .refl s
  · refine (Calm.stopTimer s .t3230 rfl).trans ?_
    dsimp only
    split
    · refine (calm_deregister _ .notUpdated (by decide)).trans ?_
      split
      · refine Calm.trans ?_ (calm_settle _)
        exact .of_lost rfl rfl rfl
      · exact (calm_settle _).after rfl rfl rfl
    · exact (calm_settle _).after rfl rfl rfl

theorem calm_receiveCm (s : Station) (protocol : CmProtocol) (header : Header) (data : Octets) :
    Calm resets s (s.receiveCm protocol header data).station := by
  have hjoin (u : Station) (p : CmPrimitive) : Calm resets u (u.joinLink.sendCm p) := by
    refine Calm.trans (t := u.joinLink) ?_ (.of_frame rfl rfl rfl)
    unfold joinLink
    split
    · exact (Calm.stopTimer u .t3240 rfl).trans (.enter _ _ _ (by decide))
    · exact .refl u
  simp only [receiveCm]
  split
  · exact hjoin s _
  · split
    · exact .of_frame rfl rfl rfl
    · exact (hjoin _ _).after rfl rfl rfl

/-! ## Detach -/

theorem calm_endDetach (s : Station) : Calm resets s s.endDetach.station := by
  refine (Calm.stopTimer s .t3220 rfl).trans ?_
  refine Calm.trans ?_ (.returnIdle _)
  exact .of_lost rfl rfl rfl

theorem calm_startDetach (s : Station) : Calm resets s s.startDetach.station := by
  unfold startDetach
  split
  · split
    · exact .refl s
    · exact (Calm.enter s _ _ (by decide)).trans (.of_frame rfl rfl rfl)
  · exact s.calm_endDetach

theorem calm_detachOverLink (s : Station) : Calm resets s s.detachOverLink.station := by
  refine (Calm.stopTimer s .t3230 rfl).trans ?_
  have hreleased : Calm resets (s.stopTimer .t3230)
      ((s.stopTimer .t3230).releaseConnections .all CmCause.normalRelease false) :=
    .of_frame rfl rfl rfl
  refine hreleased.trans ?_
  simp only [detachOverLink]
  split
  · exact (calm_sendMessage _ _).andThen (calm_awaitDetach _)
  · exact calm_awaitNetwork _

/-! ## Messages -/

theorem calm_receiveAuthenticationReject (s : Station) :
    Calm resets s s.receiveAuthenticationReject.station := by
  refine (Calm.stopTimer s .t3212 rfl).trans ?_
  have hrefused : Calm resets (s.stopTimer .t3212)
      ({ s.stopTimer .t3212 with subscriber.simValid := false }.deregister .roamingNotAllowed) :=
    calm_refuseSim _
  refine hrefused.trans ?_
  simp only [receiveAuthenticationReject]
  split
  · exact (Calm.returnIdle _).after rfl rfl rfl
  · exact .refl _

theorem calm_receiveAbort (s : Station) (body : Octets) :
    Calm resets s (s.receiveAbort body).station := by
  simp only [receiveAbort]
  split
  · exact .refl s
  · split
    · exact s.calm_sendMessage _
    · refine (Calm.stopTimer s .t3230 rfl).trans ?_
      split
      · refine Calm.trans ?_ (.returnIdle _)
        exact (calm_refuseSim _).after rfl rfl rfl
      · exact .of_frame rfl rfl rfl

end Station

/-- The procedure is not about a location update. -/
def MessageProcedure.isCalm : MessageProcedure → Bool
  | receiveUpdateAccept => false
  | receiveUpdateReject => false
  | _ => true

/-- The procedure is not about a location update. A message may be. -/
def RrProcedure.isCalm : RrProcedure → Bool
  | beginUpdate => false
  | loseUpdateLink => false
  | completeReject => false
  | receiveMessage => false
  | _ => true

/-- The procedure is not about a location update, nor about the timer of periodic ones. -/
def EventProcedure.isCalm : EventProcedure → Bool
  | normalUpdate => false
  | periodicUpdate => false
  | tryUpdate => false
  | timeoutUpdate => false
  | selectCell => false
  | applySystemInformation => false
  | _ => true

namespace Station

theorem calm_messageProcedure (s : Station) (body : Octets) {procedure : MessageProcedure}
    (h : procedure.isCalm = true) : Calm resets s (procedure.run s body).station := by
  -- Only the two answers to an update are not calm.
  cases procedure with
  | receiveTmsiReallocation =>
    simp only [MessageProcedure.run, receiveTmsiReallocation]
    split
    · exact s.calm_sendMessage _
    · exact .refl s
    · exact (calm_sendMessage _ _).after rfl rfl rfl
    · exact (calm_sendMessage _ _).after rfl rfl rfl
    · exact s.calm_sendMessage _
  | receiveAuthenticationRequest =>
    simp only [MessageProcedure.run, receiveAuthenticationRequest]
    split
    · exact .refl s
    · split
      · exact .of_frame rfl rfl rfl
      · exact s.calm_sendMessage _
  | receiveAuthenticationReject => exact s.calm_receiveAuthenticationReject
  | receiveIdentityRequest =>
    simp only [MessageProcedure.run, receiveIdentityRequest]
    split
    · exact .refl s
    · split
      · exact s.calm_sendMessage _
      · split <;> exact s.calm_sendMessage _
  | receiveAbort => exact s.calm_receiveAbort body
  | receiveInformation =>
    simp only [MessageProcedure.run, receiveInformation]
    split <;> exact .of_frame rfl rfl rfl
  | receiveUpdateAccept => cases h
  | receiveUpdateReject => cases h
  | receiveServiceAccept =>
    simp only [MessageProcedure.run, receiveServiceAccept]
    split
    · exact s.calm_confirmService
    · exact .refl s
  | receiveServiceReject => exact s.calm_receiveServiceReject body
  | receiveStatus =>
    simp only [MessageProcedure.run, receiveStatus]
    split <;> exact .refl s

theorem calm_noteContact (s : Station) : Calm resets s s.noteContact := by
  refine (Calm.stopTimer s .t3212 rfl).trans ?_
  simp only [noteContact]
  split
  · exact .startTimer _ .t3240 (by decide)
  · exact .refl _

/-- A message is calm, or is handed to a procedure that is not. -/
theorem calm_receiveMessage (s : Station) (data : Octets) :
    Calm resets s (s.receiveMessage data).station ∨
      ∃ (procedure : MessageProcedure) (body : Octets), procedure.isCalm = false ∧
        s.machine.state ∈ procedure.states ∧
        s.receiveMessage data = procedure.run s.noteContact body := by
  unfold receiveMessage
  split
  · exact .inl (.refl s)
  · next header body _ =>
    split
    · unfold receiveMm
      split
      · exact .inl (.refl s)
      · split
        · exact .inl (s.calm_sendMessage _)
        · dsimp only
          split
          · next procedure hprocedure =>
            -- The contact with the network, noted first, leaves the state as it was.
            cases hcalm : procedure.isCalm with
            | true => exact .inl (s.calm_noteContact.trans (calm_messageProcedure _ body hcalm))
            | false =>
              have hstate := state_mem_of_messageProcedure hprocedure
              rw [s.noteContact_frame.1] at hstate
              exact .inr ⟨procedure, body, hcalm, hstate, rfl⟩
          · exact .inl (s.calm_noteContact.trans (calm_sendMessage _ _))
    · split
      · exact .inl (s.calm_receiveCm _ _ _)
      · exact .inl (s.calm_sendMessage _)
    · exact .inl (s.calm_sendMessage _)

/-! ## Primitives from below and events -/

theorem calm_rrProcedure (s : Station) (p : RrPrimitive) {procedure : RrProcedure}
    (h : procedure.isCalm = true) : Calm resets s (procedure.run s p).station := by
  cases procedure with
  | acceptLink => exact .enter _ _ _ (by decide)
  | detachSent => exact s.calm_awaitDetach
  | endDetach => exact s.calm_endDetach
  | beginService => exact s.calm_beginService
  | confirmService => exact s.calm_confirmService
  | indicateSync => exact (Calm.stopTimer s .t3230 rfl).trans (.of_frame rfl rfl rfl)
  | loseConnections =>
    refine (Calm.stopTimer s .t3230 rfl).trans ?_
    exact (Calm.returnIdle _).after rfl rfl rfl
  | loseLink => exact (Calm.stopTimer s .t3240 rfl).trans (.returnIdle _)
  | _ => cases h

theorem calm_eventProcedure (s : Station) (e : Event) {procedure : EventProcedure}
    (h : procedure.isCalm = true) : Calm resets s (procedure.run s e).station := by
  cases procedure with
  | startDetach => exact s.calm_startDetach
  | endDetach => exact s.calm_endDetach
  | detachOverLink => exact s.calm_detachOverLink
  | delayDetach => exact .of_frame rfl rfl rfl
  | abortLink => exact (Calm.returnIdle _).after rfl rfl rfl
  | timeoutService => exact (calm_settle _).after rfl rfl rfl
  | answerAuthentication =>
    cases e with
    | authenticationResponse sres => exact s.calm_sendMessage _
    | _ => exact .refl s
  | nothing => exact .refl s
  | _ => cases h

end Station

end MobileStation
