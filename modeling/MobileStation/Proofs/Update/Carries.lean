import MobileStation.Proofs.Connections.Pending
import MobileStation.Proofs.Update.Steady

/-!
# Procedures that carry a location update on

A step carries a location update on if it is steady and, where one is under way, goes on with it,
tries it again later or gives it up. All inputs do so but three kinds: a reject of a service
request, the end of the supervision of the radio link, and the events that start or try an update.

Main statements: `Carries.supervised` (such a step keeps a wanted location update supervised),
`carries_handleCm`, `carries_receiveMessage`, `carries_rrProcedure` and `carries_eventProcedure`.
-/

namespace MobileStation

/-! ## Supervision -/

namespace Station

/-- A location update that is wanted is under way, or will be tried again when a timer runs out. -/
def UpdateSupervised (s : Station) : Prop :=
  s.update.wanted = true →
    s.machine.state ∈
        [.waitForRadioLocationUpdate, .locationUpdatingInitiated, .locationUpdatingReject] ∨
      s.timers.isRunning .t3211 = true ∨ s.timers.isRunning .t3213 = true ∨
      .timeout .t3211 ∈ s.queues.events ∨ .timeout .t3213 ∈ s.queues.events

theorem updateSupervised_iff {s : Station} :
    s.UpdateSupervised ↔
      (s.update.wanted = true → s.machine.state.updates = true ∨ s.Retries) := by
  have hstate : s.machine.state ∈
      [.waitForRadioLocationUpdate, .locationUpdatingInitiated, .locationUpdatingReject] ↔
        s.machine.state.updates = true := by
    cases s.machine.state <;> decide
  -- The rule names the timers of the retries one by one; for the steps it is enough that there is
  -- one.
  have hretries : s.Retries ↔ s.timers.isRunning .t3211 = true ∨
      s.timers.isRunning .t3213 = true ∨ .timeout .t3211 ∈ s.queues.events ∨
        .timeout .t3213 ∈ s.queues.events := by
    constructor
    · rintro ⟨timer, hretry, h⟩
      cases timer <;> simp [TimerName.isRetry] at hretry <;> grind
    · rintro (h | h | h | h)
      · exact ⟨.t3211, rfl, .inl h⟩
      · exact ⟨.t3213, rfl, .inl h⟩
      · exact ⟨.t3211, rfl, .inr h⟩
      · exact ⟨.t3213, rfl, .inr h⟩
  rw [UpdateSupervised, hstate, hretries]

end Station

/-- The procedure starts or tries a location update, or drops the link under one. -/
def EventProcedure.concernsUpdate : EventProcedure → Bool
  | .normalUpdate => true
  | .periodicUpdate => true
  | .tryUpdate => true
  | .selectCell => true
  | .abortLink => true
  | _ => false

/-- A steady step that goes on with a location update that is under way, tries it again later or
gives it up. -/
structure Carries (s t : Station) : Prop extends Steady s t where
  onward : s.machine.state.updates = true → t.update.wanted = true →
    t.machine.state.updates = true ∨ t.Retries

theorem Steady.carries_of_state {s t : Station} (h : Steady s t)
    (hstate : t.machine.state = s.machine.state) : Carries s t :=
  ⟨h, fun hs _ => .inl (hstate ▸ hs)⟩

theorem Steady.carries_of_elsewhere {s t : Station} (h : Steady s t)
    (hstate : s.machine.state.updates = false) : Carries s t :=
  ⟨h, fun hs _ => absurd hs (by simp [hstate])⟩

theorem Carries.refl (s : Station) : Carries s s := (Steady.refl s).carries_of_state rfl

theorem Carries.trans {s t u : Station} (first : Carries s t) (second : Carries t u) :
    Carries s u := by
  refine ⟨first.toSteady.trans second.toSteady, ?_⟩
  intro hs hwanted
  -- What is wanted at the end was wanted in between, since neither step wants an update.
  rcases first.onward hs (second.wanted hwanted) with ht | hretries
  · exact second.onward ht hwanted
  · exact .inr (second.retries hretries)

/-- A location update that is supervised is so after a step that carries it on. -/
theorem Carries.supervised {s t : Station} (h : Carries s t) (hs : s.UpdateSupervised) :
    t.UpdateSupervised := by
  rw [Station.updateSupervised_iff] at hs ⊢
  intro hwanted
  rcases hs (h.wanted hwanted) with hstate | hretries
  · exact h.onward hstate hwanted
  · exact .inr (h.retries hretries)

namespace Station

/-! ## Messages of the network -/

theorem carries_sendMessage (s : Station) (m : Message) : Carries s (s.sendMessage m).station :=
  (s.steady_sendMessage m).carries_of_state (by simp)

theorem state_receiveTmsiReallocation (s : Station) (body : Octets) :
    (s.receiveTmsiReallocation body).station.machine.state = s.machine.state := by
  unfold receiveTmsiReallocation
  split <;> simp [sendStatus, storeLai, assignTmsi, removeTmsi]

theorem state_receiveAuthenticationRequest (s : Station) (body : Octets) :
    (s.receiveAuthenticationRequest body).station.machine.state = s.machine.state := by
  unfold receiveAuthenticationRequest
  split
  · rfl
  · split <;> simp [sendStatus, send]

theorem state_receiveIdentityRequest (s : Station) (body : Octets) :
    (s.receiveIdentityRequest body).station.machine.state = s.machine.state := by
  simp only [receiveIdentityRequest]
  split
  · rfl
  · split
    · simp [sendStatus]
    · split <;> simp [sendStatus]

/-- A refused subscriber has no usable SIM, so that the idle state holds no location update. -/
theorem carries_receiveAuthenticationReject (s : Station) :
    Carries s s.receiveAuthenticationReject.station := by
  refine ⟨s.calm_receiveAuthenticationReject.steady, ?_⟩
  simp only [receiveAuthenticationReject]
  split
  · intro _ hwanted
    simp [sendRr, send, deregister, Subscriber.invalidate] at hwanted
  · intro hs _
    exact .inl hs

/-- The abort of all connections ends a location update only together with the SIM. -/
theorem carries_receiveAbort (s : Station) (body : Octets) :
    Carries s (s.receiveAbort body).station := by
  refine ⟨(s.calm_receiveAbort body).steady, ?_⟩
  simp only [receiveAbort]
  split
  · intro hs _
    exact .inl hs
  · split
    · exact (s.carries_sendMessage _).onward
    · split
      · intro _ hwanted
        simp [deregister, Subscriber.invalidate] at hwanted
      · -- Other causes release the connections, but leave the state.
        intro hs _
        exact .inl hs

theorem carries_receiveUpdateAccept (s : Station) (body : Octets) :
    Carries s (s.receiveUpdateAccept body).station := by
  refine ⟨s.steady_receiveUpdateAccept body, ?_⟩
  simp only [receiveUpdateAccept]
  split
  · intro hs _
    exact .inl hs
  · -- The update is no longer wanted, whether or not the new identity can be answered.
    intro _ hwanted
    simp only [Outcome.andThen] at hwanted
    split at hwanted
    · simp [awaitNetwork, startReleaseTimer, startTimer, send, registerIn] at hwanted
    · simp [registerIn] at hwanted

theorem carries_receiveUpdateReject (s : Station) (body : Octets) :
    Carries s (s.receiveUpdateReject body).station := by
  refine ⟨s.steady_receiveUpdateReject body, ?_⟩
  simp only [receiveUpdateReject]
  split
  · intro hs _
    exact .inl hs
  · intro _ _
    exact .inl (by simp [MainState.updates])

/-- While a location update is under way there is no pending connection that could be accepted. -/
theorem carries_receiveServiceAccept {s : Station} (hs : s.PendingSupervised) :
    Carries s s.receiveServiceAccept.station := by
  have hsteady : Steady s s.receiveServiceAccept.station :=
    s.steady_messageProcedure [] .receiveServiceAccept
  cases hpending : s.connections.pending? with
  | none =>
    have hsame : s.receiveServiceAccept = .done s := by
      simp [receiveServiceAccept, hpending]
    exact hsteady.carries_of_state (by rw [hsame]; rfl)
  | some c =>
    -- With a connection pending the station is in one of the states that establish it, in none of
    -- which an update is under way.
    have hcount : s.connections.pendingCount ≠ 0 := by
      simp [ConnectionTable.pendingCount_eq_zero_iff, hpending]
    refine hsteady.carries_of_elsewhere ?_
    have hstate := MainState.establishes_iff.mp (hs hcount)
    revert hstate
    cases s.machine.state <;> decide

/-- Every message but a reject of a service request carries a location update on. -/
theorem carries_messageProcedure {s : Station} (hs : s.PendingSupervised) (body : Octets)
    {procedure : MessageProcedure} (hother : procedure ≠ .receiveServiceReject) :
    Carries s (procedure.run s body).station := by
  have hsteady := s.steady_messageProcedure body procedure
  cases procedure with
  | receiveTmsiReallocation =>
    exact hsteady.carries_of_state (s.state_receiveTmsiReallocation body)
  | receiveAuthenticationRequest =>
    exact hsteady.carries_of_state (s.state_receiveAuthenticationRequest body)
  | receiveAuthenticationReject => exact s.carries_receiveAuthenticationReject
  | receiveIdentityRequest =>
    exact hsteady.carries_of_state (s.state_receiveIdentityRequest body)
  | receiveAbort => exact s.carries_receiveAbort body
  | receiveInformation =>
    refine hsteady.carries_of_state ?_
    simp only [MessageProcedure.run, receiveInformation]
    split <;> rfl
  | receiveUpdateAccept => exact s.carries_receiveUpdateAccept body
  | receiveUpdateReject => exact s.carries_receiveUpdateReject body
  | receiveServiceAccept => exact carries_receiveServiceAccept hs
  | receiveServiceReject => exact absurd rfl hother
  | receiveStatus =>
    refine hsteady.carries_of_state ?_
    simp only [MessageProcedure.run, receiveStatus]
    split <;> rfl

/-- The message is a reject of a service request, and its cause can be read. -/
def IsServiceReject (data : Octets) : Prop :=
  ∃ header body cause, Header.read data = .ok (header, body) ∧
    header.protocol? = some .mobilityManagement ∧ header.skipIndicator = 0 ∧
    header.messageType = .ok .cmServiceReject ∧ Message.decodeCause body = .ok cause

theorem carries_noteContact (s : Station) : Carries s s.noteContact :=
  s.calm_noteContact.steady.carries_of_state (by simp)

theorem carries_receiveMm {s : Station} (hs : s.PendingSupervised) (header : Header)
    (body : Octets)
    (hother : header.skipIndicator = 0 → header.messageType = .ok .cmServiceReject →
      ∀ cause, Message.decodeCause body ≠ .ok cause) :
    Carries s (s.receiveMm header body).station := by
  simp only [receiveMm]
  split
  · exact .refl s
  · next hskip =>
    split
    · exact s.carries_sendMessage _
    · next type htype =>
      refine s.carries_noteContact.trans ?_
      have hcontact : s.noteContact.PendingSupervised := by
        simpa [PendingSupervised] using hs
      split
      · next procedure hprocedure =>
        -- The reject of a service only matters with a cause, and then it is excluded. Without one
        -- it is dismissed.
        by_cases hreject : procedure = .receiveServiceReject
        · subst hreject
          have hcause := hother (by simpa using hskip)
            (by rw [htype, type_of_messageProcedure hprocedure]; rfl)
          simp only [MessageProcedure.run, receiveServiceReject]
          split
          · exact .refl _
          · next cause hread => exact absurd hread (hcause cause)
        · exact carries_messageProcedure hcontact body hreject
      · exact carries_sendMessage _ _

theorem joinLink_of_updates {s : Station} (h : s.machine.state.updates = true) :
    s.joinLink = s := by
  refine if_neg ?_
  rintro (hstate | hstate) <;> simp [hstate, MainState.updates] at h

theorem carries_receiveCm (s : Station) (protocol : CmProtocol) (header : Header)
    (data : Octets) : Carries s (s.receiveCm protocol header data).station := by
  have hsteady : Steady s _ := (s.calm_receiveCm protocol header data).steady
  by_cases hstate : s.machine.state.updates = true
  · refine hsteady.carries_of_state ?_
    simp only [receiveCm, joinLink_of_updates hstate]
    split
    · rfl
    · split
      · rfl
      · rw [joinLink_of_updates]
        · rfl
        · exact hstate
  · exact hsteady.carries_of_elsewhere (by simpa using hstate)

/-- Every other message carries a location update on. -/
theorem carries_receiveMessage {s : Station} (hs : s.PendingSupervised) {data : Octets}
    (h : ¬ IsServiceReject data) : Carries s (s.receiveMessage data).station := by
  unfold receiveMessage
  split
  · exact .refl s
  · next header body hread =>
    split
    · next hprotocol =>
      refine carries_receiveMm hs header body ?_
      intro hskip htype cause hcause
      exact h ⟨header, body, cause, hread, hprotocol, hskip, htype, hcause⟩
    · split
      · exact s.carries_receiveCm _ _ _
      · exact s.carries_sendMessage _
    · exact s.carries_sendMessage _

theorem settle_updates (s : Station) :
    s.settle.machine.state.updates = false ∧ s.settle.update = s.update ∧
      (s.settle.Retries ↔ s.Retries) := by
  unfold settle
  split
  · refine ⟨by simp [awaitNetwork, MainState.updates],
      by simp [awaitNetwork, startReleaseTimer, startTimer], ?_⟩
    exact (retries_enter _ _ _).trans (retries_startTimer rfl _)
  · exact ⟨by simp [MainState.updates], by simp, retries_enter _ _ _⟩

/-- A reject of a service request leaves the states of updating, but keeps the update wanted. -/
theorem receiveServiceReject_updates (s : Station) {body : Octets} {cause : RejectCause}
    (h : Message.decodeCause body = .ok cause) :
    (s.receiveServiceReject body).station.machine.state.updates = false ∧
      (s.receiveServiceReject body).station.update = s.update ∧
      ((s.receiveServiceReject body).station.Retries ↔ s.Retries) := by
  -- The cause chooses what is released and what the subscriber keeps; every way ends in `settle`.
  have hsettle (t : Station) (filter : ConnectionTable.ReleaseFilter) (isError : Bool)
      (hupdate : t.update = s.update) (htimers : t.timers = (s.stopTimer .t3230).timers)
      (hqueues : t.queues = s.queues) :
      (t.releaseConnections filter CmCause.normalRelease isError).settle.machine.state.updates =
          false ∧
        (t.releaseConnections filter CmCause.normalRelease isError).settle.update = s.update ∧
        ((t.releaseConnections filter CmCause.normalRelease isError).settle.Retries ↔
          s.Retries) := by
    obtain ⟨hstate, hkept, hretries⟩ :=
      (t.releaseConnections filter CmCause.normalRelease isError).settle_updates
    refine ⟨hstate, hkept.trans hupdate, hretries.trans ?_⟩
    exact (retries_of_frame (s := s.stopTimer .t3230) htimers hqueues).trans
      (retries_stopTimer rfl)
  simp only [receiveServiceReject, h]
  split
  · split
    · exact hsettle _ _ _ rfl rfl rfl
    · exact hsettle _ _ _ rfl rfl rfl
  · exact hsettle _ _ _ rfl rfl rfl

/-! ## Primitives from above and from below -/

/-- Of the procedures for primitives from above only a refusal runs while a location update is under
way. -/
theorem carries_handleCm (s : Station) (p : CmPrimitive) : Carries s (s.handleCm p).station := by
  have hsteady : Steady s (s.updateTransaction p) := .of_frame id rfl rfl
  have hlooked := hsteady.carries_of_state rfl
  simp only [handleCm]
  split
  · next procedure hprocedure =>
    refine hlooked.trans ?_
    have hsteady := (s.updateTransaction p).steady_cmProcedure p procedure
    have hstate := state_mem_of_cmProcedure? hprocedure
    by_cases hbusy : procedure = .refuseBusy
    · subst hbusy
      exact hsteady.carries_of_state rfl
    · -- The other procedures run only in states in which no update is under way.
      have helsewhere : ∀ state ∈ procedure.states, state.updates = false := by
        cases procedure <;> first | decide | exact absurd rfl hbusy
      exact hsteady.carries_of_elsewhere (helsewhere _ hstate)
  · exact hlooked

theorem retryLater_onward (s : Station) (h : s.retryLater.returnIdle.update.wanted = true) :
    s.retryLater.returnIdle.Retries := by
  refine (retries_returnIdle _).mpr ?_
  simp only [returnIdle_frame, Bool.and_eq_true] at h
  unfold retryLater at h ⊢
  split
  · exact s.retries_startTimer_self rfl _
  · -- After too many attempts the update is given up.
    next hmany =>
    rw [if_neg hmany] at h
    cases h.1

/-- A location update that failed is tried again later, or given up. -/
theorem failUpdate_onward (s : Station) (h : s.failUpdate.station.update.wanted = true) :
    s.failUpdate.station.Retries :=
  retryLater_onward _ h

theorem carries_loseUpdateLink (s : Station) (p : RrPrimitive) :
    Carries s (s.loseUpdateLink p).station := by
  refine ⟨s.steady_loseUpdateLink p, ?_⟩
  simp only [loseUpdateLink]
  split
  · -- The first random access failure starts T3213.
    intro _ _
    refine .inr ((retries_returnIdle _).mpr ?_)
    exact retries_startTimer_self _ rfl _
  · intro _ h
    exact .inr (failUpdate_onward _ h)

theorem carries_completeReject (s : Station) : Carries s s.completeReject.station := by
  refine ⟨s.steady_completeReject, ?_⟩
  simp only [completeReject]
  split
  · intro _ hwanted
    simp at hwanted
  · intro _ h
    exact .inr (failUpdate_onward _ h)

/-- Every primitive from below that carries no message carries a location update on. -/
theorem carries_rrProcedure {s : Station} (p : RrPrimitive) {procedure : RrProcedure}
    (h : s.machine.state ∈ procedure.states) (hother : procedure ≠ .receiveMessage) :
    Carries s (procedure.run s p).station := by
  have helsewhere (hnone : ∀ state ∈ procedure.states, state.updates = false) :
      Carries s (procedure.run s p).station :=
    (s.steady_rrProcedure p procedure).carries_of_elsewhere (hnone _ h)
  cases procedure with
  | beginUpdate =>
    refine ⟨s.steady_beginUpdate, fun _ _ => .inl ?_⟩
    simp [beginUpdate, RrProcedure.run, MainState.updates]
  | loseUpdateLink => exact s.carries_loseUpdateLink p
  | completeReject => exact s.carries_completeReject
  | receiveMessage => exact absurd rfl hother
  | _ => exact helsewhere (by decide)

/-! ## Events -/

theorem carries_timeoutUpdate (s : Station) : Carries s s.timeoutUpdate.station := by
  refine ⟨s.steady_timeoutUpdate, ?_⟩
  unfold timeoutUpdate
  split
  · intro _ h
    exact .inr (failUpdate_onward _ h)
  · intro hs _
    exact .inl hs

theorem carries_applySystemInformation (s : Station) (info : SystemInformation) (chance : Nat) :
    Carries s (s.applySystemInformation info chance) := by
  refine Steady.carries_of_state ⟨by simp, ?_⟩ (by simp)
  exact (s.retries_applySystemInformation info chance).mpr

/-- Every other event carries a location update on. -/
theorem carries_eventProcedure {s : Station} (e : Event) {procedure : EventProcedure}
    (h : s.machine.state ∈ procedure.states) (hother : procedure.concernsUpdate = false) :
    Carries s (procedure.run s e).station := by
  -- Most events are only handled in states in which no update is under way.
  have helsewhere (hsteady : Steady s (procedure.run s e).station)
      (hnone : ∀ state ∈ procedure.states, state.updates = false) :
      Carries s (procedure.run s e).station :=
    hsteady.carries_of_elsewhere (hnone _ h)
  cases procedure with
  | timeoutUpdate => exact s.carries_timeoutUpdate
  | startDetach => exact helsewhere (s.calm_eventProcedure e rfl).steady (by decide)
  | endDetach => exact helsewhere (s.calm_eventProcedure e rfl).steady (by decide)
  | detachOverLink => exact helsewhere (s.calm_eventProcedure e rfl).steady (by decide)
  | delayDetach => exact (s.calm_eventProcedure e rfl).steady.carries_of_state rfl
  | applySystemInformation =>
    cases e with
    | systemInformation info chance => exact s.carries_applySystemInformation info chance
    | _ => exact .refl s
  | timeoutService =>
    exact helsewhere (s.calm_eventProcedure e rfl).steady (by decide)
  | answerAuthentication =>
    cases e with
    | authenticationResponse sres => exact s.carries_sendMessage _
    | _ => exact .refl s
  | nothing => exact .refl s
  | _ => cases hother

end Station

end MobileStation
