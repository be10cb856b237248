import MobileStation.Proofs.Steps.Inputs

/-!
# Messages that are not acted upon

A procedure for a message of the network either is carried through or breaks off before it has
changed anything. So a message that cannot be read, or that no procedure is for, leaves at most a
status report and what every mobility management message does to two of the timers.

Main statements: `MessageProcedure.run_failsCleanly` and `handle_leavesNoTrace`.
-/

namespace MobileStation

/-! ## Procedures that break off -/

/-- If the procedure broke off, it has left the station as it was. -/
def Outcome.FailsCleanly (o : Outcome) (s : Station) : Prop := o.failure ≠ none → o.station = s

namespace Outcome

variable {s t : Station}

theorem failsCleanly_of_none {o : Outcome} (h : o.failure = none) : o.FailsCleanly s :=
  fun hfailure => absurd h hfailure

theorem failsCleanly_done : (done t).FailsCleanly s := failsCleanly_of_none rfl

theorem failsCleanly_failed {e : StationError} : (failed s e).FailsCleanly s := fun _ => rfl

end Outcome

namespace Station

open Outcome

variable (s : Station)

theorem sendMessage_failsCleanly (m : Message) : (s.sendMessage m).FailsCleanly s := by
  unfold sendMessage
  split
  · exact failsCleanly_done
  · exact failsCleanly_failed

/-- A status report can always be written. -/
theorem sendStatus_eq (cause : RejectCause) :
    s.sendStatus cause =
      .done (s.sendRr (.send (Header.ofType .mmStatus ++ [cause.code]))) := rfl

theorem receiveUpdateAccept_failsCleanly (body : Octets) :
    (s.receiveUpdateAccept body).FailsCleanly s := by
  unfold receiveUpdateAccept
  split
  · exact failsCleanly_failed
  · -- The acknowledgement of a new identity can always be written.
    next accept _ =>
    refine failsCleanly_of_none ?_
    obtain ⟨lai, identity, follow⟩ := accept
    rcases identity with _ | identity
    · rfl
    · cases identity <;> rfl

theorem receiveTmsiReallocation_failsCleanly (body : Octets) :
    (s.receiveTmsiReallocation body).FailsCleanly s := by
  unfold receiveTmsiReallocation
  split
  · exact failsCleanly_done
  · exact failsCleanly_failed
  · exact failsCleanly_done
  · exact failsCleanly_done
  · exact failsCleanly_done

theorem receiveIdentityRequest_failsCleanly (body : Octets) :
    (s.receiveIdentityRequest body).FailsCleanly s := by
  unfold receiveIdentityRequest
  split
  · exact failsCleanly_failed
  · dsimp only
    split
    · exact failsCleanly_done
    · split
      · exact failsCleanly_done
      · exact s.sendMessage_failsCleanly _

theorem receiveAbort_failsCleanly (body : Octets) : (s.receiveAbort body).FailsCleanly s := by
  unfold receiveAbort
  split
  · exact failsCleanly_failed
  · split
    · exact failsCleanly_done
    · dsimp only
      split <;> exact failsCleanly_done

theorem receiveServiceReject_failsCleanly (body : Octets) :
    (s.receiveServiceReject body).FailsCleanly s := by
  unfold receiveServiceReject
  split
  · exact failsCleanly_failed
  · dsimp only
    split <;> exact failsCleanly_done

theorem receiveAuthenticationRequest_failsCleanly (body : Octets) :
    (s.receiveAuthenticationRequest body).FailsCleanly s := by
  unfold receiveAuthenticationRequest
  split
  · exact failsCleanly_failed
  · split <;> exact failsCleanly_done

end Station

/-- A procedure for a message reads the whole message before it changes anything. -/
theorem MessageProcedure.run_failsCleanly (s : Station) (body : Octets)
    (procedure : MessageProcedure) : (procedure.run s body).FailsCleanly s := by
  -- A procedure fails before it changes anything, when it cannot read the message, or not at all.
  -- The longer ones have a lemma of their own.
  cases procedure with
  | receiveTmsiReallocation => exact s.receiveTmsiReallocation_failsCleanly body
  | receiveAuthenticationRequest => exact s.receiveAuthenticationRequest_failsCleanly body
  | receiveIdentityRequest => exact s.receiveIdentityRequest_failsCleanly body
  | receiveAbort => exact s.receiveAbort_failsCleanly body
  | receiveUpdateAccept => exact s.receiveUpdateAccept_failsCleanly body
  | receiveServiceReject => exact s.receiveServiceReject_failsCleanly body
  | receiveAuthenticationReject =>
    refine Outcome.failsCleanly_of_none ?_
    simp only [run, Station.receiveAuthenticationReject]
    split <;> rfl
  | receiveServiceAccept =>
    refine Outcome.failsCleanly_of_none ?_
    simp only [run, Station.receiveServiceAccept]
    split <;> rfl
  | receiveInformation =>
    simp only [run, Station.receiveInformation]
    split
    · exact Outcome.failsCleanly_failed
    · exact Outcome.failsCleanly_done
  | receiveUpdateReject =>
    simp only [run, Station.receiveUpdateReject]
    split
    · exact Outcome.failsCleanly_failed
    · exact Outcome.failsCleanly_done
  | receiveStatus =>
    simp only [run, Station.receiveStatus]
    split
    · exact Outcome.failsCleanly_failed
    · exact Outcome.failsCleanly_done

/-! ## What is left of a message -/

/-- Every message that is refused is refused with one of two causes. -/
theorem cause_of_messageProcedure {m : StateMachine} {type : MessageType} {cause : RejectCause}
    (h : m.messageProcedure type = .error cause) :
    cause = .messageTypeNotImplemented ∨ cause = .messageTypeNotCompatible := by
  unfold StateMachine.messageProcedure at h
  split at h
  · cases h
  · split at h <;> cases h <;> simp

theorem messageProcedure_mmStatus (m : StateMachine) :
    m.messageProcedure .mmStatus = .ok .receiveStatus := rfl

namespace Station

/-- The station does not act upon a message. -/
inductive Dismisses (s : Station) (data : Octets) : Prop where
  /-- It cannot be read or answered, or the connection it opens cannot be added. -/
  | failed (h : (s.handle (.message data)).failure ≠ none)
  /-- It is to be skipped. -/
  | skipped (h : Received.read data = .skipped)
  /-- Its protocol or its type is not known. -/
  | unknown (h : Received.read data = .unknown)
  /-- No procedure is for its type, in this state or in any. -/
  | refused {type : MessageType} {body : Octets} {cause : RejectCause}
      (h : Received.read data = .mobility type body)
      (hrule : s.machine.messageProcedure type = .error cause)
  /-- It reports the status of the network. -/
  | status {body : Octets} (h : Received.read data = .mobility .mmStatus body)

/-- Timers as they are in `s`, or as contact with the network leaves them: T3212 may be stopped, and
T3240 may be started again if it is running. -/
structure ContactTimers (s : Station) (timers : TimerSet) : Prop where
  periodic : timers.get .t3212 = s.timers.get .t3212 ∨
    timers.get .t3212 = (s.timers.get .t3212).stop
  release : timers.get .t3240 = s.timers.get .t3240 ∨
    s.timers.isRunning .t3240 = true ∧ timers.get .t3240 =
      (s.timers.get .t3240).start s.now (1000 * s.config.timers.t3240.toNat)
  others : ∀ timer, timer ≠ .t3212 → timer ≠ .t3240 → timers.get timer = s.timers.get timer

/-- What may be left in a station of a message that is not acted upon. -/
structure LeavesNoTrace (s : Station) (data : Octets) (o : Outcome) : Prop where
  /-- Nothing changes but timers, the next reference to be given out, and what was sent. -/
  kept : o.station = { s with
    timers := o.station.timers
    nextReference := o.station.nextReference
    outbox := o.station.outbox }
  /-- A reference counts as given out only where a connection could not be added. -/
  reference : (∀ e, o.failure ≠ some (.connection e)) →
    o.station.nextReference = s.nextReference
  timers : ContactTimers s o.station.timers
  /-- Only a mobility management message of a known type counts as contact with the network. -/
  untouched : (∀ type body, Received.read data ≠ .mobility type body) →
    o.station.timers = s.timers
  /-- At most one report is sent, that the type is not implemented or not compatible. -/
  sent : o.station.outbox = s.outbox ∨
    ∃ cause : RejectCause, (cause.code = 97 ∨ cause.code = 98) ∧
      ∃ report, (Message.mmStatus cause).encode = .ok report ∧
        o.station.outbox = s.outbox ++ [.rr (.send report)]
  /-- Nothing is sent where the message could not be handled, is to be skipped, or is itself such a
  report. -/
  silent : o.failure ≠ none ∨ Received.read data = .skipped ∨
      (∃ body, Received.read data = .mobility .mmStatus body) →
    o.station.outbox = s.outbox

variable {s : Station} {data : Octets}

theorem contactTimers_self (s : Station) : s.ContactTimers s.timers :=
  ⟨.inl rfl, .inl rfl, fun _ _ _ => rfl⟩

theorem contactTimers_noteContact (s : Station) : s.ContactTimers s.noteContact.timers := by
  have hstop (timer : TimerName) : (s.stopTimer .t3212).timers.get timer =
      if timer = .t3212 then (s.timers.get .t3212).stop else s.timers.get timer :=
    TimerSet.get_set _ _ _ _
  -- Stopping T3212 comes first, and is not seen by the question whether T3240 runs.
  have hrunning : (s.stopTimer .t3212).timers.isRunning .t3240 = s.timers.isRunning .t3240 := by
    simp only [TimerSet.isRunning, hstop, reduceCtorEq, if_false]
  simp only [noteContact, hrunning]
  split
  · next hrun =>
    have hstart (timer : TimerName) : (s.stopTimer .t3212).startReleaseTimer.timers.get timer =
        if timer = .t3240 then
          (s.timers.get .t3240).start s.now (1000 * s.config.timers.t3240.toNat)
        else (s.stopTimer .t3212).timers.get timer :=
      TimerSet.get_set _ _ _ _
    exact ⟨.inr (by simp [hstart, hstop]), .inr ⟨hrun, by simp [hstart]⟩,
      fun timer h3212 h3240 => by simp [hstart, hstop, h3212, h3240]⟩
  · exact ⟨.inr (by simp [hstop]), .inl (by simp [hstop]),
      fun timer h3212 _ => by simp [hstop, h3212]⟩

/-- Contact touches the timers alone. -/
theorem noteContact_eq (s : Station) :
    s.noteContact = { s with timers := s.noteContact.timers } := by
  simp only [noteContact]
  split <;> rfl

/-- A message that leaves the station alone. -/
theorem leavesNoTrace_of_eq {o : Outcome} (h : o.station = s) : s.LeavesNoTrace data o := by
  obtain ⟨_, failure⟩ := o
  subst h
  exact ⟨rfl, fun _ => rfl, contactTimers_self _, fun _ => rfl, .inl rfl, fun _ => rfl⟩

/-- A message of mobility management that counts as contact and nothing else. -/
theorem leavesNoTrace_of_contact {o : Outcome} {type : MessageType} {body : Octets}
    (hread : Received.read data = .mobility type body) (h : o.station = s.noteContact) :
    s.LeavesNoTrace data o := by
  refine ⟨?_, fun _ => ?_, ?_, fun hother => absurd hread (hother type body), .inl ?_, fun _ => ?_⟩
    <;> rw [h]
  · rw [noteContact_eq]
  · rw [noteContact_eq]
  · exact contactTimers_noteContact s
  · simp
  · simp

/-- A message whose protocol or type is not known. -/
theorem leavesNoTrace_of_unknown (hread : Received.read data = .unknown) :
    s.LeavesNoTrace data (s.sendStatus .messageTypeNotImplemented) := by
  refine ⟨rfl, fun _ => rfl, contactTimers_self s, fun _ => rfl,
    .inr ⟨_, .inl rfl, _, rfl, rfl⟩, ?_⟩
  rintro (hfailure | hskipped | ⟨body, hstatus⟩)
  · exact absurd rfl hfailure
  · simp [hread] at hskipped
  · simp [hread] at hstatus

/-- A message of mobility management that no procedure is for. -/
theorem leavesNoTrace_of_refused {type : MessageType} {body : Octets} {cause : RejectCause}
    (hread : Received.read data = .mobility type body)
    (hrule : s.machine.messageProcedure type = .error cause) :
    s.LeavesNoTrace data (s.noteContact.sendStatus cause) := by
  have hcode : cause.code = 97 ∨ cause.code = 98 :=
    (cause_of_messageProcedure hrule).imp (congrArg RejectCause.code) (congrArg RejectCause.code)
  refine ⟨?_, fun _ => ?_, contactTimers_noteContact s,
    fun hother => absurd hread (hother type body), .inr ⟨cause, hcode, _, rfl, ?_⟩, ?_⟩
  · rw [sendStatus_eq, noteContact_eq]
    rfl
  · rw [sendStatus_eq, noteContact_eq]
    rfl
  · rw [sendStatus_eq, noteContact_eq]
    rfl
  · rintro (hfailure | hskipped | ⟨body, hstatus⟩)
    · exact absurd rfl hfailure
    · simp [hread] at hskipped
    · -- A report is never answered with a report.
      obtain ⟨rfl, rfl⟩ : type = .mmStatus ∧ _ := by simpa [hread] using hstatus
      rw [messageProcedure_mmStatus] at hrule
      cases hrule

/-- The connection that a message opens may be one too many. -/
theorem leavesNoTrace_of_receiveCm {protocol : CmProtocol} {header : Header}
    (hfailure : (s.receiveCm protocol header data).failure ≠ none) :
    s.LeavesNoTrace data (s.receiveCm protocol header data) := by
  unfold receiveCm at hfailure ⊢
  split at hfailure
  · exact absurd rfl hfailure
  · dsimp only at hfailure ⊢
    split at hfailure
    · -- The reference is given out before there is found to be no room.
      exact ⟨rfl, fun hother => absurd rfl (hother _), contactTimers_self s, fun _ => rfl,
        .inl rfl, fun _ => rfl⟩
    · exact absurd rfl hfailure

/-- A message that the station does not act upon leaves nothing behind but a report and the timers
that contact with the network touches. -/
theorem handle_leavesNoTrace (h : s.Dismisses data) :
    s.LeavesNoTrace data (s.handle (.message data)) := by
  have heq : s.handle (.message data) = s.receiveMessage data := rfl
  cases hread : Received.read data with
  | broken e =>
    simp only [heq, receiveMessage_eq, hread]
    exact leavesNoTrace_of_eq rfl
  | skipped =>
    simp only [heq, receiveMessage_eq, hread]
    exact leavesNoTrace_of_eq rfl
  | unknown =>
    simp only [heq, receiveMessage_eq, hread]
    exact leavesNoTrace_of_unknown hread
  | connection protocol header =>
    have hhandle : s.handle (.message data) = s.receiveCm protocol header data := by
      simp only [heq, receiveMessage_eq, hread]
    rw [hhandle]
    cases h with
    | failed hfailure => exact leavesNoTrace_of_receiveCm (hhandle ▸ hfailure)
    | skipped h | unknown h | refused h _ | status h => simp [hread] at h
  | mobility type body =>
    cases hrule : s.machine.messageProcedure type with
    | error cause =>
      simp only [heq, receiveMessage_eq, hread, hrule]
      exact leavesNoTrace_of_refused hread hrule
    | ok procedure =>
      -- Contact is noted before the procedure runs, so that much is left even if it breaks off.
      have hhandle : s.handle (.message data) = procedure.run s.noteContact body := by
        simp only [heq, receiveMessage_eq, hread, hrule]
      rw [hhandle]
      refine leavesNoTrace_of_contact hread ?_
      cases h with
      | failed hfailure => exact procedure.run_failsCleanly s.noteContact body (hhandle ▸ hfailure)
      | skipped h | unknown h => simp [hread] at h
      | refused h hrefused =>
        obtain ⟨rfl, rfl⟩ : type = _ ∧ body = _ := by simpa [hread] using h
        simp [hrule] at hrefused
      | status h =>
        obtain ⟨rfl, rfl⟩ : type = .mmStatus ∧ body = _ := by simpa [hread] using h
        rw [messageProcedure_mmStatus] at hrule
        cases hrule
        simp only [MessageProcedure.run, receiveStatus]
        split <;> rfl

/-- An accept that nobody waits for. -/
theorem leavesNoTrace_of_stray_accept :
    let s := ofConfig
      { imei := "356938035643809"
        imeisv := "3569380356438091"
        sim := some { imsi := "262420000000001" } }
    s.LeavesNoTrace [0x05, 0x02] (s.handle (.message [0x05, 0x02])) :=
  handle_leavesNoTrace
    (.refused (show Received.read [0x05, 0x02] = .mobility .locationUpdatingAccept [] by decide)
      (show _ = Except.error RejectCause.messageTypeNotCompatible from rfl))

end Station

end MobileStation
