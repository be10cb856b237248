import MobileStation.Proofs.Update.Calm

/-!
# Procedures that want no location update

All procedures but those that start a location update leave a wanted one as it is or give it up, and
none takes the prospect of a retry away.

Main statements: `steady_cmProcedure` (primitives from above), `steady_receiveMessage` (messages of
the network) and `steady_rrProcedure` (primitives from below).
-/

namespace MobileStation

/-- A step that wants no location update and takes no prospect of a retry away. -/
structure Steady (s t : Station) : Prop where
  wanted : t.update.wanted = true → s.update.wanted = true
  retries : s.Retries → t.Retries

/-- A step that is not about a location update wants none. -/
theorem Calm.steady {s t : Station} (h : Calm true s t) : Steady s t :=
  ⟨h.spares.wanted, (Station.retries_congr h.spares.prospects).mpr⟩

namespace Steady

theorem refl (s : Station) : Steady s s := ⟨id, id⟩

theorem trans {s t u : Station} (first : Steady s t) (second : Steady t u) : Steady s u :=
  ⟨first.wanted ∘ second.wanted, second.retries ∘ first.retries⟩

theorem of_frame {s t : Station} (hwanted : t.update.wanted = true → s.update.wanted = true)
    (htimers : t.timers = s.timers) (hqueues : t.queues = s.queues) : Steady s t :=
  ⟨hwanted, (Station.retries_of_frame htimers hqueues).mpr⟩

/-- A steady step after updates of other fields. -/
theorem after {s t u : Station} (h : Steady t u)
    (hwanted : t.update.wanted = true → s.update.wanted = true) (htimers : t.timers = s.timers)
    (hqueues : t.queues = s.queues) : Steady s u :=
  (of_frame hwanted htimers hqueues).trans h

/-- Steady procedures one after the other. -/
theorem andThen {s : Station} {o : Outcome} {next : Station → Outcome} (first : Steady s o.station)
    (second : Steady o.station (next o.station).station) :
    Steady s (o.andThen next).station := by
  unfold Outcome.andThen
  split
  · exact first.trans second
  · exact first

end Steady

namespace Station

theorem steady_startTimer (s : Station) (name : TimerName) (seconds : Nat) :
    Steady s (s.startTimer name seconds) := by
  refine ⟨id, ?_⟩
  intro h
  by_cases hretry : name.isRetry = true
  · exact s.retries_startTimer_self hretry seconds
  · exact (retries_startTimer (by simpa using hretry) seconds).mpr h

theorem steady_stopTimer (s : Station) (name : TimerName) (h : name.isRetry = false) :
    Steady s (s.stopTimer name) :=
  (Calm.stopTimer s name h).steady

theorem steady_enter (s : Station) (state : MainState) (substate : Option IdleSubstate) :
    Steady s (s.enter state substate) :=
  ⟨by simp, (s.retries_enter state substate).mpr⟩

theorem steady_returnIdle (s : Station) : Steady s s.returnIdle :=
  (Calm.returnIdle s).steady

theorem steady_sendMessage (s : Station) (m : Message) : Steady s (s.sendMessage m).station :=
  (s.calm_sendMessage m).steady

/-! ## Location updates -/

theorem steady_beginUpdate (s : Station) : Steady s s.beginUpdate.station :=
  (s.steady_startTimer _ _).trans (steady_enter _ _ _)

theorem steady_retryLater (s : Station) : Steady s s.retryLater := by
  unfold retryLater
  split
  · exact s.steady_startTimer _ _
  · exact .of_frame nofun rfl rfl

theorem steady_failUpdate (s : Station) : Steady s s.failUpdate.station := by
  simp only [failUpdate]
  refine Steady.trans (s.steady_stopTimer .t3210 rfl) ?_
  refine Steady.trans (t := (s.stopTimer .t3210).countAttempt)
    (.of_frame (by simp) (by simp) (by simp)) ?_
  split
  · exact (steady_retryLater _).trans (steady_returnIdle _)
  · exact ((steady_retryLater _).trans (steady_returnIdle _)).after id rfl rfl

theorem steady_loseUpdateLink (s : Station) (p : RrPrimitive) :
    Steady s (s.loseUpdateLink p).station := by
  simp only [loseUpdateLink]
  split
  · exact ((steady_startTimer _ _ _).trans (steady_returnIdle _)).after id rfl rfl
  · exact (steady_failUpdate _).after id rfl rfl

theorem steady_timeoutUpdate (s : Station) : Steady s s.timeoutUpdate.station := by
  unfold timeoutUpdate
  split
  · exact (steady_failUpdate _).after id rfl rfl
  · -- The update ended before the event of its timer was handled.
    exact .refl s

theorem steady_receiveUpdateAccept (s : Station) (body : Octets) :
    Steady s (s.receiveUpdateAccept body).station := by
  simp only [receiveUpdateAccept]
  split
  · exact .refl s
  · refine (s.steady_stopTimer .t3212 rfl).trans
      ((steady_stopTimer _ .t3210 rfl).trans ?_)
    refine Steady.andThen (.of_frame ?_ ?_ ?_) ((calm_awaitNetwork _).steady.after id rfl rfl)
    · simp [registerIn]
    · simp [registerIn]
    · simp [registerIn]

theorem steady_receiveUpdateReject (s : Station) (body : Octets) :
    Steady s (s.receiveUpdateReject body).station := by
  simp only [receiveUpdateReject]
  split
  · exact .refl s
  · refine (s.steady_stopTimer .t3212 rfl).trans
      ((steady_stopTimer _ .t3210 rfl).trans ?_)
    exact ((steady_startTimer _ _ _).trans (steady_enter _ _ _)).after id rfl rfl

theorem steady_completeReject (s : Station) : Steady s s.completeReject.station := by
  simp only [completeReject]
  split
  · -- After a final cause the update is given up.
    refine (steady_returnIdle _).after nofun ?_ ?_
    · simp [send, deregister]
    · simp [send, deregister]
  · exact (steady_failUpdate _).after id rfl rfl

/-! ## Procedures -/

/-- No primitive from above wants a location update. -/
theorem steady_cmProcedure (s : Station) (p : CmPrimitive) (procedure : CmProcedure) :
    Steady s (procedure.run s p).station :=
  (s.calm_cmProcedure p procedure).weaken.steady

theorem steady_messageProcedure (s : Station) (body : Octets) (procedure : MessageProcedure) :
    Steady s (procedure.run s body).station := by
  cases hcalm : procedure.isCalm with
  | true => exact (s.calm_messageProcedure body hcalm).steady
  | false =>
    cases procedure with
    | receiveUpdateAccept => exact s.steady_receiveUpdateAccept body
    | receiveUpdateReject => exact s.steady_receiveUpdateReject body
    | _ => cases hcalm

/-- No message of the network wants a location update. -/
theorem steady_receiveMessage (s : Station) (data : Octets) :
    Steady s (s.receiveMessage data).station := by
  rcases s.calm_receiveMessage data with hcalm | ⟨procedure, body, _, _, heq⟩
  · exact hcalm.steady
  · rw [heq]
    exact s.calm_noteContact.steady.trans (steady_messageProcedure _ body procedure)

/-- No primitive from below wants a location update. -/
theorem steady_rrProcedure (s : Station) (p : RrPrimitive) (procedure : RrProcedure) :
    Steady s (procedure.run s p).station := by
  cases hcalm : procedure.isCalm with
  | true => exact (s.calm_rrProcedure p hcalm).steady
  | false =>
    cases procedure with
    | beginUpdate => exact s.steady_beginUpdate
    | loseUpdateLink => exact s.steady_loseUpdateLink p
    | completeReject => exact s.steady_completeReject
    | receiveMessage => exact s.steady_receiveMessage _
    | _ => cases hcalm

end Station

end MobileStation
