import Mathlib.Algebra.Group.Nat.Defs
import MobileStation.Proofs.Steps.Inputs
import MobileStation.Proofs.Update.Arming
import MobileStation.Proofs.Update.Calm
import MobileStation.Proofs.Update.Reject

/-!
# For how long timers run

A procedure starts a timer for the duration that the configuration gives it, and T3212 for the
interval of periodic location updates, always from the present moment. Only system information sets
T3212 to another time, which is less than a new interval away.

Main statements: `handle_drives` (what the handling of an input does to the timers), `fits_of_handle`
and `fits_handle` (whether a clock can tell the deadlines that it sets).
-/

namespace MobileStation

namespace Station

/-! ## Steps -/

/-- What a procedure does to the timers: it starts one for its duration, or stops one. -/
def Orders (s : Station) : TimerSet.Operation → Prop
  | .start name now interval => now = s.now ∧ interval = 1000 * s.secondsOf name
  | .stop _ => True
  | _ => False

/-- A step that starts timers for their durations and stops them, one after the other. Whatever the
deadlines are counted from is left alone. -/
structure Drives (s t : Station) : Prop where
  now : t.now = s.now
  config : t.config = s.config
  interval : t.periodicInterval = s.periodicInterval
  timers : ∃ ops, (∀ op ∈ ops, s.Orders op) ∧ t.timers = s.timers.run ops

namespace Drives

variable {s t u : Station}

/-- A step that leaves the timers alone. -/
theorem of_frame (hnow : t.now = s.now) (hconfig : t.config = s.config)
    (hinterval : t.periodicInterval = s.periodicInterval) (htimers : t.timers = s.timers) :
    Drives s t :=
  ⟨hnow, hconfig, hinterval, [], by simp, htimers⟩

theorem refl (s : Station) : Drives s s := of_frame rfl rfl rfl rfl

theorem secondsOf (h : Drives s t) (name : TimerName) : t.secondsOf name = s.secondsOf name := by
  cases name <;> simp only [Station.secondsOf, h.config, h.interval]

theorem orders_iff (h : Drives s t) {op : TimerSet.Operation} : t.Orders op ↔ s.Orders op := by
  cases op with
  | start name now interval => simp only [Orders, h.now, h.secondsOf]
  | _ => exact Iff.rfl

theorem trans (first : Drives s t) (second : Drives t u) : Drives s u := by
  obtain ⟨ops, hops, htimers⟩ := first.timers
  obtain ⟨ops', hops', htimers'⟩ := second.timers
  refine ⟨second.now.trans first.now, second.config.trans first.config,
    second.interval.trans first.interval, ops ++ ops', ?_, ?_⟩
  · intro op hop
    rcases List.mem_append.mp hop with hbefore | hafter
    · exact hops op hbefore
    · exact first.orders_iff.mp (hops' op hafter)
  · rw [htimers', htimers, TimerSet.run_append]

/-- A step after updates of other fields. -/
theorem after (h : Drives t u) (hnow : t.now = s.now) (hconfig : t.config = s.config)
    (hinterval : t.periodicInterval = s.periodicInterval) (htimers : t.timers = s.timers) :
    Drives s u :=
  (of_frame hnow hconfig hinterval htimers).trans h

/-- Procedures one after the other. -/
theorem andThen {o : Outcome} {next : Station → Outcome} (first : Drives s o.station)
    (second : Drives o.station (next o.station).station) :
    Drives s (o.andThen next).station := by
  unfold Outcome.andThen
  split
  · exact first.trans second
  · exact first

end Drives

/-! ## Local updates -/

theorem drives_startTimer (s : Station) (name : TimerName) :
    Drives s (s.startTimer name (s.secondsOf name)) := by
  refine ⟨rfl, rfl, rfl, [.start name s.now (1000 * s.secondsOf name)], ?_, rfl⟩
  intro op hop
  rw [List.mem_singleton.mp hop]
  exact ⟨rfl, rfl⟩

theorem drives_stopTimer (s : Station) (name : TimerName) : Drives s (s.stopTimer name) := by
  refine ⟨rfl, rfl, rfl, [.stop name], ?_, rfl⟩
  intro op hop
  rw [List.mem_singleton.mp hop]
  trivial

theorem drives_armPeriodicTimer (s : Station) : Drives s s.armPeriodicTimer := by
  unfold armPeriodicTimer
  split
  · exact s.drives_startTimer .t3212
  · exact .refl s

theorem drives_enter (s : Station) (state : MainState) (substate : Option IdleSubstate) :
    Drives s (s.enter state substate) := by
  refine Drives.after ?_ (t := { s with machine := s.machine.enter state substate })
    rfl rfl rfl rfl
  have hresumed (u : Station) : Drives u u.resumeDetach := by
    unfold resumeDetach
    split <;> exact .of_frame rfl rfl rfl rfl
  exact (hresumed _).trans (drives_armPeriodicTimer _)

theorem drives_returnIdle (s : Station) : Drives s s.returnIdle := by
  unfold returnIdle
  split
  · exact s.drives_enter _ _
  · have habandoned : Drives s s.abandonUpdate :=
      (drives_stopTimer _ _).after rfl rfl rfl rfl
    exact habandoned.trans (drives_enter _ _ _)

/-- A timer is started and a state is entered. -/
theorem drives_startTimer_enter (s : Station) (name : TimerName) (state : MainState)
    (substate : Option IdleSubstate) :
    Drives s ((s.startTimer name (s.secondsOf name)).enter state substate) :=
  (s.drives_startTimer name).trans (drives_enter _ _ _)

/-- A step that is not about a location update. -/
theorem drives_of_calm {s t : Station} (h : Calm true s t) : Drives s t := by
  induction h with
  | frame hskeleton _ =>
    simp only [skeleton, Prod.mk.injEq] at hskeleton
    obtain ⟨_, htimers, _, _, hinterval, hnow, hconfig⟩ := hskeleton
    exact .of_frame hnow hconfig hinterval htimers
  | startTimer s name _ => exact s.drives_startTimer name
  | stopTimer s name _ => exact s.drives_stopTimer name
  | clearAttempts s _ => exact .of_frame rfl rfl rfl rfl
  | enter s state substate _ => exact s.drives_enter state substate
  | returnIdle s => exact s.drives_returnIdle
  | trans _ _ first second => exact first.trans second

/-! ## Location updates -/

theorem drives_tryUpdate (s : Station) : Drives s s.tryUpdate.station := by
  unfold tryUpdate requestUpdate
  split
  · exact .refl s
  · split
    · split
      · exact .refl s
      · exact (s.drives_enter _ _).trans (.of_frame rfl rfl rfl rfl)
    · exact .of_frame rfl rfl rfl rfl

theorem drives_startUpdate (s : Station) (kind : UpdateKind) :
    Drives s (s.startUpdate kind).station := by
  simp only [startUpdate]
  split
  · exact .refl s
  · exact (drives_tryUpdate _).after rfl rfl rfl rfl

theorem drives_selectCell (s : Station) : Drives s s.selectCell.station := by
  rcases s.selectCell_cases with hcase | hcase <;> rw [hcase]
  · exact s.drives_returnIdle.trans (drives_startUpdate _ _)
  · exact s.drives_returnIdle

theorem drives_failUpdate (s : Station) : Drives s s.failUpdate.station := by
  have hcounted (u : Station) : Drives u u.countAttempt := by
    unfold countAttempt
    split <;> exact .of_frame rfl rfl rfl rfl
  have hlater (u : Station) : Drives u u.retryLater.returnIdle := by
    unfold retryLater
    split
    · exact (u.drives_startTimer .t3211).trans (drives_returnIdle _)
    · exact (drives_returnIdle _).after rfl rfl rfl rfl
  refine ((s.drives_stopTimer .t3210).trans (hcounted _)).trans ?_
  simp only [failUpdate, station_done]
  -- The registration is kept or forgotten, and the delay before the next attempt begins.
  split
  · exact hlater _
  · exact (hlater _).after rfl rfl rfl rfl

theorem drives_loseUpdateLink (s : Station) (p : RrPrimitive) :
    Drives s (s.loseUpdateLink p).station := by
  simp only [loseUpdateLink]
  split
  · refine Drives.trans ?_ (drives_returnIdle _)
    exact (drives_startTimer _ .t3213).after rfl rfl rfl rfl
  · exact (drives_failUpdate _).after rfl rfl rfl rfl

theorem drives_timeoutUpdate (s : Station) : Drives s s.timeoutUpdate.station := by
  unfold timeoutUpdate
  split
  · exact (drives_failUpdate _).after rfl rfl rfl rfl
  · exact .refl s

theorem drives_receiveUpdateAccept (s : Station) (body : Octets) :
    Drives s (s.receiveUpdateAccept body).station := by
  unfold receiveUpdateAccept
  split
  · exact .refl s
  · next accept _ =>
    have hstopped : Drives s ((s.stopTimer .t3212).stopTimer .t3210) :=
      (s.drives_stopTimer _).trans (drives_stopTimer _ _)
    have hregistered : Drives s (((s.stopTimer .t3212).stopTimer .t3210).registerIn accept.lai) :=
      hstopped.trans (.of_frame rfl rfl rfl rfl)
    have hsent (u v : Station) (hnow : v.now = u.now) (hconfig : v.config = u.config)
        (hinterval : v.periodicInterval = u.periodicInterval) (htimers : v.timers = u.timers) :
        Drives u (v.sendMessage .tmsiReallocationComplete).station :=
      (drives_of_calm (v.calm_sendMessage _)).after hnow hconfig hinterval htimers
    -- A new temporary identity is confirmed, and whatever came of that the release is awaited.
    refine hregistered.trans (Drives.andThen ?_ ?_)
    · unfold applyAcceptedIdentity
      split
      · exact hsent _ _ rfl rfl rfl rfl
      · exact hsent _ _ rfl rfl rfl rfl
      · exact .refl _
    · exact (drives_startTimer_enter _ .t3240 _ _).after rfl rfl rfl rfl

theorem drives_receiveUpdateReject (s : Station) (body : Octets) :
    Drives s (s.receiveUpdateReject body).station := by
  unfold receiveUpdateReject
  split
  · exact .refl s
  · next cause _ =>
    have hstopped : Drives s ((s.stopTimer .t3212).stopTimer .t3210) :=
      (s.drives_stopTimer _).trans (drives_stopTimer _ _)
    refine hstopped.trans ?_
    exact (drives_startTimer_enter _ .t3240 _ _).after rfl rfl rfl rfl

theorem drives_rejectFinally (s : Station) (cause : RejectCause) :
    Drives s (s.rejectFinally cause) := by
  have hidentity : Drives s (s.rejectIdentity cause) := by
    unfold rejectIdentity
    split <;> exact .of_frame rfl rfl rfl rfl
  refine hidentity.trans ?_
  unfold rejectFinally forbidRejected
  split
  · exact .of_frame rfl rfl rfl rfl
  · split <;> exact .of_frame rfl rfl rfl rfl

theorem drives_completeReject (s : Station) : Drives s s.completeReject.station := by
  simp only [completeReject]
  split
  · refine (s.drives_rejectFinally s.update.rejectCause).trans ?_
    exact (drives_returnIdle _).after rfl rfl rfl rfl
  · exact (drives_failUpdate _).after rfl rfl rfl rfl

/-! ## Inputs -/

theorem drives_receiveMessage (s : Station) (data : Octets) :
    Drives s (s.receiveMessage data).station := by
  rcases s.calm_receiveMessage data with hcalm | ⟨procedure, body, hother, _, heq⟩
  · exact drives_of_calm hcalm
  · -- The two answers to a location updating request are the messages that are not calm.
    rw [heq]
    refine (drives_of_calm s.calm_noteContact).trans ?_
    cases procedure with
    | receiveUpdateAccept => exact drives_receiveUpdateAccept _ body
    | receiveUpdateReject => exact drives_receiveUpdateReject _ body
    | _ => cases hother

theorem drives_rrProcedure (s : Station) (p : RrPrimitive) (procedure : RrProcedure) :
    Drives s (procedure.run s p).station := by
  cases hcalm : procedure.isCalm with
  | true => exact drives_of_calm (s.calm_rrProcedure p hcalm)
  | false =>
    cases procedure with
    | beginUpdate => exact s.drives_startTimer_enter .t3210 _ _
    | loseUpdateLink => exact s.drives_loseUpdateLink p
    | completeReject => exact s.drives_completeReject
    | receiveMessage => exact s.drives_receiveMessage p.payload
    | _ => cases hcalm

/-- All procedures for events but the one that applies system information. -/
theorem drives_eventProcedure (s : Station) (e : Event) {procedure : EventProcedure}
    (h : procedure ≠ .applySystemInformation) : Drives s (procedure.run s e).station := by
  cases hcalm : procedure.isCalm with
  | true => exact drives_of_calm (s.calm_eventProcedure e hcalm)
  | false =>
    cases procedure with
    | normalUpdate => exact s.drives_startUpdate _
    | periodicUpdate => exact s.drives_startUpdate _
    | tryUpdate => exact s.drives_tryUpdate
    | timeoutUpdate => exact s.drives_timeoutUpdate
    | selectCell => exact s.drives_selectCell
    | applySystemInformation => exact absurd rfl h
    | _ => cases hcalm

/-- Handling an input that brings no system information starts timers for their durations and stops
them, and does nothing else to them. -/
theorem handle_drives {s : Station} {i : Input}
    (h : ∀ info chance, i ≠ .event (.systemInformation info chance)) :
    Drives s (s.handle i).station := by
  cases i with
  | cm p =>
    simp only [handle, handleCm]
    split
    · exact (drives_of_calm (calm_cmProcedure _ p _).weaken).after rfl rfl rfl rfl
    · exact .of_frame rfl rfl rfl rfl
  | registration p => cases p <;> exact .of_frame rfl rfl rfl rfl
  | rr p =>
    simp only [handle, handleRr]
    split
    · exact s.drives_rrProcedure p _
    · exact .refl s
  | message data => exact s.drives_receiveMessage data
  | event e =>
    simp only [handle, handleEvent]
    split
    · next procedure hprocedure =>
      refine s.drives_eventProcedure e ?_
      -- System information is the only event that sets T3212 to another time.
      rintro rfl
      have htag := tag_mem_of_eventProcedure? hprocedure
      cases e with
      | systemInformation info chance => exact h info chance rfl
      | _ => simp [Event.tag, EventProcedure.tags] at htag
    · exact .refl s

/-- System information is applied in every state. -/
theorem handle_systemInformation (s : Station) (info : SystemInformation) (chance : Nat) :
    s.handle (.event (.systemInformation info chance)) =
      .done (s.applySystemInformation info chance) := rfl

/-! ## A clock with an end -/

end Station

/-- Counted from now, the durations end at times up to `horizon`, and so does every interval of
periodic location updates that can be broadcast. -/
structure TimerDurations.Fit (d : TimerDurations) (horizon now : Nat) : Prop where
  durations : ∀ seconds ∈ d.toList, now + 1000 * seconds.toNat ≤ horizon
  periodic : now + 1000 * 4294967295 ≤ horizon

namespace Station

theorem secondsOf_fit {s : Station} {horizon : Nat}
    (h : s.config.timers.Fit horizon s.now) (name : TimerName) :
    s.now + 1000 * s.secondsOf name ≤ horizon := by
  have hbroadcast := s.periodicInterval.toNat_lt
  have hperiodic := h.periodic
  cases name with
  | t3212 =>
    show s.now + 1000 * s.periodicInterval.toNat ≤ horizon
    omega
  | _ => exact h.durations _ (by simp [TimerDurations.toList])

/-- System information moves T3212, or starts or stops it, or lets it be. -/
theorem timers_applySystemInformation (s : Station) (info : SystemInformation) (chance : Nat) :
    ∃ ops : List TimerSet.Operation,
      (s.applySystemInformation info chance).timers = s.timers.run ops ∧
        ∀ op ∈ ops, op.EndsBy (s.now + 1000 * info.t3212.toNat) := by
  simp only [applySystemInformation]
  split
  · next hset =>
    have hpositive : 0 < info.t3212.toNat := by
      have hne : info.t3212.toNat ≠ 0 := fun hzero => hset (UInt32.toNat_inj.mp hzero)
      omega
    split
    · simp only [changePeriodicInterval]
      -- What is left of its time is less than the new interval, and so is what was drawn, or equal.
      split
      · next rest _ =>
        have hless := Nat.mod_lt (rest / 1000) hpositive
        refine ⟨[.setRemaining .t3212 s.now (1000 * (rest / 1000 % info.t3212.toNat))], rfl, ?_⟩
        exact List.forall_mem_singleton.mpr (.setRemaining (by omega) _)
      · have hless := Nat.mod_lt chance hpositive
        refine ⟨[.start .t3212 s.now (1000 * (1 + chance % info.t3212.toNat))], rfl, ?_⟩
        exact List.forall_mem_singleton.mpr (.start (by omega) _)
    · exact ⟨[], rfl, List.forall_mem_nil _⟩
  · split
    · exact ⟨[.stop .t3212], rfl, List.forall_mem_singleton.mpr (.stop _ _)⟩
    · exact ⟨[], rfl, List.forall_mem_nil _⟩

/-- Whatever the input, the timers are set to times at most a duration away. -/
theorem timers_handle (s : Station) (i : Input) :
    ∃ ops : List TimerSet.Operation, (s.handle i).station.timers = s.timers.run ops ∧
      ∀ horizon, s.config.timers.Fit horizon s.now → ∀ op ∈ ops, op.EndsBy horizon := by
  by_cases hinfo : ∃ info chance, i = .event (.systemInformation info chance)
  · obtain ⟨info, chance, rfl⟩ := hinfo
    obtain ⟨ops, htimers, hops⟩ := s.timers_applySystemInformation info chance
    refine ⟨ops, htimers, ?_⟩
    intro horizon hfit op hop
    have hbroadcast := info.t3212.toNat_lt
    have hperiodic := hfit.periodic
    exact (hops op hop).mono (by omega)
  · have hdrives : Drives s (s.handle i).station :=
      handle_drives fun info chance heq => hinfo ⟨info, chance, heq⟩
    obtain ⟨ops, hops, htimers⟩ := hdrives.timers
    refine ⟨ops, htimers, ?_⟩
    intro horizon hfit op hop
    have horder := hops op hop
    -- Only a start sets a deadline, and it is one for the duration of the timer.
    cases op with
    | start name now interval =>
      obtain ⟨rfl, rfl⟩ := horder
      exact .start (secondsOf_fit hfit name) name
    | stop name => exact .stop name horizon
    | _ => cases horder

/-- Handling an input leaves the clock and the configuration alone. -/
theorem clock_handle (s : Station) (i : Input) :
    (s.handle i).station.now = s.now ∧ (s.handle i).station.config = s.config := by
  by_cases hinfo : ∃ info chance, i = .event (.systemInformation info chance)
  · obtain ⟨info, chance, rfl⟩ := hinfo
    rw [handle_systemInformation, station_done]
    simp only [applySystemInformation, changePeriodicInterval]
    split <;> split <;> (try split) <;> exact ⟨rfl, rfl⟩
  · have hdrives : Drives s (s.handle i).station :=
      handle_drives fun info chance heq => hinfo ⟨info, chance, heq⟩
    exact ⟨hdrives.now, hdrives.config⟩

/-- A deadline that the clock cannot tell is not forgotten. -/
theorem fits_of_handle {s : Station} {i : Input} {horizon : Nat}
    (h : (s.handle i).station.timers.fits horizon = true) : s.timers.fits horizon = true := by
  obtain ⟨ops, htimers, -⟩ := s.timers_handle i
  rw [htimers] at h
  exact (TimerSet.fits_run_iff.mp h).1

/-- Where the durations fit, handling an input sets no deadline that the clock cannot tell. -/
theorem fits_handle {s : Station} {horizon : Nat} (h : s.timers.fits horizon = true)
    (hfit : s.config.timers.Fit horizon s.now) (i : Input) :
    (s.handle i).station.timers.fits horizon = true := by
  obtain ⟨ops, htimers, hops⟩ := s.timers_handle i
  rw [htimers]
  exact TimerSet.fits_run h (hops horizon hfit)

end Station

end MobileStation
