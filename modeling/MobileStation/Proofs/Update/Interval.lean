import MobileStation.Proofs.Update.Durations

/-!
# The bound of the periodic timer

T3212 never has more time left than the interval of periodic location updates. Procedures start it
for a whole interval or stop it, and system information that changes the interval shortens the run
as well; the clock does not go back, so no run grows longer by itself.

Main statements: `handle_paces` (what the handling of an input does to T3212), `bounded_perform`
(the bound is preserved by every action) and `periodic_run_within_interval`.
-/

namespace MobileStation

namespace Station

/-! ## The bound -/

/-- When the current run of T3212 ends, if it is running. -/
def periodicDeadline (s : Station) : Option Nat := (s.timers.get .t3212).deadline

/-- T3212 runs only where an interval is set, and at most for an interval from now on. -/
def PeriodicBounded (s : Station) : Prop :=
  ∀ deadline, s.periodicDeadline = some deadline →
    s.periodicInterval ≠ 0 ∧ deadline ≤ s.now + 1000 * s.periodicInterval.toNat

/-- The bound says nothing about a timer that is stopped. -/
theorem periodicBounded_of_stopped {s : Station} (h : s.periodicDeadline = none) :
    s.PeriodicBounded := by
  intro deadline hdeadline
  rw [h] at hdeadline
  cases hdeadline

/-! ## Steps -/

/-- What a step does to T3212: it goes on with its run, or is stopped, or is started for a whole
interval. The clock and the interval are left alone. -/
structure Paces (s t : Station) : Prop where
  now : t.now = s.now
  interval : t.periodicInterval = s.periodicInterval
  deadline : t.periodicDeadline = s.periodicDeadline ∨ t.periodicDeadline = none ∨
    (s.periodicInterval ≠ 0 ∧
      t.periodicDeadline = some (s.now + 1000 * s.periodicInterval.toNat))

namespace Paces

variable {s t : Station}

/-- Such a step keeps the bound. -/
theorem bounded (h : Paces s t) (hs : s.PeriodicBounded) : t.PeriodicBounded := by
  intro deadline hdeadline
  rw [h.now, h.interval]
  rcases h.deadline with hsame | hstopped | ⟨hset, hstarted⟩
  · exact hs deadline (hsame ▸ hdeadline)
  · rw [hstopped] at hdeadline
    cases hdeadline
  · rw [hstarted] at hdeadline
    cases hdeadline
    exact ⟨hset, Nat.le_refl _⟩

end Paces

/-! ## Inputs -/

/-- The end of a run that was started, if it was. -/
theorem periodicDeadline_start {s : TimerSet} {now interval deadline : Nat}
    (hstopped : (s.get .t3212).deadline = none)
    (h : ((s.start .t3212 now interval).get .t3212).deadline = some deadline) :
    interval ≠ 0 ∧ deadline = now + interval := by
  unfold TimerSet.start at h
  split at h
  · next hstarts =>
    rw [TimerSet.get_set, if_pos rfl] at h
    refine ⟨?_, (Option.some.inj h).symm⟩
    rintro rfl
    simp [TimerSet.canStart] at hstarts
  · rw [hstopped] at h
    cases h

/-- A procedure lets T3212 be, or stops it, or starts it for a whole interval. -/
theorem periodicDeadline_perform {s : Station} {op : TimerSet.Operation} (h : s.Orders op)
    (timers : TimerSet) :
    ((timers.perform op).get .t3212).deadline = (timers.get .t3212).deadline ∨
      ((timers.perform op).get .t3212).deadline = none ∨
      (s.periodicInterval ≠ 0 ∧ ((timers.perform op).get .t3212).deadline =
        some (s.now + 1000 * s.periodicInterval.toNat)) := by
  cases op with
  | start name now interval =>
    obtain ⟨rfl, rfl⟩ := h
    show ((timers.start name s.now _).get .t3212).deadline = _ ∨ _
    simp only [TimerSet.perform, TimerSet.get_start]
    split
    · next hstarts =>
      obtain ⟨rfl, hcan⟩ := hstarts
      -- T3212 is not started for no time at all.
      have hset : s.periodicInterval ≠ 0 := by
        intro hzero
        simp [TimerSet.canStart, secondsOf, hzero] at hcan
      exact .inr (.inr ⟨hset, rfl⟩)
    · exact .inl rfl
  | stop name =>
    show ((timers.stop name).get .t3212).deadline = _ ∨ _
    simp only [TimerSet.perform, TimerSet.get_stop]
    split
    · exact .inr (.inl rfl)
    · exact .inl rfl
  | _ => cases h

/-- What one operation after the other does to T3212, they do to it together. -/
theorem periodicDeadline_run {s : Station} {ops : List TimerSet.Operation}
    (h : ∀ op ∈ ops, s.Orders op) (timers : TimerSet) :
    ((timers.run ops).get .t3212).deadline = (timers.get .t3212).deadline ∨
      ((timers.run ops).get .t3212).deadline = none ∨
      (s.periodicInterval ≠ 0 ∧ ((timers.run ops).get .t3212).deadline =
        some (s.now + 1000 * s.periodicInterval.toNat)) := by
  induction ops generalizing timers with
  | nil => exact .inl rfl
  | cons op rest ih =>
    have hfirst := periodicDeadline_perform (h op (by simp)) timers
    rcases ih (fun o ho => h o (by simp [ho])) (timers.perform op) with hsame | hchanged
    · rw [TimerSet.run_cons, hsame]
      exact hfirst
    · exact .inr hchanged

/-- Handling an input that brings no system information stops T3212, or starts it for a whole
interval, or lets it be. -/
theorem handle_paces {s : Station} {i : Input}
    (h : ∀ info chance, i ≠ .event (.systemInformation info chance)) :
    Paces s (s.handle i).station := by
  have hdrives : Drives s (s.handle i).station := handle_drives h
  obtain ⟨ops, hops, htimers⟩ := hdrives.timers
  refine ⟨hdrives.now, hdrives.interval, ?_⟩
  rw [periodicDeadline, periodicDeadline, htimers]
  exact periodicDeadline_run hops s.timers

/-! ## System information -/

/-- After a change of the interval the rest of the run is at most the new interval, whatever it was
before: it is taken modulo the interval, or drawn from the seconds of it. -/
theorem periodicBounded_changePeriodicInterval (s : Station) {seconds : UInt32}
    (h : seconds ≠ 0) (chance : Nat) :
    (s.changePeriodicInterval seconds chance).PeriodicBounded := by
  have hpositive : 0 < seconds.toNat := by
    have hne : seconds.toNat ≠ 0 := fun hzero => h (UInt32.toNat_inj.mp hzero)
    omega
  simp only [changePeriodicInterval]
  split
  · next rest hrest =>
    -- The run goes on with the rest of it modulo the new interval.
    intro deadline hdeadline
    have hless := Nat.mod_lt (rest / 1000) hpositive
    have hmoved : deadline = s.now + 1000 * (rest / 1000 % seconds.toNat) := by
      simp only [periodicDeadline, TimerSet.setRemaining, TimerSet.get_set, if_true,
        Timer.setRemaining] at hdeadline
      obtain ⟨_, _, heq⟩ := Option.map_eq_some_iff.mp hdeadline
      exact heq.symm
    refine ⟨h, ?_⟩
    show deadline ≤ s.now + 1000 * seconds.toNat
    omega
  · next hrest =>
    -- The timer was stopped, and is started for a number of seconds that is drawn.
    intro deadline hdeadline
    have hless := Nat.mod_lt chance hpositive
    have hstopped : (s.timers.get .t3212).deadline = none := Option.map_eq_none_iff.mp hrest
    have hstarted := (periodicDeadline_start hstopped hdeadline).2
    refine ⟨h, ?_⟩
    show deadline ≤ s.now + 1000 * seconds.toNat
    omega

theorem periodicBounded_applySystemInformation {s : Station} (h : s.PeriodicBounded)
    (info : SystemInformation) (chance : Nat) :
    (s.applySystemInformation info chance).PeriodicBounded := by
  simp only [applySystemInformation]
  split
  · next hset =>
    split
    · exact periodicBounded_changePeriodicInterval _ hset chance
    · exact h
  · split
    · exact periodicBounded_of_stopped rfl
    · exact h

/-- A new interval starts T3212, and none stops it. -/
theorem applySystemInformation_periodic (s : Station) (info : SystemInformation) (chance : Nat) :
    (info.t3212 ≠ 0 → info.t3212 ≠ s.periodicInterval →
        (s.applySystemInformation info chance).timers.isRunning .t3212 = true ∧
          (s.applySystemInformation info chance).periodicInterval = info.t3212) ∧
      (info.t3212 = 0 → info.si3 = true →
        (s.applySystemInformation info chance).timers.isRunning .t3212 = false ∧
          (s.applySystemInformation info chance).periodicInterval = 0) := by
  constructor
  · intro hset hnew
    simp only [applySystemInformation]
    rw [if_pos hset, if_pos hnew]
    exact ⟨isRunning_changePeriodicInterval _ _ _, rfl⟩
  · intro hzero hthree
    simp only [applySystemInformation]
    rw [if_neg (not_not.mpr hzero), if_pos hthree]
    exact ⟨rfl, rfl⟩

/-! ## Actions -/

/-- The action does not turn the clock back. -/
def ClockGoesOn (s : Station) : Action → Prop
  | .clock now => s.now ≤ now
  | .tick now => s.now ≤ now
  | _ => True

/-- The bound is kept by whatever handles an input. -/
theorem handle_periodicBounded {s : Station} (h : s.PeriodicBounded) (i : Input) :
    (s.handle i).station.PeriodicBounded := by
  by_cases hinfo : ∃ info chance, i = .event (.systemInformation info chance)
  · obtain ⟨info, chance, rfl⟩ := hinfo
    exact periodicBounded_applySystemInformation h info chance
  · refine (handle_paces ?_).bounded h
    intro info chance heq
    exact hinfo ⟨info, chance, heq⟩

/-- The bound is kept when only time passes. -/
theorem periodicBounded_of_later {s t : Station} (h : s.PeriodicBounded) (hnow : s.now ≤ t.now)
    (hinterval : t.periodicInterval = s.periodicInterval)
    (hdeadline : t.periodicDeadline = s.periodicDeadline ∨ t.periodicDeadline = none) :
    t.PeriodicBounded := by
  rcases hdeadline with hsame | hstopped
  · intro deadline hdeadline
    obtain ⟨hset, hbound⟩ := h deadline (hsame ▸ hdeadline)
    rw [hinterval]
    exact ⟨hset, by omega⟩
  · exact periodicBounded_of_stopped hstopped

theorem periodicBounded_tick {s : Station} (h : s.PeriodicBounded) {now : Nat}
    (hnow : s.now ≤ now) : (s.tick now).PeriodicBounded := by
  have hexpire (t : Station) (timer : TimerName) :
      (t.expire timer).now = t.now ∧ (t.expire timer).periodicInterval = t.periodicInterval := by
    simp only [expire]
    split <;> exact ⟨rfl, rfl⟩
  have hclock : (s.tick now).now = now :=
    foldl_expire_of_expire (fun t timer => (hexpire t timer).1) _ _
  have hinterval : (s.tick now).periodicInterval = s.periodicInterval :=
    foldl_expire_of_expire (fun t timer => (hexpire t timer).2) _ _
  have htimers : (s.tick now).timers = s.timers.tick now := (s.tick_frame now).2.2.2.1
  refine periodicBounded_of_later h (by rw [hclock]; exact hnow) hinterval ?_
  -- A run that has come to its end is over, and any other one goes on.
  simp only [periodicDeadline, htimers, TimerSet.tick, TimerSet.get_map, Timer.expire]
  split
  · exact .inr rfl
  · exact .inl rfl

theorem bounded_perform {s : Station} (h : s.PeriodicBounded) {a : Action}
    (hclock : s.ClockGoesOn a) : (s.perform a).PeriodicBounded := by
  cases hhandled : a.handled? s with
  | some r =>
    obtain ⟨t, i⟩ := r
    have hqueues := queues_of_handled hhandled
    rw [perform_of_handled hhandled]
    refine handle_periodicBounded ?_ i
    rw [hqueues]
    exact h
  | none =>
    cases a with
    | handle input => cases hhandled
    | queue input => cases input <;> exact h
    | serve =>
      rw [perform_serve_of_not_handled hhandled]
      exact h
    -- The interval is counted from now, so time that passes only helps.
    | clock now => exact periodicBounded_of_later h hclock rfl (.inl rfl)
    | tick now => exact periodicBounded_tick h hclock
    | exit => exact periodicBounded_of_stopped rfl
    | _ => exact h

/-! ## Runs -/

/-- As long as the clock does not go back, T3212 runs only where an interval is set, and ends at
most one interval from now. System information with a new interval leaves it running, and system
information of type 3 with none leaves it stopped. -/
theorem periodic_run_within_interval (config : Config) (subscriber : Subscriber)
    {actions : List Action}
    (hclock : EveryStep ClockGoesOn (ofSubscriber config subscriber) actions) :
    let s := (ofSubscriber config subscriber).run actions
    s.PeriodicBounded ∧
      ∀ a t info chance, a.handled? s = some (t, .event (.systemInformation info chance)) →
        (info.t3212 ≠ 0 → info.t3212 ≠ s.periodicInterval →
          (s.perform a).timers.isRunning .t3212 = true ∧
            (s.perform a).periodicInterval = info.t3212) ∧
        (info.t3212 = 0 → info.si3 = true →
          (s.perform a).timers.isRunning .t3212 = false ∧
            (s.perform a).periodicInterval = 0) := by
  intro s
  constructor
  · have hstep : ∀ t a, ClockGoesOn t a → t.PeriodicBounded → (t.perform a).PeriodicBounded :=
      fun t a hgoesOn ht => bounded_perform ht hgoesOn
    exact invariant_run_of_everyStep hstep hclock (periodicBounded_of_stopped rfl)
  · intro a t info chance hhandled
    -- Taking the input from its queue leaves the interval alone.
    have hinterval : t.periodicInterval = s.periodicInterval := by
      rw [queues_of_handled hhandled]
    rw [perform_of_handled hhandled, handle_systemInformation, ← hinterval]
    exact t.applySystemInformation_periodic info chance

/-- A run of T3212 that was started for six minutes is shortened to eight seconds by an interval of
36 seconds, and the bound holds of what is left of it. -/
theorem periodic_run_shortened :
    let s := ofConfig
      { imei := "356938035643809"
        imeisv := "3569380356438091"
        sim := some
          { imsi := "262420000000001"
            lai := some ⟨⟨262, 42, false⟩, 7⟩
            updated := true }
        t3212 := 360 }
    let actions : List Action :=
      [.cell (.campedIn ⟨⟨262, 42, false⟩, 7⟩), .handle (.event .newLocationArea),
        .clock 100000, .handle (.event (.systemInformation { t3212 := 36, si3 := true } 0)),
        .tick 105000]
    EveryStep ClockGoesOn s actions ∧ (s.run actions).periodicDeadline = some 108000 ∧
      (s.run actions).PeriodicBounded := by
  intro s actions
  have hclock : EveryStep ClockGoesOn s actions :=
    ⟨trivial, trivial, Nat.zero_le _, trivial, by show Station.now _ ≤ _; decide +kernel, trivial⟩
  exact ⟨hclock, by decide +kernel, (periodic_run_within_interval _ _ hclock).1⟩

end Station

end MobileStation
