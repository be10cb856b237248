import MobileStation.Proofs.Frame
import MobileStation.Proofs.Timers

/-!
# Retries of a location update

A location update that failed is tried again when T3211 or T3213 runs out. A retry is in prospect
while one of them is running, or has run out and its event waits. Nothing but the handling of that
event takes the prospect away.

Main statements: `prospects_startTimer`, `prospects_enter`, `prospects_returnIdle` and
`prospects_tick` (what the local updates do to the retries in prospect), `retries_iff`.
-/

namespace MobileStation

/-! ## Timers -/

/-- The timers after which a location update is tried again. -/
def TimerName.isRetry : TimerName → Bool
  | t3211 => true
  | t3213 => true
  | _ => false

/-- The event after which a location update is tried again. -/
def Event.isRetry : Event → Bool
  | timeout timer => timer.isRetry
  | _ => false

/-- The input brings such an event. -/
def Input.isRetry : Input → Bool
  | event e => e.isRetry
  | _ => false

/-- The retry timers that run out. -/
theorem TimerSet.countP_due (s : TimerSet) (now : Nat) :
    (s.due now).countP TimerName.isRetry =
      ((s.get .t3211).isDue now).toNat + ((s.get .t3213).isDue now).toNat := by
  simp only [due, List.countP_filter, TimerName.all, List.countP_cons, List.countP_nil,
    TimerName.isRetry, Bool.true_and, Bool.false_and]
  cases (s.get .t3211).isDue now <;> cases (s.get .t3213).isDue now <;> rfl

namespace Station

/-- Entering a state starts no other timer than T3212. -/
theorem isRunning_enter_of_ne (s : Station) (state : MainState) (substate : Option IdleSubstate)
    {name : TimerName} (h : name ≠ .t3212) :
    (s.enter state substate).timers.isRunning name = s.timers.isRunning name := by
  have hresumed : ({ s with machine := s.machine.enter state substate } :
      Station).resumeDetach.timers = s.timers := by simp
  unfold enter armPeriodicTimer
  split
  · rw [startTimer, TimerSet.isRunning_start_of_ne _ h, hresumed]
  · rw [hresumed]

/-! ## Retries in prospect -/

/-- How many retries are in prospect: retry timers that are running, and events of such timers that
wait. -/
def prospects (s : Station) : Nat :=
  (s.timers.isRunning .t3211).toNat + (s.timers.isRunning .t3213).toNat +
    s.queues.events.countP Event.isRetry

/-- The retries in prospect depend on the retry timers and on their events. -/
theorem prospects_congr {s t : Station}
    (htimers : ∀ timer : TimerName, timer.isRetry = true →
      t.timers.isRunning timer = s.timers.isRunning timer)
    (hevents : t.queues.events.countP Event.isRetry = s.queues.events.countP Event.isRetry) :
    t.prospects = s.prospects := by
  rw [prospects, prospects, htimers .t3211 rfl, htimers .t3213 rfl, hevents]

theorem prospects_of_frame {s t : Station} (htimers : t.timers = s.timers)
    (hqueues : t.queues = s.queues) : t.prospects = s.prospects := by
  rw [prospects, prospects, htimers, hqueues]

/-- Another timer than those of retries opens no prospect. -/
theorem prospects_startTimer {s : Station} {name : TimerName} (h : name.isRetry = false)
    (seconds : Nat) : (s.startTimer name seconds).prospects = s.prospects := by
  refine prospects_congr ?_ rfl
  intro timer hretry
  have hne : timer ≠ name := by
    rintro rfl
    simp [hretry] at h
  exact s.timers.isRunning_start_of_ne hne _ _

/-- Starting a timer opens at most one prospect. -/
theorem prospects_startTimer_le (s : Station) (name : TimerName) (seconds : Nat) :
    (s.startTimer name seconds).prospects ≤ s.prospects + 1 := by
  have hother (timer : TimerName) (hne : timer ≠ name) :
      (s.startTimer name seconds).timers.isRunning timer = s.timers.isRunning timer :=
    s.timers.isRunning_start_of_ne hne _ _
  have hself := ((s.startTimer name seconds).timers.isRunning name).toNat_le
  have hevents : (s.startTimer name seconds).queues = s.queues := rfl
  simp only [prospects, hevents]
  -- One timer is started, so of the two that count one at most.
  by_cases h : name = .t3211
  · subst h
    rw [hother .t3213 (by decide)]
    omega
  · rw [hother .t3211 (Ne.symm h)]
    by_cases h' : name = .t3213
    · subst h'
      omega
    · rw [hother .t3213 (Ne.symm h')]
      omega

theorem prospects_stopTimer {s : Station} {name : TimerName} (h : name.isRetry = false) :
    (s.stopTimer name).prospects = s.prospects := by
  refine prospects_congr ?_ rfl
  intro timer hretry
  have hne : timer ≠ name := by
    rintro rfl
    simp [hretry] at h
  exact s.timers.isRunning_stop_of_ne hne

theorem prospects_resumeDetach (s : Station) : s.resumeDetach.prospects = s.prospects := by
  unfold resumeDetach
  split
  · refine prospects_congr (fun _ _ => rfl) ?_
    simp [queueEvent, Event.isRetry]
  · rfl

theorem prospects_armPeriodicTimer (s : Station) :
    s.armPeriodicTimer.prospects = s.prospects := by
  unfold armPeriodicTimer
  split
  · exact prospects_startTimer rfl _
  · rfl

/-- Entering a state neither opens nor takes away the prospect of a retry. -/
theorem prospects_enter (s : Station) (state : MainState) (substate : Option IdleSubstate) :
    (s.enter state substate).prospects = s.prospects :=
  (prospects_armPeriodicTimer _).trans (prospects_resumeDetach _)

theorem prospects_returnIdle (s : Station) : s.returnIdle.prospects = s.prospects := by
  unfold returnIdle
  refine (prospects_enter _ _ _).trans ?_
  split
  · rfl
  · exact prospects_stopTimer (s := { s with update.wanted := false }) rfl

theorem prospects_noteContact (s : Station) : s.noteContact.prospects = s.prospects := by
  have hstop : (s.stopTimer .t3212).prospects = s.prospects := prospects_stopTimer rfl
  simp only [noteContact]
  split
  · exact (prospects_startTimer rfl _).trans hstop
  · exact hstop

theorem prospects_changePeriodicInterval (s : Station) (seconds : UInt32) (chance : Nat) :
    (s.changePeriodicInterval seconds chance).prospects = s.prospects := by
  simp only [changePeriodicInterval]
  split
  · exact prospects_congr (fun timer _ => by simp) rfl
  · exact prospects_startTimer (s := s) rfl _

/-- System information touches the periodic timer alone. -/
theorem prospects_applySystemInformation (s : Station) (info : SystemInformation) (chance : Nat) :
    (s.applySystemInformation info chance).prospects = s.prospects := by
  simp only [applySystemInformation]
  split
  · split
    · exact prospects_changePeriodicInterval _ _ _
    · rfl
  · split
    · exact prospects_stopTimer (s := s) rfl
    · rfl

/-- The passing of time turns a retry timer into its event. -/
theorem prospects_tick (s : Station) (now : Nat) : (s.tick now).prospects = s.prospects := by
  have hdue (a : TimerName) : ((s.timers.isRunning a && !(s.timers.get a).isDue now)).toNat +
      ((s.timers.get a).isDue now).toNat = (s.timers.isRunning a).toNat := by
    cases hdue : (s.timers.get a).isDue now with
    | false => simp
    | true => rw [TimerSet.isRunning_of_isDue hdue]; rfl
  have hqueued : ((s.timers.due now).map Event.timeout).countP Event.isRetry =
      (s.timers.due now).countP TimerName.isRetry := List.countP_map
  have hframe := s.tick_frame now
  simp only [prospects, hframe, TimerSet.isRunning_tick, List.countP_append, hqueued,
    TimerSet.countP_due]
  have hfirst := hdue .t3211
  have hsecond := hdue .t3213
  omega

/-- An input that waits opens the prospect of a retry only where it brings its event. -/
theorem prospects_queue (s : Station) (i : Input) :
    (s.queue i).prospects = s.prospects + i.isRetry.toNat := by
  have hother : (s.queue i).timers = s.timers := by simp
  rw [prospects, prospects, hother]
  cases i with
  | event e =>
    cases he : e.isRetry <;> simp [queue, queueEvent, Input.isRetry, he, Nat.add_assoc]
  | _ => simp [queue, Input.isRetry]

/-- A station that drops all it holds has no retry in prospect. -/
theorem prospects_exit (s : Station) : s.exit.prospects = 0 := by
  simp [prospects, exit, TimerSet.stopAll, TimerSet.isRunning, Timer.stop, Timer.isRunning]

/-- Taking the next input takes its prospect of a retry. -/
theorem prospects_of_nextInput? {s : Station} {rest : Queues} {i : Input}
    (h : nextInput? s.queues = some (i, rest)) :
    s.prospects = { s with queues := rest }.prospects + i.isRetry.toNat := by
  unfold nextInput? at h
  split at h
  · cases h
    simp [prospects, Input.isRetry, *]
  · cases h
    simp [prospects, Input.isRetry, *]
  · cases h
    simp [prospects, Input.isRetry, *]
  -- Only the queue of events holds retries.
  · next e rest heq =>
    cases h
    cases he : e.isRetry <;> simp [prospects, Input.isRetry, heq, he, Nat.add_assoc]
  · cases h

/-! ## The prospect of a retry -/

/-- A retry timer is running, or has run out and its event waits. -/
def Retries (s : Station) : Prop :=
  ∃ timer : TimerName, timer.isRetry = true ∧
    (s.timers.isRunning timer = true ∨ .timeout timer ∈ s.queues.events)

theorem retries_iff {s : Station} : s.Retries ↔ s.prospects ≠ 0 := by
  have hevents : s.queues.events.countP Event.isRetry ≠ 0 ↔
      ∃ timer : TimerName, timer.isRetry = true ∧ .timeout timer ∈ s.queues.events := by
    rw [← Nat.pos_iff_ne_zero, List.countP_pos_iff]
    constructor
    · rintro ⟨e, hwaits, hretry⟩
      cases e with
      | timeout timer => exact ⟨timer, hretry, hwaits⟩
      | _ => cases hretry
    · rintro ⟨timer, hretry, hwaits⟩
      exact ⟨_, hwaits, hretry⟩
  have hrunning (timer : TimerName) :
      (s.timers.isRunning timer).toNat ≠ 0 ↔ s.timers.isRunning timer = true := by
    cases s.timers.isRunning timer <;> decide
  -- The sum of the prospects is not zero where one of them is not.
  constructor
  · rintro ⟨timer, hretry, hrun | hwaits⟩
    · have hone := (hrunning timer).mpr hrun
      cases timer with
      | t3211 => unfold prospects; omega
      | t3213 => unfold prospects; omega
      | _ => cases hretry
    · have hone := hevents.mpr ⟨timer, hretry, hwaits⟩
      unfold prospects
      omega
  · intro h
    by_cases hwaits : s.queues.events.countP Event.isRetry = 0
    · by_cases hfirst : (s.timers.isRunning .t3211).toNat = 0
      · refine ⟨.t3213, rfl, .inl ((hrunning _).mp ?_)⟩
        unfold prospects at h
        omega
      · exact ⟨.t3211, rfl, .inl ((hrunning _).mp hfirst)⟩
    · obtain ⟨timer, hretry, hmem⟩ := hevents.mp hwaits
      exact ⟨timer, hretry, .inr hmem⟩

/-- The prospect of a retry is kept by what keeps their number. -/
theorem retries_congr {s t : Station} (h : t.prospects = s.prospects) :
    t.Retries ↔ s.Retries := by
  rw [retries_iff, retries_iff, h]

theorem retries_of_frame {s t : Station} (htimers : t.timers = s.timers)
    (hqueues : t.queues = s.queues) : t.Retries ↔ s.Retries :=
  retries_congr (prospects_of_frame htimers hqueues)

theorem retries_startTimer {s : Station} {name : TimerName} (h : name.isRetry = false)
    (seconds : Nat) : (s.startTimer name seconds).Retries ↔ s.Retries :=
  retries_congr (prospects_startTimer h seconds)

/-- Starting a retry timer opens the prospect of a retry. -/
theorem retries_startTimer_self (s : Station) {name : TimerName} (h : name.isRetry = true)
    (seconds : Nat) : (s.startTimer name seconds).Retries := by
  refine ⟨name, h, .inl (s.timers.isRunning_start ?_ _ _)⟩
  -- Only T3212 may fail to start, and it is no retry timer.
  rintro rfl
  cases h

theorem retries_stopTimer {s : Station} {name : TimerName} (h : name.isRetry = false) :
    (s.stopTimer name).Retries ↔ s.Retries :=
  retries_congr (prospects_stopTimer h)

theorem retries_enter (s : Station) (state : MainState) (substate : Option IdleSubstate) :
    (s.enter state substate).Retries ↔ s.Retries :=
  retries_congr (s.prospects_enter state substate)

theorem retries_returnIdle (s : Station) : s.returnIdle.Retries ↔ s.Retries :=
  retries_congr s.prospects_returnIdle

theorem retries_noteContact (s : Station) : s.noteContact.Retries ↔ s.Retries :=
  retries_congr s.prospects_noteContact

theorem retries_applySystemInformation (s : Station) (info : SystemInformation) (chance : Nat) :
    (s.applySystemInformation info chance).Retries ↔ s.Retries :=
  retries_congr (s.prospects_applySystemInformation info chance)

theorem retries_tick (s : Station) (now : Nat) : (s.tick now).Retries ↔ s.Retries :=
  retries_congr (s.prospects_tick now)

theorem retries_queue {s : Station} (h : s.Retries) (i : Input) : (s.queue i).Retries := by
  rw [retries_iff] at h ⊢
  rw [prospects_queue]
  omega

theorem not_retries_exit (s : Station) : ¬ s.exit.Retries := by
  rw [retries_iff, prospects_exit]
  exact fun h => h rfl

end Station

end MobileStation
