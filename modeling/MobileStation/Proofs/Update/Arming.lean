import MobileStation.Proofs.Supervision.Waits
import MobileStation.Proofs.Update.Wanted

/-!
# Arming the periodic timer

T3212 runs once. It is started anew whenever the station enters a state with periodic location
updates, so that every procedure that ends with such an entry keeps the updates going, whatever it
did to the timer before. Most of the others leave alone all that the updates depend on.

Main statements: `periodicGoesOn_enter` (entering a state keeps periodic updates going), and for the
procedures `arms_cmProcedure`, `arms_rrProcedure` and `periodicGoesOn_startUpdate_iff`.
-/

namespace MobileStation

namespace Station

/-! ## Going on -/

/-- The station is to update its location periodically: it is idle in one of the two substates for
that, and the network has set an interval. -/
def Periodic (s : Station) : Prop := s.updatesPeriodically = true ∧ s.periodicInterval ≠ 0

/-- The next periodic update will come, or another location update before it. -/
def PeriodicGoesOn (s : Station) : Prop :=
  s.Periodic → s.Attends .t3212 ∨ s.update.wanted = true

/-- All that periodic updates depend on. -/
def periodicView (s : Station) : StateMachine × Bool × List Event × Bool × UInt32 :=
  (s.machine, s.timers.isRunning .t3212, s.queues.events, s.update.wanted, s.periodicInterval)

theorem periodicGoesOn_of_view {s t : Station} (h : t.periodicView = s.periodicView) :
    t.PeriodicGoesOn ↔ s.PeriodicGoesOn := by
  simp only [periodicView, Prod.mk.injEq] at h
  obtain ⟨hmachine, hrunning, hevents, hwanted, hinterval⟩ := h
  simp only [PeriodicGoesOn, Periodic, updatesPeriodically, Attends, hmachine, hrunning, hevents,
    hwanted, hinterval]

/-- Outside the idle state there are no periodic updates. -/
theorem idle_of_periodic {s : Station} (h : s.Periodic) :
    s.machine.state = .idle ∧
      (s.machine.lastSubstate = .normalService ∨ s.machine.lastSubstate = .attemptingToUpdate) := by
  have hsubstate := h.1
  simp only [updatesPeriodically, StateMachine.substate, Bool.or_eq_true] at hsubstate
  split at hsubstate
  · next hidle => exact ⟨hidle, by simpa using hsubstate⟩
  · simp at hsubstate

theorem periodicGoesOn_of_busy {s : Station} (h : s.machine.state ≠ .idle) : s.PeriodicGoesOn :=
  fun hperiodic => absurd (idle_of_periodic hperiodic).1 h

/-! ## Local updates -/

@[simp] theorem periodicView_sendMessage (s : Station) (m : Message) :
    (s.sendMessage m).station.periodicView = s.periodicView := by
  unfold sendMessage
  split <;> rfl

theorem periodicView_stopTimer (s : Station) {name : TimerName} (h : .t3212 ≠ name) :
    (s.stopTimer name).periodicView = s.periodicView := by
  simp [periodicView, stopTimer, s.timers.isRunning_stop_of_ne h]

theorem periodicView_stopPeriodicTimer (s : Station) :
    (s.stopTimer .t3212).periodicView =
      (s.machine, false, s.queues.events, s.update.wanted, s.periodicInterval) := by
  simp [periodicView, stopTimer, TimerSet.isRunning, TimerSet.stop, TimerSet.get_set, Timer.stop,
    Timer.isRunning]

theorem periodicGoesOn_armPeriodicTimer (s : Station) : s.armPeriodicTimer.PeriodicGoesOn := by
  unfold armPeriodicTimer
  split
  · intro hperiodic
    have hinterval : 1000 * s.periodicInterval.toNat ≠ 0 := by
      have hset : s.periodicInterval ≠ 0 := hperiodic.2
      have hpositive : s.periodicInterval.toNat ≠ 0 := fun h => hset (UInt32.toNat_inj.mp h)
      omega
    exact .inl (.inl (s.timers.isRunning_start_periodic s.now hinterval))
  · next hkept =>
    intro hperiodic
    refine .inl (.inl ?_)
    simpa [hperiodic.1] using hkept

/-- Entering a state starts T3212 where it is needed. -/
theorem periodicGoesOn_enter (s : Station) (state : MainState) (substate : Option IdleSubstate) :
    (s.enter state substate).PeriodicGoesOn :=
  periodicGoesOn_armPeriodicTimer _

theorem periodicGoesOn_returnIdle (s : Station) : s.returnIdle.PeriodicGoesOn :=
  periodicGoesOn_enter _ _ _

theorem periodicGoesOn_settle (s : Station) : s.settle.PeriodicGoesOn := by
  unfold settle
  split
  · exact periodicGoesOn_enter _ _ _
  · exact periodicGoesOn_enter _ _ _

theorem periodicGoesOn_failUpdate (s : Station) : s.failUpdate.station.PeriodicGoesOn :=
  periodicGoesOn_returnIdle _

theorem periodicGoesOn_withdrawRequest (s : Station) : s.withdrawRequest.station.PeriodicGoesOn :=
  (periodicGoesOn_of_view (periodicView_sendMessage _ _)).mpr (periodicGoesOn_enter _ _ _)

/-! ## Procedures that keep periodic updates going -/

/-- A step that enters a state, or leaves all alone that periodic updates depend on. -/
inductive Arms (s t : Station) : Prop
  | armed (h : t.PeriodicGoesOn)
  | same (h : t.periodicView = s.periodicView)

theorem Arms.goesOn {s t : Station} (h : Arms s t) (hs : s.PeriodicGoesOn) :
    t.PeriodicGoesOn := by
  cases h with
  | armed ht => exact ht
  | same hview => exact (periodicGoesOn_of_view hview).mpr hs

theorem arms_requestService (s : Station) (p : CmPrimitive) (route : Route)
    {next : Station → Station} (hnext : ∀ u, (next u).PeriodicGoesOn) :
    Arms s (s.requestService p route next).station := by
  simp only [requestService]
  split
  · exact .same rfl
  · split
    · exact .same rfl
    · split
      · exact .same rfl
      · exact .same rfl
      · exact .armed (hnext _)

/-- Primitives from above keep periodic updates going. -/
theorem arms_cmProcedure (s : Station) (p : CmPrimitive) (procedure : CmProcedure) :
    Arms s (procedure.run s p).station := by
  -- A request may leave the idle state and a release may end the last call. Entering a state arms
  -- T3212 where it is due; whatever enters none leaves the timers alone.
  cases procedure with
  | requestFromIdle => exact s.arms_requestService p _ fun u => u.periodicGoesOn_enter _ _
  | requestFirst => exact s.arms_requestService p _ fun u => periodicGoesOn_enter _ _ _
  | requestAdditional => exact s.arms_requestService p _ fun u => periodicGoesOn_enter _ _ _
  | refuseBusy => exact .same rfl
  | forwardData =>
    simp only [CmProcedure.run, forwardData]
    split <;> exact .same rfl
  | releaseActive => exact .armed (periodicGoesOn_settle _)
  | releaseWaiting => exact .same rfl
  | releaseRequested =>
    simp only [CmProcedure.run, releaseRequested]
    split
    · exact .armed (periodicGoesOn_withdrawRequest _)
    · exact .same rfl

/-- Primitives from below that bring no message keep periodic updates going. -/
theorem arms_rrProcedure (s : Station) (p : RrPrimitive) {procedure : RrProcedure}
    (hother : procedure ≠ .receiveMessage) : Arms s (procedure.run s p).station := by
  cases procedure with
  | receiveMessage => exact absurd rfl hother
  | acceptLink => exact .armed (periodicGoesOn_enter _ _ _)
  | detachSent => exact .armed (periodicGoesOn_enter _ _ _)
  | endDetach => exact .armed (periodicGoesOn_returnIdle _)
  | beginUpdate => exact .armed (periodicGoesOn_enter _ _ _)
  | loseUpdateLink =>
    simp only [RrProcedure.run, loseUpdateLink]
    split
    · exact .armed (periodicGoesOn_returnIdle _)
    · exact .armed (periodicGoesOn_failUpdate _)
  | completeReject =>
    simp only [RrProcedure.run, completeReject]
    split
    · exact .armed (periodicGoesOn_returnIdle _)
    · exact .armed (periodicGoesOn_failUpdate _)
  | beginService =>
    simp only [RrProcedure.run, beginService]
    split
    · exact .armed (periodicGoesOn_withdrawRequest _)
    · exact .armed (periodicGoesOn_enter _ _ _)
  -- The pending connection is confirmed before the state is entered. T3212 does not see it, so the
  -- order does not matter.
  | confirmService =>
    have hentered := (s.stopTimer .t3230).periodicGoesOn_enter .connectionActive none
    refine .armed ((periodicGoesOn_of_view ?_).mpr hentered)
    simp only [RrProcedure.run, confirmService, station_done]
    unfold confirmPending
    split <;> rfl
  | indicateSync => exact .same (s.periodicView_stopTimer (by decide))
  | loseConnections => exact .armed (periodicGoesOn_returnIdle _)
  | loseLink => exact .armed (periodicGoesOn_returnIdle _)

theorem arms_detachOverLink (s : Station) : Arms s s.detachOverLink.station := by
  simp only [detachOverLink]
  split
  · unfold Outcome.andThen
    split
    · exact .armed (periodicGoesOn_enter _ _ _)
    · refine .same ((periodicView_sendMessage _ _).trans ?_)
      exact s.periodicView_stopTimer (by decide)
  · exact .armed (periodicGoesOn_enter _ _ _)

theorem arms_startDetach (s : Station) : Arms s s.startDetach.station := by
  unfold startDetach
  split
  · split
    · exact .same rfl
    · have hentered := s.periodicGoesOn_enter .waitForRadioDetach none
      exact .armed ((periodicGoesOn_of_view rfl).mpr hentered)
  · exact .armed (periodicGoesOn_returnIdle _)

/-! ## Location updates -/

/-- A wanted location update that is tried keeps periodic updates going unless the cell does not
allow it. -/
theorem periodicGoesOn_tryUpdate_iff {s : Station} (hwanted : s.update.wanted = true) :
    s.tryUpdate.station.PeriodicGoesOn ↔
      (s.updateAllowed = false → s.Periodic → s.Attends .t3212) := by
  unfold tryUpdate requestUpdate
  rw [if_neg (by simp [hwanted])]
  -- Where no request may be made, the wish is dropped: then T3212 has to be attended already.
  split
  · next hallowed =>
    refine iff_of_true ?_ (by simp [hallowed])
    split
    · exact fun _ => .inr hwanted
    · have hentered := s.periodicGoesOn_enter .waitForRadioLocationUpdate none
      exact (periodicGoesOn_of_view rfl).mpr hentered
  · next hallowed =>
    have hnot : s.updateAllowed = false := by simpa using hallowed
    rw [forall_prop_of_true hnot]
    show (_ → _ ∨ false = true) ↔ _
    simp only [Bool.false_eq_true, or_false]
    rfl

theorem periodicGoesOn_startUpdate_iff {s : Station} {kind : UpdateKind} :
    (s.startUpdate kind).station.PeriodicGoesOn ↔
      (s.update.wanted = false → s.updateAllowed = false → s.Periodic → s.Attends .t3212) := by
  simp only [startUpdate]
  split
  · next hwanted => exact iff_of_true (fun _ => .inr hwanted) (by simp [hwanted])
  · next hwanted =>
    have hnot : s.update.wanted = false := by simpa using hwanted
    rw [forall_prop_of_true hnot, periodicGoesOn_tryUpdate_iff (by rfl)]
    rfl

theorem periodicGoesOn_startUpdate {s : Station} (h : s.PeriodicGoesOn) (kind : UpdateKind) :
    (s.startUpdate kind).station.PeriodicGoesOn := by
  rw [periodicGoesOn_startUpdate_iff]
  intro hwanted _ hperiodic
  exact (h hperiodic).resolve_right (by simp [hwanted])

theorem periodicGoesOn_selectCell (s : Station) : s.selectCell.station.PeriodicGoesOn := by
  have hreturned := s.periodicGoesOn_returnIdle
  rcases s.selectCell_cases with hcase | hcase <;> rw [hcase]
  · exact periodicGoesOn_startUpdate hreturned _
  · exact hreturned

/-! ## System information -/

/-- A new interval starts T3212 if it is not running. -/
theorem isRunning_changePeriodicInterval (s : Station) (seconds : UInt32) (chance : Nat) :
    (s.changePeriodicInterval seconds chance).timers.isRunning .t3212 = true := by
  unfold changePeriodicInterval
  split
  · next rest hrest =>
    have hrunning : s.timers.isRunning .t3212 = true := by
      have hdeadline : (s.timers.get .t3212).deadline.isSome = true := by
        simpa [Timer.remaining] using congrArg Option.isSome hrest
      exact hdeadline
    simpa using hrunning
  · exact s.timers.isRunning_start_periodic s.now (by omega)

theorem periodicGoesOn_applySystemInformation {s : Station} (h : s.PeriodicGoesOn)
    (info : SystemInformation) (chance : Nat) :
    (s.applySystemInformation info chance).PeriodicGoesOn := by
  simp only [applySystemInformation]
  split
  · split
    · exact fun _ => .inl (.inl (isRunning_changePeriodicInterval _ _ _))
    · exact (periodicGoesOn_of_view (s := s) rfl).mpr h
  · split
    · exact fun hperiodic => absurd rfl hperiodic.2
    · exact (periodicGoesOn_of_view (s := s) rfl).mpr h

end Station

end MobileStation
