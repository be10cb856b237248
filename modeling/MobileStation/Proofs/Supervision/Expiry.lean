import MobileStation.Proofs.Rules
import MobileStation.Station.Handle

/-!
# Expiries that come too late

A timer that has run out is not called back: its event waits in the queue even if the timer is
stopped or started again, so an expiry can be handled in any state. It has an effect only where the
station awaits it, that is in the states that the timer is for, and for the timers of location
updates only while such an update is wanted (T3211, T3213) or not yet wanted (T3212).

Main statements: `eventProcedure?_timeout` (what the rules select for an expiry) and
`handle_timeout` (an expiry that is not awaited leaves the station as it is).
-/

namespace MobileStation

/-! ## What the timers are for -/

/-- The states in which the expiry of a timer has a meaning. -/
def TimerName.scope : TimerName → Scope
  | t3210 => .within [.locationUpdatingInitiated]
  | t3211 | t3213 =>
    .idleIn [.normalService, .attemptingToUpdate, .locationUpdateNeeded, .plmnSearchNormalService]
  | t3212 => .idleIn [.normalService, .attemptingToUpdate]
  | t3220 => .within [.imsiDetachInitiated]
  | t3230 => .within [.waitForOutgoingConnection, .waitForAdditionalConnection]
  | t3240 => .within [.waitForNetworkCommand, .locationUpdatingReject]

/-- The expiry of the timer fits the wish for a location update: a retry is for one that is wanted,
and a periodic update is started only where none is. -/
def TimerName.fitsWish (wanted : Bool) : TimerName → Bool
  | t3211 | t3213 => wanted
  | t3212 => !wanted
  | _ => true

/-- What is done at the expiry of a timer. -/
def TimerName.procedure : TimerName → EventProcedure
  | t3210 => .timeoutUpdate
  | t3211 | t3213 => .tryUpdate
  | t3212 => .periodicUpdate
  | t3220 => .endDetach
  | t3230 => .timeoutService
  | t3240 => .abortLink

/-- The station awaits the expiry of the timer. -/
def Station.awaits (s : Station) (timer : TimerName) : Bool :=
  timer.scope.covers s.machine && timer.fitsWish s.update.wanted

/-! ## What the rules select -/

/-- Outside the states that a timer is for, the rules take up its expiry only to do nothing, other
than that of T3210, which has to find out by itself. -/
theorem eventProcedure?_timeout (m : StateMachine) (timer : TimerName) :
    m.eventProcedure? (.timeout timer) =
      if timer.scope.covers m then some timer.procedure
      else if timer = .t3210 ∧ m.state ≠ .idle then some .timeoutUpdate
      else if timer = .t3212 ∧ (m.state = .idle → m.lastSubstate ∈
        [.plmnSearch, .noCellAvailable, .plmnSearchNormalService]) then some .nothing
      else none := by
  obtain ⟨state, last, departure⟩ := m
  by_cases hidle : state = .idle
  · -- In the idle state the last substate decides.
    subst hidle
    cases timer <;> cases last <;> rfl
  · cases timer <;> cases state <;> first | rfl | exact absurd rfl hidle

/-! ## Expiries that are not awaited -/

namespace Station

theorem tryUpdate_of_unwanted {s : Station} (h : s.update.wanted = false) :
    s.tryUpdate = .done s := by
  simp [tryUpdate, h]

theorem startUpdate_of_wanted {s : Station} (h : s.update.wanted = true) (kind : UpdateKind) :
    s.startUpdate kind = .done s :=
  if_pos h

theorem timeoutUpdate_of_elsewhere {s : Station}
    (h : s.machine.state ≠ .locationUpdatingInitiated) : s.timeoutUpdate = .done s :=
  if_neg fun hboth => h hboth.2

/-- A procedure at the expiry of a timer does nothing where the wish for a location update does not
fit the timer. -/
theorem procedure_of_not_fitsWish {s : Station} {timer : TimerName}
    (h : timer.fitsWish s.update.wanted = false) :
    timer.procedure.run s (.timeout timer) = .done s := by
  cases timer with
  | t3211 => exact tryUpdate_of_unwanted h
  | t3213 => exact tryUpdate_of_unwanted h
  | t3212 => exact startUpdate_of_wanted (by simpa [TimerName.fitsWish] using h) .periodic
  | t3210 | t3220 | t3230 | t3240 => cases h

/-- In a state that a timer is not for, its expiry does nothing. -/
theorem handleEvent_of_elsewhere {s : Station} {timer : TimerName}
    (h : ¬ timer.scope.covers s.machine = true) : s.handleEvent (.timeout timer) = .done s := by
  rw [handleEvent, eventProcedure?_timeout, if_neg h]
  by_cases hlate : timer = .t3210 ∧ s.machine.state ≠ .idle
  · -- The rules select the procedure of T3210, and the procedure looks at the state.
    rw [if_pos hlate]
    refine timeoutUpdate_of_elsewhere fun hstate => h ?_
    simp [hlate.1, TimerName.scope, Scope.covers, hstate]
  · rw [if_neg hlate]
    split
    · next procedure hselected =>
      split at hselected
      · cases hselected
        rfl
      · cases hselected
    · rfl

/-- Every expiry, in every state: one that is awaited is acted upon by the procedure of its timer,
and one that is not leaves the whole station as it is, without an error. -/
theorem handle_timeout (s : Station) (timer : TimerName) :
    s.handle (.event (.timeout timer)) =
      if s.awaits timer then timer.procedure.run s (.timeout timer) else .done s := by
  show s.handleEvent (.timeout timer) = _
  by_cases hscope : timer.scope.covers s.machine = true
  · rw [handleEvent, eventProcedure?_timeout, if_pos hscope, awaits, hscope, Bool.true_and]
    by_cases hwish : timer.fitsWish s.update.wanted = true
    · rw [if_pos hwish]
    · rw [if_neg hwish]
      exact procedure_of_not_fitsWish (Bool.not_eq_true _ ▸ hwish)
  · have hstale : ¬ s.awaits timer = true := by
      rw [awaits, Bool.and_eq_true]
      exact fun hboth => hscope hboth.1
    rw [if_neg hstale, handleEvent_of_elsewhere hscope]

end Station

end MobileStation
