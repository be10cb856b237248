import MobileStation.Station.Basic

/-!
# Changes of state

Every change of the main state goes through `Station.enter`, which also hands a delayed detach back
and keeps the periodic timer running while the station is registered. `Station.returnIdle` chooses
the substate when a procedure ends.
-/

namespace MobileStation.Station

/-! ## Entering a state -/

/-- Puts a delayed detach back into the event queue. -/
def resumeDetach (s : Station) : Station :=
  if s.detachDelayed then { s with detachDelayed := false }.queueEvent .imsiDetach else s

/-- The substate is one in which the station updates its location periodically. -/
def updatesPeriodically (s : Station) : Bool :=
  s.machine.substate = some .normalService || s.machine.substate = some .attemptingToUpdate

/-- Starts the periodic timer if the substate wants it and it is not running. -/
def armPeriodicTimer (s : Station) : Station :=
  if s.updatesPeriodically && !s.timers.isRunning .t3212 then
    s.startTimer .t3212 s.periodicInterval.toNat
  else s

/-- Moves to a main state, and in the idle state to a substate. -/
def enter (s : Station) (state : MainState) (substate : Option IdleSubstate) : Station :=
  { s with machine := s.machine.enter state substate }.resumeDetach.armPeriodicTimer

/-! ## Returning to the idle state -/

/-- The substate in which the station becomes idle. -/
def idleSubstate (s : Station) : IdleSubstate :=
  if !s.subscriber.simValid then .noImsi
  else if !s.cell.campedAny then .plmnSearch
  -- After a reject of roaming another network has to be found first.
  else if s.machine.state = .locationUpdatingReject ∧ s.update.rejectCause = .roamingNotAllowed then
    .plmnSearch
  else if !s.cell.campedNormally then .limitedService
  else if !s.subscriber.isRegisteredIn s.cell.lai then .locationUpdateNeeded
  else if s.subscriber.isUpdated then .normalService
  else .attemptingToUpdate

/-- Gives up any location update. -/
def abandonUpdate (s : Station) : Station :=
  { s with update.wanted := false }.stopTimer .t3212

/-- Returns to the idle state. Without a usable SIM there is no location update any more. -/
def returnIdle (s : Station) : Station :=
  (if s.subscriber.simValid then s else s.abandonUpdate).enter .idle (some s.idleSubstate)

end MobileStation.Station
