import MobileStation.Station.Idle

/-!
# Location updating

Normal and periodic location updates and the attach of the subscriber, with the retries after a
failure and the periodic timer that system information sets.
-/

namespace MobileStation.Station

/-! ## Start -/

/-- The station is updated in the area of the cell, but the network has not been told that it is
switched on. -/
def attachRequired (s : Station) : Bool :=
  s.subscriber.isUpdated && s.cell.campedNormally && s.subscriber.lai = s.cell.lai &&
    !s.subscriber.attached && s.subscriber.attachAllowed

/-- The cell allows a location update: a suitable one, whose network and area are not forbidden and
that is not barred for the subscriber. -/
def updateAllowed (s : Station) : Bool :=
  s.cell.campedNormally && !s.subscriber.isForbidden s.cell.lai.plmn &&
    !s.cell.isForbidden s.cell.lai &&
    !s.cell.accessBarred s.subscriber.accessClasses s.subscriber.barringOverride

/-- The request for a location update, with the stored area, or that of the cell if none is
stored. -/
def updateRequest (s : Station) : LocationUpdatingRequest where
  kind := s.update.kind
  followOn := false
  keySequence := s.subscriber.keySequence
  lai := if s.subscriber.laiValid then s.subscriber.lai else s.cell.lai
  classmark := s.config.classmark1
  identity := s.subscriber.identity

/-- Asks for a radio link that carries the request. -/
def requestUpdate (s : Station) : Outcome :=
  match (Message.locationUpdatingRequest s.updateRequest).encode with
  | .error e => .failed s (.codec e)
  | .ok data =>
    .done ((s.enter .waitForRadioLocationUpdate none).sendRr (.establish .locationUpdate data))

/-- Makes the wanted location update, or gives it up where the cell does not allow it. -/
def tryUpdate (s : Station) : Outcome :=
  if !s.update.wanted then .done s
  else if s.updateAllowed then s.requestUpdate
  else .done { s with update.wanted := false }

/-- Starts a location update, unless one is wanted already. -/
def startUpdate (s : Station) (kind : UpdateKind) : Outcome :=
  if s.update.wanted then .done s
  else
    let update :=
      { s.update with wanted := true, kind := kind, attempts := 0, accessFailed := false }
    { s with update := update }.tryUpdate

/-- Starts a normal location update, or an attach if that is all that is missing. -/
def normalUpdate (s : Station) : Outcome :=
  s.startUpdate (if s.attachRequired then .imsiAttach else .normal)

/-- Starts a periodic location update. -/
def periodicUpdate (s : Station) : Outcome := s.startUpdate .periodic

/-- A cell was found while searching: chooses the substate anew, and registers where that is
needed. -/
def selectCell (s : Station) : Outcome :=
  let s := s.returnIdle
  match s.machine.substate with
  | some .locationUpdateNeeded => s.normalUpdate
  | some .attemptingToUpdate => s.normalUpdate
  | some .normalService => if s.attachRequired then s.normalUpdate else .done s
  | _ => .done s

/-- The radio link for the request is up. -/
def beginUpdate (s : Station) : Outcome :=
  .done ((s.startTimer .t3210 s.config.timers.t3210.toNat).enter .locationUpdatingInitiated none)

/-! ## Failure -/

/-- Counts a failed attempt. -/
def countAttempt (s : Station) : Station :=
  if s.update.attempts < LocationUpdate.maxAttempts then
    { s with update.attempts := s.update.attempts + 1 }
  else s

/-- The station is still registered in the area of the cell. -/
def stillRegistered (s : Station) : Bool :=
  s.subscriber.isUpdated && s.cell.campedNormally && s.subscriber.isRegisteredIn s.cell.lai

/-- Tries again after a delay, unless there were too many attempts. -/
def retryLater (s : Station) : Station :=
  if s.update.attempts < LocationUpdate.maxAttempts then
    s.startTimer .t3211 s.config.timers.t3211.toNat
  else { s with update.wanted := false }

/-- Forgets the registration with the given status. -/
def deregister (s : Station) (status : UpdateStatus) : Station :=
  { s with subscriber := { s.subscriber.invalidate with status := status } }

/-- A location update failed. A station that is still registered keeps its registration until the
last attempt. -/
def failUpdate (s : Station) : Outcome :=
  let s := (s.stopTimer .t3210).countAttempt
  let keeps := s.stillRegistered && s.update.attempts < LocationUpdate.maxAttempts
  let s := if keeps then s else s.deregister .notUpdated
  .done s.retryLater.returnIdle

/-- The radio link was lost during a location update. The first random access failure only delays
the update. -/
def loseUpdateLink (s : Station) (p : RrPrimitive) : Outcome :=
  if p.cause = RrCause.randomAccessFailure ∧ !s.update.accessFailed then
    let s := { s with update.accessFailed := true }
    .done (s.startTimer .t3213 s.config.timers.t3213.toNat).returnIdle
  else
    { s with update.accessFailed := false }.failUpdate

/-- The network did not answer the request. An expiry that comes too late has no effect. -/
def timeoutUpdate (s : Station) : Outcome :=
  if s.update.wanted ∧ s.machine.state = .locationUpdatingInitiated then
    (s.sendRr (.abort RrCause.timerAbort)).failUpdate
  else .done s

/-! ## Answers of the network -/

/-- Takes over the area of an accept: the station is updated there. -/
def registerIn (s : Station) (lai : Lai) : Station :=
  { s with
    subscriber :=
      { s.subscriber with
        lai := lai
        laiValid := true
        attached := s.subscriber.attached || s.update.kind = .imsiAttach
        status := .updated }
    cell := s.cell.allow lai
    update := { s.update with wanted := false, accessFailed := false, attempts := 0 } }

/-- Takes over a temporary identity. -/
def assignTmsi (s : Station) (tmsi : UInt32) : Station :=
  { s with subscriber := { s.subscriber with tmsi := tmsi, tmsiValid := true } }

/-- Gives up the temporary identity. -/
def removeTmsi (s : Station) : Station := { s with subscriber.tmsiValid := false }

/-- Acts on the identity in an accept: a temporary identity is taken over, the permanent one takes
it away, and both are acknowledged. -/
def applyAcceptedIdentity (s : Station) : Option MobileIdentity → Outcome
  | some (.tmsi tmsi) => (s.assignTmsi tmsi).sendMessage .tmsiReallocationComplete
  | some (.imsi _) => s.removeTmsi.sendMessage .tmsiReallocationComplete
  | _ => .done s

/-- Waits for what the network does next with the radio link. -/
def awaitNetwork (s : Station) : Station :=
  s.startReleaseTimer.enter .waitForNetworkCommand none

/-- The network accepts the location update. -/
def receiveUpdateAccept (s : Station) (body : Octets) : Outcome :=
  match LocationUpdatingAccept.decode body with
  | .error e => .failed s (.codec e)
  | .ok accept =>
    let s := ((s.stopTimer .t3212).stopTimer .t3210).registerIn accept.lai
    (s.applyAcceptedIdentity accept.identity).andThen fun s =>
      .done ((s.send (.plmnSearch .registered)).send (.registration .registerConfirm)).awaitNetwork

/-- The network rejects the location update. The cause is acted upon when the radio link is
released. -/
def receiveUpdateReject (s : Station) (body : Octets) : Outcome :=
  match Message.decodeCause body with
  | .error e => .failed s (.codec e)
  | .ok cause =>
    let s := (s.stopTimer .t3212).stopTimer .t3210
    let s := { s with update := { s.update with accessFailed := false, rejectCause := cause } }
    .done (s.startReleaseTimer.enter .locationUpdatingReject none)

/-- The event that tells the search for networks of a reject. -/
def rejectEvent (cause : RejectCause) : PlmnSearchEvent :=
  if cause = .roamingNotAllowed then .roamingNotAllowed
  else if cause.isIdentityReject then .invalidSim
  else .registrationFailed cause

/-- The cause ends the registration for good: it is about the identity, the network, the area or
roaming. -/
def isFinalReject (cause : RejectCause) : Bool :=
  cause.isIdentityReject || cause = .plmnNotAllowed || cause = .locationAreaNotAllowed ||
    cause = .roamingNotAllowed

/-- A reject that is about the identity makes the SIM unusable. -/
def rejectIdentity (s : Station) (cause : RejectCause) : Station :=
  if cause.isIdentityReject then
    { s with subscriber.simValid := false, update.attempts := 0 }
  else s

/-- A reject that is about the network or the area of the cell forbids it. -/
def forbidRejected (s : Station) (cause : RejectCause) : Station :=
  if cause = .plmnNotAllowed then { s with subscriber := s.subscriber.forbid s.cell.lai.plmn }
  else if cause = .locationAreaNotAllowed then { s with cell := s.cell.forbid s.cell.lai }
  else s

/-- The radio link was released after a reject: acts on the cause. Any cause that is not final
counts as a failed attempt. -/
def completeReject (s : Station) : Outcome :=
  let cause := s.update.rejectCause
  if isFinalReject cause then
    let s := ((s.rejectIdentity cause).deregister .roamingNotAllowed).send
      (.plmnSearch (rejectEvent cause))
    .done { s.forbidRejected cause with update.wanted := false }.returnIdle
  else
    (s.send (.plmnSearch (rejectEvent cause))).failUpdate

/-! ## System information -/

/-- Takes over a new interval for the periodic timer. A running timer keeps what is left of its run,
modulo the new interval; a stopped one is started at a random point of it. -/
def changePeriodicInterval (s : Station) (seconds : UInt32) (chance : Nat) : Station :=
  let s := match s.timers.get .t3212 |>.remaining s.now with
    | some rest =>
      { s with timers := s.timers.setRemaining .t3212 s.now (1000 * (rest / 1000 % seconds.toNat)) }
    | none => s.startTimer .t3212 (1 + chance % seconds.toNat)
  { s with periodicInterval := seconds }

/-- Applies system information to the cell, the subscriber and the periodic timer. -/
def applySystemInformation (s : Station) (info : SystemInformation) (chance : Nat) : Station :=
  let s := { s with
    cell := s.cell.applySystemInformation info
    subscriber.attachAllowed := info.attachAllowed }
  if info.t3212 ≠ 0 then
    if info.t3212 ≠ s.periodicInterval then s.changePeriodicInterval info.t3212 chance else s
  else if info.si3 then { s.stopTimer .t3212 with periodicInterval := 0 }
  else s

end MobileStation.Station
