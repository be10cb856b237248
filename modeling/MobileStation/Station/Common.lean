import MobileStation.Station.LocationUpdate

/-!
# Common procedures

What the network may start at any time: reallocation of the temporary identity, authentication,
identification, the abort of all connections, and information about itself.
-/

namespace MobileStation.Station

/-! ## Temporary identity -/

/-- Stores a location area. -/
def storeLai (s : Station) (lai : Lai) : Station :=
  { s with subscriber := { s.subscriber with lai := lai, laiValid := true } }

/-- The network assigns a temporary identity, or takes it away by naming the permanent one. Any
other identity is reported as incorrect. -/
def receiveTmsiReallocation (s : Station) (body : Octets) : Outcome :=
  match TmsiReallocationCommand.decode body with
  | .error (.element (.invalidIdentityType _)) => s.sendStatus .semanticallyIncorrect
  | .error e => .failed s (.codec e)
  | .ok ⟨lai, .tmsi tmsi⟩ =>
    ((s.storeLai lai).assignTmsi tmsi).sendMessage .tmsiReallocationComplete
  | .ok ⟨lai, .imsi _⟩ => (s.storeLai lai).removeTmsi.sendMessage .tmsiReallocationComplete
  | .ok _ => s.sendStatus .semanticallyIncorrect

/-! ## Authentication -/

/-- The network asks for authentication: the SIM is asked to answer. -/
def receiveAuthenticationRequest (s : Station) (body : Octets) : Outcome :=
  match AuthenticationRequest.decode body with
  | .error e => .failed s (.codec e)
  | .ok request =>
    if s.subscriber.simValid then
      .done ({ s with subscriber.keySequence := request.keySequence }.send
        (.sim ⟨request.keySequence, request.rand⟩))
    else s.sendStatus .messageTypeNotCompatible

/-- The SIM has answered. -/
def answerAuthentication (s : Station) (sres : Field 4) : Outcome :=
  s.sendMessage (.authenticationResponse sres)

/-- The network refuses the subscriber: the SIM is unusable. A detach cannot be completed any
more. -/
def receiveAuthenticationReject (s : Station) : Outcome :=
  let s := s.stopTimer .t3212
  let s := { s with subscriber.simValid := false }.deregister .roamingNotAllowed
  if s.machine.state = .imsiDetachInitiated then
    .done (s.sendRr (.abort RrCause.normalAbort)).returnIdle
  else .done s

/-! ## Identification -/

/-- The identity of the requested type. -/
def identityOf (s : Subscriber) : Option IdentityType → MobileIdentity
  | some .imsi => .imsi s.imsi
  | some .imei => .imei s.imei
  | some .imeisv => .imeisv s.imeisv
  | some .tmsi => .tmsi s.tmsi
  | _ => .none

/-- The network asks for an identity. -/
def receiveIdentityRequest (s : Station) (body : Octets) : Outcome :=
  match IdentityRequest.decode body with
  | .error e => .failed s (.codec e)
  | .ok request =>
    let requested := request.requested?
    if !s.subscriber.simValid then s.sendStatus .messageTypeNotCompatible
    else if requested = some .tmsi ∧ !s.subscriber.tmsiValid then
      s.sendStatus .messageTypeNotCompatible
    else s.sendMessage (.identityResponse (identityOf s.subscriber requested))

/-! ## Abort -/

/-- The network aborts all connections. -/
def receiveAbort (s : Station) (body : Octets) : Outcome :=
  match Message.decodeCause body with
  | .error e => .failed s (.codec e)
  | .ok cause =>
    if s.connections.isEmpty then s.sendStatus .messageTypeNotCompatible
    else
      let s := (s.stopTimer .t3230).releaseConnections .all CmCause.normalRelease false
      if cause = .illegalMe then
        .done ({ s with subscriber.simValid := false }.deregister .roamingNotAllowed).returnIdle
      else .done s

/-! ## Information -/

/-- The network tells its names. A name that is missing leaves the old one. -/
def receiveInformation (s : Station) (body : Octets) : Outcome :=
  match MmInformation.decode body with
  | .error e => .failed s (.codec e)
  | .ok info =>
    .done { s with names :=
      { full := (info.fullName.map NetworkName.text).or s.names.full
        short := (info.shortName.map NetworkName.text).or s.names.short } }

/-- The network reports that a message was not acted upon. Nothing is done about it. -/
def receiveStatus (s : Station) (body : Octets) : Outcome :=
  match Message.decodeCause body with
  | .error e => .failed s (.codec e)
  | .ok _ => .done s

end MobileStation.Station
