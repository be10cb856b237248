import MobileStation.Station.LocationUpdate

/-!
# Connections of the protocols above

A protocol of connection management asks for a connection; the station asks the network for the
service, on a new radio link or on one that is up, and tells the protocol of the answer, of data and
of the end of the connection.
-/

namespace MobileStation.Station

/-! ## Request -/

/-- Answers a primitive with a release indication. -/
def refuse (s : Station) (p : CmPrimitive) (cause : UInt8) : Station :=
  s.sendCm
    { type := .releaseIndication
      protocol := p.protocol
      reference := p.reference
      transaction := p.transaction
      cause := cause }

/-- Refuses a request because another one is under way. -/
def refuseBusy (s : Station) (p : CmPrimitive) : Outcome := .done (s.refuse p CmCause.busy)

/-- The request is for an emergency call. -/
def isEmergency (p : CmPrimitive) : Bool := p.protocol = .cc && p.emergency

/-- The station offers all services: it is updated and, if idle, in a substate of normal service. -/
def offersService (s : Station) : Bool :=
  s.subscriber.isUpdated &&
    match s.machine.substate with
    | some substate => substate = .normalService || substate = .plmnSearchNormalService
    | none => true

/-- Why a request is refused without asking the network. -/
def refusal? (s : Station) (p : CmPrimitive) : Option UInt8 :=
  if s.connections.pending?.isSome then some CmCause.busy
  else if isEmergency p || s.offersService then none
  else some CmCause.noService

/-- The service that a request is for. -/
def serviceOf (p : CmPrimitive) : ServiceType :=
  match p.protocol with
  | .cc => if isEmergency p then .emergencyCall else .mobileOriginatingCall
  | .ss => .supplementaryService
  | .sms => .shortMessage

/-- Why the radio link is wanted for a request. -/
def causeOf (p : CmPrimitive) : EstablishmentCause :=
  match p.protocol with
  | .cc => if isEmergency p then .emergency else .originatingCall
  | .ss => .otherSignalling
  | .sms => .otherSignalling

/-- The message that asks the network. Without a usable SIM the equipment identifies itself. -/
def serviceRequest (s : Station) (p : CmPrimitive) : Message :=
  .cmServiceRequest
    { service := serviceOf p
      keySequence := s.subscriber.keySequence
      classmark := s.config.classmark2
      identity :=
        if s.subscriber.simValid then s.subscriber.identity else .imei s.subscriber.imei }

/-- How a service request reaches the network. -/
inductive Route where
  /-- With the request for a radio link. -/
  | newLink
  /-- Over the radio link that is up. -/
  | openLink
  deriving DecidableEq

/-- The primitive that carries a service request. -/
def Route.primitive (r : Route) (cause : EstablishmentCause) (data : Octets) : RrPrimitive :=
  match r with
  | newLink => .establish cause data
  | openLink => .send data

/-- The pending connection of a request. -/
def requestedConnection (p : CmPrimitive) : Connection :=
  { protocol := p.protocol
    transaction := p.transaction
    reference := p.reference
    state := .pending }

/-- Asks the network for a service and adds a pending connection, then goes on with `next`. A
request that is refused, or that breaks off, adds no connection. -/
def requestService (s : Station) (p : CmPrimitive) (route : Route) (next : Station → Station) :
    Outcome :=
  -- A request that is refused clears the attempts too.
  let s := { s with update.attempts := 0 }
  match s.refusal? p with
  | some cause => .done (s.refuse p cause)
  | none =>
    match (s.serviceRequest p).encode with
    | .error e => .failed s (.codec e)
    | .ok data =>
      match s.connections.add (requestedConnection p) with
      | .error (.duplicateTransaction _ _) => s.refuseBusy p
      | .error e => .failed s (.connection e)
      | .ok table =>
        .done (next ({ s with connections := table }.sendRr (route.primitive (causeOf p) data)))

/-- Supervises the answer to a service request in the given state. -/
def awaitService (s : Station) (state : MainState) : Station :=
  (s.startTimer .t3230 s.config.timers.t3230.toNat).enter state none

/-- A request in the idle state: a radio link is needed first. -/
def requestFromIdle (s : Station) (p : CmPrimitive) : Outcome :=
  s.requestService p .newLink fun s => s.enter .waitForRadioConnection none

/-- The first request over a radio link that is up. -/
def requestFirst (s : Station) (p : CmPrimitive) : Outcome :=
  s.requestService p .openLink fun s => s.awaitService .waitForOutgoingConnection

/-- A request beside connections that are in use. -/
def requestAdditional (s : Station) (p : CmPrimitive) : Outcome :=
  s.requestService p .openLink fun s => s.awaitService .waitForAdditionalConnection

/-! ## Answers -/

/-- Waits for the network if no connection is left, and otherwise goes on with the others. -/
def settle (s : Station) : Station :=
  if s.connections.isEmpty then s.awaitNetwork else s.enter .connectionActive none

/-- Takes the service request back. -/
def withdrawRequest (s : Station) : Outcome := s.awaitNetwork.sendMessage .cmServiceAbort

/-- The radio link for a service request is up. -/
def beginService (s : Station) : Outcome :=
  if s.connections.isEmpty then s.withdrawRequest
  else .done (s.awaitService .waitForOutgoingConnection)

/-- The network has opened a radio link. -/
def acceptLink (s : Station) : Outcome := .done (s.enter .waitForNetworkCommand none)

/-- Puts the pending connection into use and tells its owner. -/
def confirmPending (s : Station) : Station :=
  match s.connections.pending? with
  | some c =>
    let connections := s.connections.modifyPending fun c => { c with state := .dedicated }
    { s with connections := connections }.sendCm (c.primitive .establishConfirm)
  | none => s

/-- The service request is accepted, by a message or because ciphering starts. -/
def confirmService (s : Station) : Outcome :=
  .done ((s.stopTimer .t3230).enter .connectionActive none).confirmPending

/-- The network accepts a service request. -/
def receiveServiceAccept (s : Station) : Outcome :=
  if s.connections.pending?.isSome then s.confirmService else .done s

/-- The network rejects a service request. An unknown subscriber and illegal equipment lose all
connections, otherwise only the pending one is released. -/
def receiveServiceReject (s : Station) (body : Octets) : Outcome :=
  match Message.decodeCause body with
  | .error e => .failed s (.codec e)
  | .ok cause =>
    let s := s.stopTimer .t3230
    if cause = .imsiUnknownInVlr ∨ cause = .illegalMe then
      let s := s.deregister .notUpdated
      let s := if cause = .illegalMe then { s with subscriber.simValid := false } else s
      .done (s.releaseConnections .all CmCause.normalRelease true).settle
    else .done (s.releaseConnections .pendingOnly CmCause.normalRelease false).settle

/-- The network did not answer a service request. -/
def timeoutService (s : Station) : Outcome :=
  .done (s.releaseConnections .pendingOnly CmCause.timerExpiry false).settle

/-- The channel changed while connections are in use: every call is told. -/
def indicateSync (s : Station) (p : RrPrimitive) : Outcome :=
  let s := s.stopTimer .t3230
  let calls := s.connections.connections.filter (·.protocol = .cc)
  .done (s.sendAllCm (calls.map fun c =>
    { c.primitive .syncIndication with payload := p.payload }))

/-! ## Data and release -/

/-- Sends the message of a protocol to the network. -/
def forwardData (s : Station) (p : CmPrimitive) : Outcome :=
  if s.connections.hasReference p.reference then .done (s.sendRr (.send p.payload))
  else .done (s.refuse p CmCause.unknownReference)

/-- Drops the connection of a release request. -/
def dropConnection (s : Station) (p : CmPrimitive) : Station :=
  { s with connections := s.connections.remove p.reference }

/-- A protocol releases a connection in use. -/
def releaseActive (s : Station) (p : CmPrimitive) : Outcome := .done (s.dropConnection p).settle

/-- A protocol releases a connection while another one waits for the network. -/
def releaseWaiting (s : Station) (p : CmPrimitive) : Outcome := .done (s.dropConnection p)

/-- A protocol releases a connection whose service request was sent: the last one takes the request
back. -/
def releaseRequested (s : Station) (p : CmPrimitive) : Outcome :=
  let s := s.dropConnection p
  if s.connections.isEmpty then (s.stopTimer .t3230).withdrawRequest else .done s

/-! ## The radio link -/

/-- The radio link was lost under connections. -/
def loseConnections (s : Station) : Outcome :=
  .done ((s.stopTimer .t3230).releaseConnections .all CmCause.normalRelease true).returnIdle

/-- The network did nothing with the radio link: aborts it. -/
def abortLink (s : Station) : Outcome :=
  .done (s.sendRr (.abort RrCause.timerAbort)).returnIdle

/-- The radio link was released in any other state. -/
def loseLink (s : Station) : Outcome := .done (s.stopTimer .t3240).returnIdle

end MobileStation.Station
