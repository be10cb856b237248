import MobileStation.Station.Call
import MobileStation.Station.Common
import MobileStation.Station.Detach
import MobileStation.Station.Rules

/-!
# Handling an input

`Station.handle` takes one input: it looks the input up in the rules and runs the procedure found
there.
-/

namespace MobileStation

/-! ## Procedures -/

/-- Runs a procedure for a primitive of connection management. -/
def CmProcedure.run (s : Station) (p : CmPrimitive) : CmProcedure → Outcome
  | requestFromIdle => s.requestFromIdle p
  | requestFirst => s.requestFirst p
  | requestAdditional => s.requestAdditional p
  | refuseBusy => s.refuseBusy p
  | forwardData => s.forwardData p
  | releaseActive => s.releaseActive p
  | releaseWaiting => s.releaseWaiting p
  | releaseRequested => s.releaseRequested p

/-- Runs a procedure for the body of a message. -/
def MessageProcedure.run (s : Station) (body : Octets) : MessageProcedure → Outcome
  | receiveTmsiReallocation => s.receiveTmsiReallocation body
  | receiveAuthenticationRequest => s.receiveAuthenticationRequest body
  | receiveAuthenticationReject => s.receiveAuthenticationReject
  | receiveIdentityRequest => s.receiveIdentityRequest body
  | receiveAbort => s.receiveAbort body
  | receiveInformation => s.receiveInformation body
  | receiveUpdateAccept => s.receiveUpdateAccept body
  | receiveUpdateReject => s.receiveUpdateReject body
  | receiveServiceAccept => s.receiveServiceAccept
  | receiveServiceReject => s.receiveServiceReject body
  | receiveStatus => s.receiveStatus body

/-- Runs a procedure for an event. -/
def EventProcedure.run (s : Station) (e : Event) : EventProcedure → Outcome
  | normalUpdate => s.normalUpdate
  | periodicUpdate => s.periodicUpdate
  | tryUpdate => s.tryUpdate
  | timeoutUpdate => s.timeoutUpdate
  | selectCell => s.selectCell
  | startDetach => s.startDetach
  | endDetach => s.endDetach
  | detachOverLink => s.detachOverLink
  | delayDetach => s.delayDetach
  | applySystemInformation =>
    match e with
    | .systemInformation info chance => .done (s.applySystemInformation info chance)
    | _ => .done s
  | abortLink => s.abortLink
  | timeoutService => s.timeoutService
  | answerAuthentication =>
    match e with
    | .authenticationResponse sres => s.answerAuthentication sres
    | _ => .done s
  | nothing => .done s

namespace Station

/-! ## Messages of the network -/

/-- Any mobility management message counts as contact with the network: it puts off the periodic
update, and the release of the link. -/
def noteContact (s : Station) : Station :=
  let s := s.stopTimer .t3212
  if s.timers.isRunning .t3240 then s.startReleaseTimer else s

/-- Handles a mobility management message. One with a skip indicator is ignored, and one that no
procedure is for is answered with its cause. -/
def receiveMm (s : Station) (header : Header) (body : Octets) : Outcome :=
  if header.skipIndicator ≠ 0 then .done s
  else
    match header.messageType with
    | .error _ => s.sendStatus .messageTypeNotImplemented
    | .ok type =>
      let s := s.noteContact
      match s.machine.messageProcedure type with
      | .ok procedure => procedure.run s body
      | .error cause => s.sendStatus cause

/-- A connection uses the link that the station held for the network. -/
def joinLink (s : Station) : Station :=
  if s.machine.state = .waitForNetworkCommand ∨ s.machine.state = .releaseNotAllowed then
    (s.stopTimer .t3240).enter .connectionActive none
  else s

/-- The station with the new connection that the network opened, and its primitive. -/
def openConnection (s : Station) (protocol : CmProtocol) (transaction : UInt8) :
    Except ConnectionError (ConnectionTable × CmPrimitive) := do
  let connection :=
    { protocol := protocol
      transaction := transaction
      reference := s.freeReference
      state := .dedicated }
  let table ← s.connections.add connection
  return (table, connection.primitive .establishIndication)

/-- Hands a message of another protocol to the owner of its connection. A connection that is not
known is opened by the network. -/
def receiveCm (s : Station) (protocol : CmProtocol) (header : Header) (data : Octets) : Outcome :=
  match s.connections.findByKey? protocol header.transaction with
  | some c =>
    .done (s.joinLink.sendCm { c.primitive .dataIndication with payload := data })
  | none =>
    -- The reference counts as given out even where the connection cannot be added.
    let taken := s.takeReference s.freeReference
    match s.openConnection protocol header.transaction with
    | .error e => .failed taken (.connection e)
    | .ok (table, p) =>
      .done ({ taken with connections := table }.joinLink.sendCm { p with payload := data })

/-- Handles a message of the network. -/
def receiveMessage (s : Station) (data : Octets) : Outcome :=
  match Header.read data with
  | .error e => .failed s (.codec (.header e))
  | .ok (header, body) =>
    match header.protocol? with
    | some .mobilityManagement => s.receiveMm header body
    | some protocol =>
      match CmProtocol.ofProtocol? protocol with
      | some protocol => s.receiveCm protocol header data
      | none => s.sendStatus .messageTypeNotImplemented
    | none => s.sendStatus .messageTypeNotImplemented

end Station

/-- Runs a procedure for a primitive of radio resource management. -/
def RrProcedure.run (s : Station) (p : RrPrimitive) : RrProcedure → Outcome
  | acceptLink => s.acceptLink
  | detachSent => s.detachSent
  | endDetach => s.endDetach
  | beginUpdate => s.beginUpdate
  | loseUpdateLink => s.loseUpdateLink p
  | completeReject => s.completeReject
  | beginService => s.beginService
  | receiveMessage => s.receiveMessage p.payload
  | confirmService => s.confirmService
  | indicateSync => s.indicateSync p
  | loseConnections => s.loseConnections
  | loseLink => s.loseLink

/-! ## Inputs -/

/-- An input of the station. -/
inductive Input where
  | cm (primitive : CmPrimitive)
  | registration (primitive : RegistrationPrimitive)
  | rr (primitive : RrPrimitive)
  /-- A message of the network, without the primitive that carries it. -/
  | message (data : Octets)
  | event (event : Event)
  deriving DecidableEq

namespace Station

/-- The connection that a primitive refers to takes over its transaction. -/
def updateTransaction (s : Station) (p : CmPrimitive) : Station :=
  { s with connections := s.connections.modifyByReference p.reference fun c =>
      { c with transaction := p.transaction } }

/-- Handles a primitive of connection management. -/
def handleCm (s : Station) (p : CmPrimitive) : Outcome :=
  let s := s.updateTransaction p
  match s.machine.cmProcedure? p with
  | some procedure => procedure.run s p
  | none => .done s

/-- Handles a primitive of registration: the search for networks and the selection of cells are
told. -/
def handleRegistration (s : Station) : RegistrationPrimitive → Outcome
  | .registerRequest => .done (s.send (.plmnSearch .simInserted))
  | .deregisterRequest =>
    .done ((s.send (.plmnSearch .simRemoved)).send (.cellSelection .simRemoved))
  | .registerConfirm => .done s
  | .deregisterIndication => .done s

/-- Handles a primitive of radio resource management. -/
def handleRr (s : Station) (p : RrPrimitive) : Outcome :=
  match s.machine.rrProcedure? p with
  | some procedure => procedure.run s p
  | none => .done s

/-- Handles an event. -/
def handleEvent (s : Station) (e : Event) : Outcome :=
  match s.machine.eventProcedure? e with
  | some procedure => procedure.run s e
  | none => .done s

/-- Handles an input at once. -/
def handle (s : Station) : Input → Outcome
  | .cm p => s.handleCm p
  | .registration p => s.handleRegistration p
  | .rr p => s.handleRr p
  | .message data => s.receiveMessage data
  | .event e => s.handleEvent e

end Station

end MobileStation
