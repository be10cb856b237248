import MobileStation.Primitive
import MobileStation.State

/-!
# Rules

Which procedure handles an input. There is a table for each kind of input: primitives from above,
primitives from below, messages of the network, and events. The first rule that is for the input and
covers the state of the station decides; an input that no rule is for has no effect.
-/

namespace MobileStation

/-! ## Scopes -/

/-- The states that a rule covers. -/
inductive Scope where
  | everywhere
  /-- The idle state with any substate. -/
  | idle
  /-- The idle state with one of the substates. -/
  | idleIn (substates : List IdleSubstate)
  | notIdle
  /-- One of the states, whatever the substate. -/
  | within (states : List MainState)
  deriving DecidableEq

/-- The rule covers the state. -/
def Scope.covers (m : StateMachine) : Scope → Bool
  | everywhere => true
  | idle => m.isIdle
  | idleIn substates => m.isIdle && substates.contains m.lastSubstate
  | notIdle => !m.isIdle
  | within states => states.contains m.state

/-- A rule: inputs with this key go to the procedure in the states of the scope. -/
structure Rule (Key Procedure : Type) where
  key : Key
  scope : Scope
  procedure : Procedure

namespace Rule

variable {Key Procedure : Type} [BEq Key]

/-- The procedure of the first rule that has the key and covers the state. -/
def select? (rules : List (Rule Key Procedure)) (m : StateMachine) (key : Key) :
    Option Procedure :=
  (rules.find? fun r => r.key == key && r.scope.covers m).map Rule.procedure

/-- Some rule has the key. -/
def known (rules : List (Rule Key Procedure)) (key : Key) : Bool :=
  rules.any fun r => r.key == key

end Rule

/-! ## Primitives from above -/

/-- What is done with a primitive of connection management. -/
inductive CmProcedure where
  /-- Ask for a radio link that carries the service request. -/
  | requestFromIdle
  /-- Send the first service request over the link that is up. -/
  | requestFirst
  /-- Send a service request beside connections in use. -/
  | requestAdditional
  | refuseBusy
  | forwardData
  | releaseActive
  | releaseWaiting
  | releaseRequested
  deriving DecidableEq

/-- The requests of every protocol. -/
def Rule.everyProtocol (type : CmPrimitiveType) (scope : Scope) (procedure : CmProcedure) :
    List (Rule (CmPrimitiveType × CmProtocol) CmProcedure) :=
  CmProtocol.all.map fun protocol => ⟨(type, protocol), scope, procedure⟩

/-- The rules for primitives of connection management. Where no service is offered, call control
alone gets through, for emergency calls. -/
def cmRules : List (Rule (CmPrimitiveType × CmProtocol) CmProcedure) :=
  List.flatten
    [ Rule.everyProtocol .establishRequest (.idleIn [.normalService]) .requestFromIdle,
      [⟨(.establishRequest, .cc),
        .idleIn [.attemptingToUpdate, .limitedService, .noImsi, .plmnSearch], .requestFromIdle⟩],
      Rule.everyProtocol .establishRequest (.idleIn [.plmnSearchNormalService]) .requestFromIdle,
      Rule.everyProtocol .establishRequest (.within [.releaseNotAllowed]) .requestFirst,
      Rule.everyProtocol .establishRequest (.within [.connectionActive]) .requestAdditional,
      -- where no rule above covers the state
      Rule.everyProtocol .establishRequest .everywhere .refuseBusy,
      Rule.everyProtocol .dataRequest (.within [.connectionActive, .waitForAdditionalConnection])
        .forwardData,
      Rule.everyProtocol .releaseRequest (.within [.connectionActive]) .releaseActive,
      Rule.everyProtocol .releaseRequest (.within [.waitForAdditionalConnection]) .releaseWaiting,
      Rule.everyProtocol .releaseRequest (.within [.waitForOutgoingConnection]) .releaseRequested,
      Rule.everyProtocol .releaseRequest (.within [.waitForRadioConnection]) .releaseWaiting ]

/-- What is done with a primitive of connection management. -/
def StateMachine.cmProcedure? (m : StateMachine) (p : CmPrimitive) : Option CmProcedure :=
  Rule.select? cmRules m (p.type, p.protocol)

/-! ## Primitives from below -/

/-- What is done with a primitive of radio resource management. -/
inductive RrProcedure where
  | acceptLink
  | detachSent
  | endDetach
  | beginUpdate
  | loseUpdateLink
  | completeReject
  | beginService
  /-- Hand the payload on as a message of the network. -/
  | receiveMessage
  | confirmService
  | indicateSync
  | loseConnections
  | loseLink
  deriving DecidableEq

/-- The rules for the loss of the radio link, of which there are two kinds. -/
def Rule.linkLoss (scope : Scope) (procedure : RrProcedure) :
    List (Rule RrPrimitiveType RrProcedure) :=
  [⟨.releaseIndication, scope, procedure⟩, ⟨.abortIndication, scope, procedure⟩]

/-- The rules for primitives of radio resource management. -/
def rrRules : List (Rule RrPrimitiveType RrProcedure) :=
  List.flatten
    [ [⟨.establishIndication, .idle, .acceptLink⟩,
        ⟨.establishConfirm, .within [.waitForRadioDetach], .detachSent⟩],
      Rule.linkLoss (.within [.waitForRadioDetach, .imsiDetachInitiated]) .endDetach,
      [⟨.establishConfirm, .within [.waitForRadioLocationUpdate], .beginUpdate⟩],
      Rule.linkLoss (.within [.locationUpdatingInitiated, .waitForRadioLocationUpdate])
        .loseUpdateLink,
      Rule.linkLoss (.within [.locationUpdatingReject]) .completeReject,
      [⟨.establishConfirm, .within [.waitForRadioConnection], .beginService⟩,
        ⟨.dataIndication, .everywhere, .receiveMessage⟩,
        ⟨.syncIndication, .within [.waitForOutgoingConnection, .waitForAdditionalConnection],
          .confirmService⟩,
        ⟨.syncIndication, .within [.connectionActive], .indicateSync⟩],
      Rule.linkLoss
        (.within [.waitForRadioConnection, .waitForOutgoingConnection,
          .waitForAdditionalConnection, .connectionActive])
        .loseConnections,
      -- where the loss of the link has no other meaning
      Rule.linkLoss .everywhere .loseLink ]

/-- What is done with a primitive of radio resource management. -/
def StateMachine.rrProcedure? (m : StateMachine) (p : RrPrimitive) : Option RrProcedure :=
  Rule.select? rrRules m p.type

/-! ## Messages of the network -/

/-- What is done with a mobility management message of the network. -/
inductive MessageProcedure where
  | receiveTmsiReallocation
  | receiveAuthenticationRequest
  | receiveAuthenticationReject
  | receiveIdentityRequest
  | receiveAbort
  | receiveInformation
  | receiveUpdateAccept
  | receiveUpdateReject
  | receiveServiceAccept
  | receiveServiceReject
  | receiveStatus
  deriving DecidableEq

/-- The rules for mobility management messages. Only the answers to a location update depend on the
state. -/
def messageRules : List (Rule MessageType MessageProcedure) :=
  [ ⟨.tmsiReallocationCommand, .everywhere, .receiveTmsiReallocation⟩,
    ⟨.authenticationRequest, .everywhere, .receiveAuthenticationRequest⟩,
    ⟨.authenticationReject, .everywhere, .receiveAuthenticationReject⟩,
    ⟨.identityRequest, .everywhere, .receiveIdentityRequest⟩,
    ⟨.abort, .everywhere, .receiveAbort⟩,
    ⟨.mmInformation, .everywhere, .receiveInformation⟩,
    ⟨.locationUpdatingAccept, .within [.locationUpdatingInitiated], .receiveUpdateAccept⟩,
    ⟨.locationUpdatingReject, .within [.locationUpdatingInitiated], .receiveUpdateReject⟩,
    ⟨.cmServiceAccept, .everywhere, .receiveServiceAccept⟩,
    ⟨.cmServiceReject, .everywhere, .receiveServiceReject⟩,
    ⟨.mmStatus, .everywhere, .receiveStatus⟩ ]

/-- What is done with a mobility management message, or the cause with which it is refused. -/
def StateMachine.messageProcedure (m : StateMachine) (type : MessageType) :
    Except RejectCause MessageProcedure :=
  match Rule.select? messageRules m type with
  | some procedure => .ok procedure
  | none =>
    .error (if Rule.known messageRules type then .messageTypeNotCompatible
      else .messageTypeNotImplemented)

/-! ## Events -/

/-- What is done with an event. -/
inductive EventProcedure where
  | normalUpdate
  | periodicUpdate
  /-- Make the location update that is wanted. -/
  | tryUpdate
  | timeoutUpdate
  | selectCell
  | startDetach
  | endDetach
  | detachOverLink
  | delayDetach
  | applySystemInformation
  | abortLink
  | timeoutService
  | answerAuthentication
  | nothing
  deriving DecidableEq

/-- The rules for events. -/
def eventRules : List (Rule EventTag EventProcedure) :=
  [ -- normal service
    ⟨.newLocationArea, .idleIn [.normalService], .normalUpdate⟩,
    ⟨.timeout .t3211, .idleIn [.normalService], .tryUpdate⟩,
    ⟨.timeout .t3213, .idleIn [.normalService], .tryUpdate⟩,
    ⟨.timeout .t3212, .idleIn [.normalService], .periodicUpdate⟩,
    ⟨.imsiDetach, .idleIn [.normalService], .startDetach⟩,
    -- attempting to update
    ⟨.timeout .t3211, .idleIn [.attemptingToUpdate], .tryUpdate⟩,
    ⟨.timeout .t3213, .idleIn [.attemptingToUpdate], .tryUpdate⟩,
    ⟨.newLocationArea, .idleIn [.attemptingToUpdate], .normalUpdate⟩,
    ⟨.timeout .t3212, .idleIn [.attemptingToUpdate], .periodicUpdate⟩,
    -- limited service
    ⟨.newLocationArea, .idleIn [.limitedService], .normalUpdate⟩,
    -- location update needed
    ⟨.newLocationArea, .idleIn [.locationUpdateNeeded], .normalUpdate⟩,
    ⟨.timeout .t3211, .idleIn [.locationUpdateNeeded], .tryUpdate⟩,
    ⟨.timeout .t3213, .idleIn [.locationUpdateNeeded], .tryUpdate⟩,
    -- searching for networks with normal service
    ⟨.timeout .t3211, .idleIn [.plmnSearchNormalService], .tryUpdate⟩,
    ⟨.timeout .t3213, .idleIn [.plmnSearchNormalService], .tryUpdate⟩,
    ⟨.timeout .t3212, .idleIn [.plmnSearchNormalService], .nothing⟩,
    ⟨.imsiDetach, .idleIn [.plmnSearchNormalService], .startDetach⟩,
    -- no cell
    ⟨.timeout .t3212, .idleIn [.plmnSearch, .noCellAvailable], .nothing⟩,
    ⟨.newLocationArea, .idleIn [.plmnSearch, .plmnSearchNormalService, .noCellAvailable],
      .selectCell⟩,
    -- detach
    ⟨.imsiDetach, .idle, .endDetach⟩,
    ⟨.imsiDetach,
      .within [.waitForOutgoingConnection, .connectionActive, .processServicePrompt,
        .waitForReestablish, .waitForAdditionalConnection, .groupCallActive,
        .waitForNetworkCommand],
      .detachOverLink⟩,
    ⟨.imsiDetach, .within [.waitForRadioDetach, .imsiDetachInitiated, .imsiDetachPending],
      .nothing⟩,
    ⟨.imsiDetach, .everywhere, .delayDetach⟩,
    ⟨.timeout .t3220, .within [.imsiDetachInitiated], .endDetach⟩,
    -- supervision
    ⟨.timeout .t3212, .notIdle, .nothing⟩,
    ⟨.timeout .t3210, .notIdle, .timeoutUpdate⟩,
    ⟨.systemInformation, .everywhere, .applySystemInformation⟩,
    ⟨.timeout .t3240, .within [.waitForNetworkCommand, .locationUpdatingReject], .abortLink⟩,
    ⟨.timeout .t3230, .within [.waitForOutgoingConnection, .waitForAdditionalConnection],
      .timeoutService⟩,
    ⟨.authenticationResponse, .everywhere, .answerAuthentication⟩ ]

/-- What is done with an event. -/
def StateMachine.eventProcedure? (m : StateMachine) (e : Event) : Option EventProcedure :=
  Rule.select? eventRules m e.tag

end MobileStation
