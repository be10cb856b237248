import MobileStation.Cell
import MobileStation.Connection
import MobileStation.Message.Codec
import MobileStation.Subscriber

/-!
# The station

The state of mobility management in a mobile station, and the local updates that its procedures are
made of: sending to a neighbour, starting and stopping timers, queueing an event.

A procedure takes a station to an `Outcome`: the station it leaves, and an error if it was not
carried through. What it had done until then is kept.
-/

namespace MobileStation

/-! ## State -/

/-- The location update that is wanted or under way. -/
structure LocationUpdate where
  /-- A location update is wanted. -/
  wanted : Bool := false
  kind : UpdateKind := .normal
  /-- Failed attempts, at most `maxAttempts`. -/
  attempts : Nat := 0
  /-- The last attempt ended with a random access failure. -/
  accessFailed : Bool := false
  /-- The cause of the last reject. -/
  rejectCause : RejectCause := ⟨0⟩
  deriving DecidableEq

/-- Failed attempts after which a location update is given up. -/
def LocationUpdate.maxAttempts : Nat := 4

/-- Inputs that wait to be handled. -/
structure Queues where
  cm : List CmPrimitive := []
  registration : List RegistrationPrimitive := []
  rr : List RrPrimitive := []
  events : List Event := []
  deriving DecidableEq

namespace Queues

/-- Number of inputs that wait. -/
def size (q : Queues) : Nat :=
  q.cm.length + q.registration.length + q.rr.length + q.events.length

/-- No input waits. -/
def isEmpty (q : Queues) : Bool :=
  q.cm.isEmpty && q.registration.isEmpty && q.rr.isEmpty && q.events.isEmpty

end Queues

/-- The names that the network gave itself. -/
structure NetworkNames where
  full : Option String := none
  short : Option String := none
  deriving DecidableEq

/-- Mobility management of one mobile station. -/
structure Station where
  config : Config
  machine : StateMachine := .start
  timers : TimerSet := .stopped
  connections : ConnectionTable := {}
  subscriber : Subscriber
  cell : ServingCell := {}
  queues : Queues := {}
  update : LocationUpdate := {}
  /-- A detach was asked for while a procedure was running that it has to wait for. -/
  detachDelayed : Bool := false
  /-- Interval of periodic location updates in seconds, zero for none. -/
  periodicInterval : UInt32
  names : NetworkNames := {}
  /-- Where the search for a free connection reference begins. -/
  nextReference : UInt32 := 1
  /-- What was sent and not yet taken, oldest first. -/
  outbox : List Output := []
  /-- The time, in milliseconds. -/
  now : Nat := 0
  deriving DecidableEq

/-- Why a procedure was not carried through. -/
inductive StationError where
  /-- A message could not be read or written. -/
  | codec (error : CodecError)
  /-- A connection could not be added. -/
  | connection (error : ConnectionError)
  deriving DecidableEq

/-- Wording of the error. -/
def StationError.message : StationError → String
  | codec error => "Message decode failed: " ++ error.message
  | connection error => error.message

/-! ## Outcomes -/

/-- What a procedure leaves. -/
structure Outcome where
  station : Station
  failure : Option StationError
  deriving DecidableEq

namespace Outcome

/-- The procedure was carried through. -/
def done (s : Station) : Outcome := ⟨s, none⟩

/-- The procedure broke off. -/
def failed (s : Station) (e : StationError) : Outcome := ⟨s, some e⟩

/-- Goes on with `next`, unless the procedure broke off. -/
def andThen (o : Outcome) (next : Station → Outcome) : Outcome :=
  match o.failure with
  | none => next o.station
  | some _ => o

end Outcome

namespace Station

/-! ## Start -/

/-- A station with the given subscriber, idle and searching for a network. -/
def ofSubscriber (config : Config) (subscriber : Subscriber) : Station :=
  { config := config, subscriber := subscriber, periodicInterval := config.t3212 }

/-- A station with the subscriber of its configuration. -/
def ofConfig (config : Config) : Station := ofSubscriber config (Subscriber.ofConfig config)

/-! ## Sending -/

/-- Sends to a neighbour. -/
def send (s : Station) (o : Output) : Station := { s with outbox := s.outbox ++ [o] }

/-- Sends to radio resource management. -/
def sendRr (s : Station) (p : RrPrimitive) : Station := s.send (.rr p)

/-- Sends to connection management. -/
def sendCm (s : Station) (p : CmPrimitive) : Station := s.send (.cm p)

/-- Sends several primitives to connection management. -/
def sendAllCm (s : Station) (ps : List CmPrimitive) : Station :=
  { s with outbox := s.outbox ++ ps.map .cm }

/-- Sends a message over the radio link. -/
def sendMessage (s : Station) (m : Message) : Outcome :=
  match m.encode with
  | .ok data => .done (s.sendRr (.send data))
  | .error e => .failed s (.codec e)

/-- Reports to the network that a message was not acted upon. -/
def sendStatus (s : Station) (cause : RejectCause) : Outcome := s.sendMessage (.mmStatus cause)

/-! ## Timers and events -/

/-- Starts a timer for a number of seconds. -/
def startTimer (s : Station) (name : TimerName) (seconds : Nat) : Station :=
  { s with timers := s.timers.start name s.now (1000 * seconds) }

/-- Stops a timer. -/
def stopTimer (s : Station) (name : TimerName) : Station :=
  { s with timers := s.timers.stop name }

/-- Puts an event at the end of the event queue. -/
def queueEvent (s : Station) (e : Event) : Station :=
  { s with queues.events := s.queues.events ++ [e] }

/-- Starts the timer that supervises the release of the radio link. -/
def startReleaseTimer (s : Station) : Station :=
  s.startTimer .t3240 s.config.timers.t3240.toNat

/-! ## Connections -/

/-- Drops connections and tells their owners. -/
def releaseConnections (s : Station) (filter : ConnectionTable.ReleaseFilter) (cause : UInt8)
    (isError : Bool) : Station :=
  { s with connections := s.connections.release filter }.sendAllCm
    (s.connections.releasePrimitives filter cause isError)

/-- The references tried for a new connection. There is a free one among them, because they differ
and at most one of them is zero. -/
def referenceCandidates (s : Station) : List UInt32 :=
  (List.range (s.connections.connections.length + 2)).map fun i =>
    s.nextReference + UInt32.ofNat i

/-- The reference of a new connection: not zero, and not in use. -/
def freeReference (s : Station) : UInt32 :=
  (s.referenceCandidates.find? fun r => r ≠ 0 && !s.connections.hasReference r).getD
    s.nextReference

/-- Notes that a reference was given out. -/
def takeReference (s : Station) (reference : UInt32) : Station :=
  { s with nextReference := reference + 1 }

end Station

end MobileStation
