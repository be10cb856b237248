import MobileStation.Console.Command
import MobileStation.Mailbox

/-!
# Sessions

The connections that a user opened, and what a command delivers to the station. A connection is
known to the user by its reference; the session remembers its protocol and transaction.
-/

namespace MobileStation.Console

/-- A connection that the user opened. -/
structure OpenConnection where
  reference : UInt32
  protocol : CmProtocol
  transaction : UInt8
  deriving DecidableEq

/-- How many transactions were given out for each protocol. -/
structure TransactionCounts where
  cc : Nat := 0
  ss : Nat := 0
  sms : Nat := 0
  deriving DecidableEq

namespace TransactionCounts

/-- The count of a protocol. -/
def get (t : TransactionCounts) : CmProtocol → Nat
  | .cc => t.cc
  | .ss => t.ss
  | .sms => t.sms

/-- Counts one more. -/
def increment (t : TransactionCounts) : CmProtocol → TransactionCounts
  | .cc => { t with cc := t.cc + 1 }
  | .ss => { t with ss := t.ss + 1 }
  | .sms => { t with sms := t.sms + 1 }

end TransactionCounts

/-- What a session remembers. -/
structure Session where
  nextReference : UInt32
  counts : TransactionCounts := {}
  connections : List OpenConnection := []
  deriving DecidableEq

/-- Why a command delivers nothing. -/
inductive SessionError where
  /-- The user has opened no connection with this reference, or released it. -/
  | noConnection (reference : UInt32)
  /-- The command is not for the station. -/
  | notForStation
  deriving DecidableEq

/-- Wording of the error. -/
def SessionError.message : SessionError → String
  | noConnection reference => s!"no connection with ref={reference.toNat}"
  | notForStation => "not an MM input"

namespace Session

/-- The first reference for the connections of a user. The lower ones are for those that the network
opens. -/
def firstReference : UInt32 := 0x80000001

/-- A session without connections. -/
def start : Session := { nextReference := firstReference }

/-- Number of transactions that a protocol of the station may number itself. -/
def transactionCount : Nat := 7

/-- The transaction of the next connection. They are given out in turn. -/
def nextTransaction (s : Session) (protocol : CmProtocol) : UInt8 :=
  UInt8.ofNat (s.counts.get protocol % transactionCount)

/-- The reference after `r`. -/
def referenceAfter (r : UInt32) : UInt32 := max (r + 1) firstReference

/-- Opens a connection: its request, and the session that remembers it. -/
def establish (s : Session) (protocol : CmProtocol) (emergency : Bool) : CmPrimitive × Session :=
  let reference := s.nextReference
  let transaction := s.nextTransaction protocol
  let others := s.connections.filter (·.reference ≠ reference)
  ( { type := .establishRequest
      protocol := protocol
      reference := reference
      transaction := transaction
      emergency := emergency },
    { nextReference := referenceAfter reference
      counts := s.counts.increment protocol
      connections := others ++ [⟨reference, protocol, transaction⟩] } )

/-- Releases a connection: its request, and the session that has forgotten it. -/
def release (s : Session) (reference : UInt32) : Except SessionError (CmPrimitive × Session) :=
  match s.connections.find? (·.reference == reference) with
  | none => .error (.noConnection reference)
  | some c =>
    .ok
      ( { type := .releaseRequest
          protocol := c.protocol
          reference := reference
          transaction := c.transaction },
        { s with connections := s.connections.filter (·.reference ≠ reference) } )

/-- What a command delivers to the station. `chance` is an outcome of the source of randomness. -/
def deliver (s : Session) (chance : Nat) : Command → Except SessionError (Delivery × Session)
  | .register => .ok (.input (.registration .registerRequest), s)
  | .deregister => .ok (.input (.registration .deregisterRequest), s)
  | .newArea lai => .ok (.cell (.campedIn lai), s)
  | .systemInformation t3212 attachAllowed =>
    let info := { t3212 := t3212, si3 := true, attachAllowed := attachAllowed }
    .ok (.input (.event (.systemInformation info chance)), s)
  | .detach => .ok (.input (.event .imsiDetach), s)
  | .establish protocol emergency =>
    let (p, s) := s.establish protocol emergency
    .ok (.input (.cm p), s)
  | .release reference => do
    let (p, s) ← s.release reference
    return (.input (.cm p), s)
  | .link type => .ok (.input (.rr { type := type }), s)
  | .receive data => .ok (.input (.rr (.received data)), s)
  | .answer sres => .ok (.input (.event (.authenticationResponse sres)), s)
  | .status => .error .notForStation
  | .quit => .error .notForStation

end Session

end MobileStation.Console
