import MobileStation.Station.Handle

/-!
# Running the station

Inputs wait in queues. `Station.work` handles them until none is left, `Station.tick` turns timers
that have run out into events, and `Station.takeOutputs` empties the outbox.

On a clock that does not tell all times, the station breaks down when it sets a timer to a time that
the clock cannot tell: `Station.handle?` and `Station.work?` then give nothing.
-/

namespace MobileStation.Station

/-! ## Queues -/

/-- Puts an input at the end of its queue. A message of the network waits in the primitive that
carries it. -/
def queue (s : Station) : Input → Station
  | .cm p => { s with queues.cm := s.queues.cm ++ [p] }
  | .registration p => { s with queues.registration := s.queues.registration ++ [p] }
  | .rr p => { s with queues.rr := s.queues.rr ++ [p] }
  | .message data => { s with queues.rr := s.queues.rr ++ [.received data] }
  | .event e => s.queueEvent e

/-- The input to be handled next, and the queues without it: first those from above, then those of
registration, then those from below, and events last. -/
def nextInput? (q : Queues) : Option (Input × Queues) :=
  match q with
  | ⟨p :: rest, registration, rr, events⟩ => some (.cm p, ⟨rest, registration, rr, events⟩)
  | ⟨[], p :: rest, rr, events⟩ => some (.registration p, ⟨[], rest, rr, events⟩)
  | ⟨[], [], p :: rest, events⟩ => some (.rr p, ⟨[], [], rest, events⟩)
  | ⟨[], [], [], e :: rest⟩ => some (.event e, ⟨[], [], [], rest⟩)
  | ⟨[], [], [], []⟩ => none

/-- No input waits. -/
def isQuiet (s : Station) : Bool := s.queues.isEmpty

/-! ## Work -/

/-- A station, and how many inputs it handled on the way. -/
structure Progress where
  station : Station
  handled : Nat
  deriving DecidableEq

/-- Handles at most `limit` waiting inputs. An input that breaks off does not hold up the others. -/
def drain : Nat → Progress → Progress
  | 0, progress => progress
  | limit + 1, ⟨s, handled⟩ =>
    match nextInput? s.queues with
    | some (input, rest) =>
      drain limit ⟨({ s with queues := rest }.handle input).station, handled + 1⟩
    | none => ⟨s, handled⟩

/-- How many inputs there can be to handle. Every input may bring back one delayed detach, and one
may be waiting already. -/
def workload (s : Station) : Nat := 2 * s.queues.size + s.detachDelayed.toNat

/-- Handles inputs until none is waiting. -/
def work (s : Station) (now : Nat) : Progress :=
  let s := { s with now := now }
  drain s.workload ⟨s, 0⟩

/-! ## Work on a clock with an end -/

/-- Handles an input on a clock that tells the times up to `horizon`. -/
def handle? (horizon : Nat) (s : Station) (i : Input) : Option Outcome :=
  let outcome := s.handle i
  if outcome.station.timers.fits horizon then some outcome else none

/-- Handles at most `limit` waiting inputs, unless the station breaks down. -/
def drain? (horizon : Nat) : Nat → Progress → Option Progress
  | 0, progress => some progress
  | limit + 1, ⟨s, handled⟩ =>
    match nextInput? s.queues with
    | some (input, rest) =>
      match { s with queues := rest }.handle? horizon input with
      | some outcome => drain? horizon limit ⟨outcome.station, handled + 1⟩
      | none => none
    | none => some ⟨s, handled⟩

/-- Handles inputs until none is waiting, unless the station breaks down. -/
def work? (horizon : Nat) (s : Station) (now : Nat) : Option Progress :=
  let s := { s with now := now }
  drain? horizon s.workload ⟨s, 0⟩

/-! ## Time -/

/-- A timer ran out. The attempts of a station that is attempting to update start anew with the
periodic timer. -/
def expire (s : Station) (timer : TimerName) : Station :=
  let s :=
    if timer = .t3212 ∧ s.machine.substate = some .attemptingToUpdate then
      { s with update.attempts := 0 }
    else s
  s.queueEvent (.timeout timer)

/-- Queues an event for every timer that has run out. -/
def tick (s : Station) (now : Nat) : Station :=
  (s.timers.due now).foldl expire { s with now := now, timers := s.timers.tick now }

/-! ## Neighbours -/

/-- What was sent since the last time, and the station with an empty outbox. -/
def takeOutputs (s : Station) : List Output × Station := (s.outbox, { s with outbox := [] })

/-- A reference for a connection that the network opens. -/
def newReference (s : Station) : UInt32 × Station :=
  (s.freeReference, s.takeReference s.freeReference)

/-- The station camps on another cell. -/
def reselect (s : Station) (cell : ServingCell) : Station :=
  { s with cell := s.cell.reselect cell }

/-- Drops all connections and inputs and stops the timers. Nobody is told. -/
def exit (s : Station) : Station :=
  { s with
    connections := s.connections.clear
    queues := {}
    timers := s.timers.stopAll }

end MobileStation.Station
