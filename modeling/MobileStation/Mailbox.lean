import MobileStation.Station.Work

/-!
# The mailbox

A station behind a mailbox: whatever is delivered is handled at once, and what the station sends
goes out before the next delivery. A closed mailbox takes nothing any more.
-/

namespace MobileStation

/-- What can be delivered. -/
inductive Delivery where
  | input (input : Input)
  /-- The station camps on this cell from now on. -/
  | cell (cell : ServingCell)
  deriving DecidableEq

/-- A station behind a mailbox. -/
structure Mailbox where
  station : Station
  isClosed : Bool := false
  deriving DecidableEq

namespace Mailbox

/-- Puts a delivery into the queues of the station. A new cell brings the event of a new location
area with it. -/
def accept (s : Station) : Delivery → Station
  | .input input => s.queue input
  | .cell cell => (s.reselect cell).queue (.event .newLocationArea)

/-- Handles what waits, and takes what was sent. -/
def process (m : Mailbox) (now : Nat) : List Output × Mailbox :=
  let (outputs, station) := (m.station.work now).station.takeOutputs
  (outputs, { m with station := station })

/-- Delivers to the station. Nothing happens behind a closed mailbox. -/
def deliver (m : Mailbox) (now : Nat) (d : Delivery) : List Output × Mailbox :=
  if m.isClosed then ([], m)
  else { m with station := accept m.station d }.process now

/-- Lets timers run out and handles the events that come of it. -/
def tick (m : Mailbox) (now : Nat) : List Output × Mailbox :=
  if m.isClosed then ([], m) else { m with station := m.station.tick now }.process now

/-- Closes the mailbox: the station drops all it holds. -/
def close (m : Mailbox) : Mailbox :=
  if m.isClosed then m else ⟨m.station.exit, true⟩

/-- The state of the station, unless the mailbox is closed. -/
def snapshot? (m : Mailbox) : Option Snapshot :=
  if m.isClosed then none else some m.station.machine.snapshot

end Mailbox

end MobileStation
