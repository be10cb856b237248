import MobileStation.Text.Number

/-!
# Log levels

How much the program reports, and which lines a level lets through.
-/

namespace MobileStation

/-- A level of detail, from the most verbose to the least. -/
inductive LogLevel where
  | trace
  | debug
  | info
  | warn
  | error
  deriving DecidableEq, Inhabited

namespace LogLevel

/-- All levels, from the most verbose to the least. -/
def all : List LogLevel := [trace, debug, info, warn, error]

/-- The name in small letters. -/
def name : LogLevel → String
  | trace => "trace"
  | debug => "debug"
  | info => "info"
  | warn => "warn"
  | error => "error"

/-- The name in capital letters. -/
def capitalName : LogLevel → String
  | trace => "TRACE"
  | debug => "DEBUG"
  | info => "INFO"
  | warn => "WARN"
  | error => "ERROR"

/-- Rank of the level: the higher, the less is let through. -/
def rank : LogLevel → Nat
  | trace => 0
  | debug => 1
  | info => 2
  | warn => 3
  | error => 4

/-- A line of level `line` is shown at this level. -/
def shows (level line : LogLevel) : Bool := level.rank ≤ line.rank

/-- The level with exactly this name. -/
def ofName? (text : String) : Option LogLevel := all.find? (·.name == text)

/-- Reads a level as a user writes it: in letters of any case, with one synonym. -/
def read (text : String) : Except String LogLevel :=
  let lower := String.ofList (text.toList.map Char.toLower)
  match if lower == "warning" then some warn else ofName? lower with
  | some level => .ok level
  | none => .error ("unknown log level: " ++ text)

end LogLevel

/-- Which way a message goes. -/
inductive Direction where
  /-- Received from the network or a lower layer. -/
  | received
  /-- Sent towards the network or a lower layer. -/
  | sent
  deriving DecidableEq, Inhabited

namespace Direction

/-- Both directions. -/
def all : List Direction := [received, sent]

/-- The usual abbreviation. -/
def text : Direction → String
  | received => "RX"
  | sent => "TX"

end Direction

end MobileStation
