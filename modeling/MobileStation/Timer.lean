import MobileStation.Text.Number

/-!
# Timers

The seven mobility management timers. A timer is a countdown of one run against a clock that the
owner supplies, in milliseconds; the owner ticks the set and learns which timers ran out.

No clock tells all times. A deadline that it cannot tell is computed like any other, and the timer
remembers the latest time to which it was set; what the owner does about it is up to the owner.

Main statements: `get_set` (writing a timer is seen at that timer alone) and `get_map`.
-/

namespace MobileStation

/-! ## Names -/

/-- The name of a timer. -/
inductive TimerName where
  /-- Answer to a location update. -/
  | t3210
  /-- Delay before a location update is tried again. -/
  | t3211
  /-- Periodic location update; its interval is broadcast by the network. -/
  | t3212
  /-- Delay after a random access failure in a location update. -/
  | t3213
  /-- Acknowledgement of a detach. -/
  | t3220
  /-- Answer to a service request. -/
  | t3230
  /-- Release of the radio link after a procedure. -/
  | t3240
  deriving DecidableEq, Inhabited

namespace TimerName

/-- All timers, in the order of their numbers. -/
def all : List TimerName := [t3210, t3211, t3212, t3213, t3220, t3230, t3240]

/-- The number of the timer. -/
def number : TimerName → Nat
  | t3210 => 3210
  | t3211 => 3211
  | t3212 => 3212
  | t3213 => 3213
  | t3220 => 3220
  | t3230 => 3230
  | t3240 => 3240

/-- The letter T and the number. -/
def text (t : TimerName) : String := s!"T{t.number}"

/-- What the timer is for, in a few words. -/
def description : TimerName → String
  | t3210 => "loc. upd. timeout"
  | t3211 => "loc. upd. retry delay"
  | t3212 => "periodic loc. upd. delay"
  | t3213 => "delay after RA failure"
  | t3220 => "IMSI detach keepalive"
  | t3230 => "MM connection timeout"
  | t3240 => "RR release timeout"

/-- The timer with this text. -/
def ofText? (text : String) : Option TimerName := all.find? (·.text == text)

end TimerName

/-! ## A single timer -/

/-- A timer. -/
structure Timer where
  /-- Length of the current or last run, in milliseconds. -/
  interval : Nat
  /-- When the current run ends, if the timer is running. -/
  deadline : Option Nat
  /-- How often the timer has run out. -/
  expiries : UInt32
  /-- The latest time to which the timer was ever set. -/
  latest : Nat
  deriving DecidableEq

namespace Timer

/-- A stopped timer that has never run. -/
def stopped : Timer := ⟨0, none, 0, 0⟩

/-- The timer is running. -/
def isRunning (t : Timer) : Bool := t.deadline.isSome

/-- Starts or restarts the timer for `interval` milliseconds. -/
def start (t : Timer) (now interval : Nat) : Timer :=
  { t with
    interval := interval
    deadline := some (now + interval)
    latest := max t.latest (now + interval) }

/-- Stops the timer. -/
def stop (t : Timer) : Timer := { t with deadline := none }

/-- Moves the deadline of a running timer to `rest` milliseconds from now. -/
def setRemaining (t : Timer) (now rest : Nat) : Timer :=
  { t with
    deadline := t.deadline.map fun _ => now + rest
    latest := if t.isRunning then max t.latest (now + rest) else t.latest }

/-- Time left, zero when the deadline has passed. -/
def remaining (t : Timer) (now : Nat) : Option Nat := t.deadline.map (· - now)

/-- The timer runs out at `now`. -/
def isDue (t : Timer) (now : Nat) : Bool :=
  match t.deadline with
  | some d => d ≤ now
  | none => false

/-- Stops and counts a timer that runs out at `now`. -/
def expire (t : Timer) (now : Nat) : Timer :=
  if t.isDue now then { t with deadline := none, expiries := t.expiries + 1 } else t

/-- The interval in whole seconds. -/
def seconds (t : Timer) : Nat := t.interval / 1000

/-- The timer in words. -/
def text (t : Timer) (name : TimerName) : String :=
  if t.isRunning then s!"{name.text}: int[{t.seconds}]" else name.text ++ ": ."

end Timer

/-! ## The set of timers -/

/-- The seven timers. -/
structure TimerSet where
  t3210 : Timer
  t3211 : Timer
  t3212 : Timer
  t3213 : Timer
  t3220 : Timer
  t3230 : Timer
  t3240 : Timer
  deriving DecidableEq

/-- A timer that ran out, and how often it has. -/
structure Expiry where
  timer : TimerName
  count : UInt32
  deriving DecidableEq

namespace TimerSet

/-- All timers stopped. -/
def stopped : TimerSet :=
  ⟨.stopped, .stopped, .stopped, .stopped, .stopped, .stopped, .stopped⟩

/-- The timer of a name. -/
def get (s : TimerSet) : TimerName → Timer
  | .t3210 => s.t3210
  | .t3211 => s.t3211
  | .t3212 => s.t3212
  | .t3213 => s.t3213
  | .t3220 => s.t3220
  | .t3230 => s.t3230
  | .t3240 => s.t3240

/-- Puts a timer in the place of a name. -/
def set (s : TimerSet) (name : TimerName) (t : Timer) : TimerSet :=
  match name with
  | .t3210 => { s with t3210 := t }
  | .t3211 => { s with t3211 := t }
  | .t3212 => { s with t3212 := t }
  | .t3213 => { s with t3213 := t }
  | .t3220 => { s with t3220 := t }
  | .t3230 => { s with t3230 := t }
  | .t3240 => { s with t3240 := t }

/-- Changes every timer. -/
def map (s : TimerSet) (f : Timer → Timer) : TimerSet :=
  ⟨f s.t3210, f s.t3211, f s.t3212, f s.t3213, f s.t3220, f s.t3230, f s.t3240⟩

theorem get_set (s : TimerSet) (a b : TimerName) (t : Timer) :
    (s.set a t).get b = if b = a then t else s.get b := by
  cases a <;> cases b <;> rfl

@[simp] theorem get_map (s : TimerSet) (f : Timer → Timer) (a : TimerName) :
    (s.map f).get a = f (s.get a) := by
  cases a <;> rfl

/-- The timer of this name is running. -/
def isRunning (s : TimerSet) (name : TimerName) : Bool := (s.get name).isRunning

/-- Whether `start` arms the timer. T3212 is not restarted while it runs, and is never started with
an interval of zero. -/
def canStart (s : TimerSet) (name : TimerName) (interval : Nat) : Bool :=
  name ≠ .t3212 || (interval ≠ 0 && !s.isRunning .t3212)

/-- Starts a timer for `interval` milliseconds, if it can be started. -/
def start (s : TimerSet) (name : TimerName) (now interval : Nat) : TimerSet :=
  if s.canStart name interval then s.set name ((s.get name).start now interval) else s

/-- Stops a timer. -/
def stop (s : TimerSet) (name : TimerName) : TimerSet := s.set name (s.get name).stop

/-- Moves the deadline of a running timer. -/
def setRemaining (s : TimerSet) (name : TimerName) (now rest : Nat) : TimerSet :=
  s.set name ((s.get name).setRemaining now rest)

/-- Stops every timer. -/
def stopAll (s : TimerSet) : TimerSet := s.map Timer.stop

/-- The timers that run out at `now`, in the order of their numbers. -/
def due (s : TimerSet) (now : Nat) : List TimerName :=
  TimerName.all.filter fun t => (s.get t).isDue now

/-- Stops and counts the timers that run out at `now`. -/
def tick (s : TimerSet) (now : Nat) : TimerSet := s.map (·.expire now)

/-- What the owner learns from a tick. -/
def expiries (s : TimerSet) (now : Nat) : List Expiry :=
  (s.due now).map fun t => ⟨t, ((s.tick now).get t).expiries⟩

/-- The running timers, in the order of their numbers. -/
def running (s : TimerSet) : List TimerName := TimerName.all.filter s.isRunning

/-- The earliest deadline of a running timer. -/
def nextDeadline (s : TimerSet) : Option Nat :=
  (TimerName.all.filterMap fun t => (s.get t).deadline).min?

/-- The latest time of a clock that counts seconds in 63 bits. -/
def lastTime : Nat := 1000 * 9223372036854775807 + 999

/-- A clock that tells the times up to `horizon` can tell every deadline that was set. -/
def fits (s : TimerSet) (horizon : Nat) : Bool :=
  TimerName.all.all fun t => (s.get t).latest ≤ horizon

/-- The running timers in words. -/
def text (s : TimerSet) : String :=
  let content := match s.running with
    | [] => "no running timers"
    | ts => "running: [" ++ ", ".intercalate (ts.map TimerName.text) ++ "]"
  "MmTimerSet \x7b " ++ content ++ " \x7d"

end TimerSet

end MobileStation
