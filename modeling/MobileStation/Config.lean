import MobileStation.Area
import MobileStation.Element.Classmark
import MobileStation.Log

/-!
# Configuration

The equipment identities, the contents of the SIM, the classmarks and the timer durations that a
station is started with, and the checks on them.
-/

namespace MobileStation

/-! ## Settings -/

/-- Durations of the timers in seconds. T3212 is not among them: the network broadcasts it. -/
structure TimerDurations where
  t3210 : UInt64 := 20
  t3211 : UInt64 := 15
  t3213 : UInt64 := 4
  t3220 : UInt64 := 5
  t3230 : UInt64 := 15
  t3240 : UInt64 := 10
  deriving DecidableEq, Inhabited

/-- The durations in seconds, in the order of the timers. -/
def TimerDurations.toList (d : TimerDurations) : List UInt64 :=
  [d.t3210, d.t3211, d.t3213, d.t3220, d.t3230, d.t3240]

/-- The contents of a SIM. -/
structure SimSettings where
  imsi : String
  /-- The stored temporary identity. -/
  tmsi : Option UInt32 := none
  /-- The stored location area. -/
  lai : Option Lai := none
  /-- The key sequence number, 7 for no key. -/
  keySequence : UInt8 := 7
  /-- The stored update status is that of an updated station. -/
  updated : Bool := false
  /-- The access classes, one bit a class. -/
  accessClasses : UInt16 := 1
  deriving DecidableEq

/-- What a station is started with. -/
structure Config where
  imei : String
  imeisv : String
  /-- The SIM, if one is inserted. -/
  sim : Option SimSettings := none
  classmark1 : Classmark1 := ⟨0x33⟩
  classmark2 : Classmark2 := ⟨0x33, 0x19, 0xA2⟩
  /-- Interval of periodic location updates in seconds until system information is received, zero
  for none. -/
  t3212 : UInt32 := 0
  timers : TimerDurations := {}
  logLevel : LogLevel := .info
  deriving DecidableEq

/-! ## Checks -/

/-- Why a configuration is refused. -/
inductive ConfigError where
  /-- An identity has a wrong length, counted in octets of its text. -/
  | wrongLength (identity value : String) (least most : Nat)
  /-- An identity has a character that is no decimal digit. -/
  | notDigits (identity value : String)
  /-- The key sequence number is above 7. -/
  | invalidKeySequence (value : UInt8)
  deriving DecidableEq

/-- Wording of the error. -/
def ConfigError.message (e : ConfigError) : String :=
  "Configuration error: " ++ match e with
    | wrongLength identity value least most =>
      "Invalid " ++ identity ++ " '" ++ value ++
        s!"': expected {least}-{most} digits, got {value.utf8ByteSize}"
    | notDigits identity value => "Invalid " ++ identity ++ " '" ++ value ++
        "': must contain only digits"
    | invalidKeySequence value => s!"Invalid key sequence {value.toNat}: must be 0-7"

namespace Config

/-- Checks that an identity is made of `least` to `most` decimal digits. -/
def checkDigits (identity value : String) (least most : Nat) : Except ConfigError Unit :=
  if value.utf8ByteSize < least ∨ most < value.utf8ByteSize then
    .error (.wrongLength identity value least most)
  else if value.toList.all fun c => (Text.digit? c).isSome then .ok ()
  else .error (.notDigits identity value)

/-- Checks the contents of the SIM. -/
def checkSim (sim : SimSettings) : Except ConfigError Unit := do
  checkDigits "IMSI" sim.imsi 6 15
  if sim.keySequence > 7 then throw (.invalidKeySequence sim.keySequence)

/-- Checks the identities and the key sequence number. -/
def validate (c : Config) : Except ConfigError Unit := do
  checkDigits "IMEI" c.imei 15 15
  checkDigits "IMEISV" c.imeisv 16 16
  match c.sim with
  | some sim => checkSim sim
  | none => pure ()

end Config

end MobileStation
