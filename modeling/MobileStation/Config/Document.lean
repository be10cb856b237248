import MobileStation.Config
import MobileStation.Yaml.Printer

/-!
# Configuration documents

A configuration as a document: `Config.ofText` reads one, in which most fields may be missing, and
`Config.document` writes all fields.
-/

namespace MobileStation

open Yaml

/-! ## Reading -/

/-- Reads a number of eight bits. -/
def decodeUInt8 (site : Site) (n : Node) : Except DecodeError UInt8 :=
  (n.decodeUnsigned 8 site).map UInt8.ofNat

/-- Reads a number of sixteen bits. -/
def decodeUInt16 (site : Site) (n : Node) : Except DecodeError UInt16 :=
  (n.decodeUnsigned 16 site).map UInt16.ofNat

/-- Reads a number of thirty-two bits. -/
def decodeUInt32 (site : Site) (n : Node) : Except DecodeError UInt32 :=
  (n.decodeUnsigned 32 site).map UInt32.ofNat

/-- Reads a number of sixty-four bits. -/
def decodeUInt64 (site : Site) (n : Node) : Except DecodeError UInt64 :=
  (n.decodeUnsigned 64 site).map UInt64.ofNat

namespace Plmn

/-- The fields of a network. -/
def shape : Node.Shape :=
  ⟨"struct Plmn", [("mcc", true), ("mnc", true), ("long_mnc", false)]⟩

/-- Takes over a field of a network. -/
def setField (name : String) (site : Site) (n : Node) (p : Plmn) : Except DecodeError Plmn :=
  match name with
  | "mcc" => do return { p with mcc := ← decodeUInt16 site n }
  | "mnc" => do return { p with mnc := ← decodeUInt16 site n }
  | _ => do return { p with longMnc := ← n.decodeBool site }

/-- Reads a network. -/
def ofNode (site : Site) (n : Node) : Except DecodeError Plmn :=
  n.decodeRecord shape setField default site

end Plmn

namespace Lai

/-- The fields of a location area. -/
def shape : Node.Shape := ⟨"struct Lai", [("plmn", true), ("lac", true)]⟩

/-- Takes over a field of a location area. -/
def setField (name : String) (site : Site) (n : Node) (l : Lai) : Except DecodeError Lai :=
  match name with
  | "plmn" => do return { l with plmn := ← Plmn.ofNode site n }
  | _ => do return { l with lac := ← decodeUInt16 site n }

/-- Reads a location area. -/
def ofNode (site : Site) (n : Node) : Except DecodeError Lai :=
  n.decodeRecord shape setField default site

end Lai

namespace SimSettings

/-- The fields of the contents of a SIM. -/
def shape : Node.Shape :=
  ⟨"struct SimConfig", [("imsi", true), ("tmsi", false), ("lai", false), ("key_seq", false),
    ("updated", false), ("access_class", false)]⟩

/-- Takes over a field of the contents of a SIM. -/
def setField (name : String) (site : Site) (n : Node) (s : SimSettings) :
    Except DecodeError SimSettings :=
  match name with
  | "imsi" => do return { s with imsi := ← n.decodeText site }
  | "tmsi" => do return { s with tmsi := ← n.decodeOption decodeUInt32 site }
  | "lai" => do return { s with lai := ← n.decodeOption Lai.ofNode site }
  | "key_seq" => do return { s with keySequence := ← decodeUInt8 site n }
  | "updated" => do return { s with updated := ← n.decodeBool site }
  | _ => do return { s with accessClasses := ← decodeUInt16 site n }

/-- Reads the contents of a SIM. -/
def ofNode (site : Site) (n : Node) : Except DecodeError SimSettings :=
  n.decodeRecord shape setField { imsi := "" } site

end SimSettings

namespace TimerDurations

/-- The fields of the timer durations. -/
def shape : Node.Shape :=
  ⟨"struct MmTimerConfig", [("t3210", false), ("t3211", false), ("t3213", false),
    ("t3220", false), ("t3230", false), ("t3240", false)]⟩

/-- Takes over the duration of a timer. -/
def setField (name : String) (site : Site) (n : Node) (d : TimerDurations) :
    Except DecodeError TimerDurations := do
  let seconds ← decodeUInt64 site n
  match name with
  | "t3210" => return { d with t3210 := seconds }
  | "t3211" => return { d with t3211 := seconds }
  | "t3213" => return { d with t3213 := seconds }
  | "t3220" => return { d with t3220 := seconds }
  | "t3230" => return { d with t3230 := seconds }
  | _ => return { d with t3240 := seconds }

/-- Reads the timer durations. -/
def ofNode (site : Site) (n : Node) : Except DecodeError TimerDurations :=
  n.decodeRecord shape setField {} site

end TimerDurations

/-- Reads a classmark of three numbers. -/
def Classmark2.ofNode (site : Site) (n : Node) : Except DecodeError Classmark2 := do
  let n := site.target n
  let (numbers, count) ← n.decodeItems "an array of length 3" 3 decodeUInt8 site
  match numbers with
  | [a, b, c] =>
    if count = 3 then return ⟨a, b, c⟩
    else n.problem site (.wrongLength count "sequence of 3 elements")
  | _ => n.problem site (.wrongLength count "an array of length 3")

/-- Reads a log level, by its name in small letters. -/
def LogLevel.ofNode (site : Site) (n : Node) : Except DecodeError LogLevel :=
  n.decodeWord (LogLevel.all.map fun level => (level.name, level)) site

namespace Config

/-- The fields of a configuration. -/
def shape : Node.Shape :=
  ⟨"struct MsConfig", [("imei", true), ("imeisv", true), ("sim", false), ("classmark1", false),
    ("classmark2", false), ("t3212", false), ("timers", false), ("log_level", false)]⟩

/-- Takes over a field of a configuration. -/
def setField (name : String) (site : Site) (n : Node) (c : Config) : Except DecodeError Config :=
  match name with
  | "imei" => do return { c with imei := ← n.decodeText site }
  | "imeisv" => do return { c with imeisv := ← n.decodeText site }
  | "sim" => do return { c with sim := ← n.decodeOption SimSettings.ofNode site }
  | "classmark1" => do return { c with classmark1 := ⟨← decodeUInt8 site n⟩ }
  | "classmark2" => do return { c with classmark2 := ← Classmark2.ofNode site n }
  | "t3212" => do return { c with t3212 := ← decodeUInt32 site n }
  | "timers" => do return { c with timers := ← TimerDurations.ofNode site n }
  | _ => do return { c with logLevel := ← LogLevel.ofNode site n }

/-- Reads a configuration. What is wrong with the text behind the configuration is told only if the
configuration itself is in order. -/
def ofText (text : String) : Except DecodeError Config := do
  let document := Document.ofText text
  let config ← document.root.decodeRecord shape setField { imei := "", imeisv := "" }
    (.ofRoot document.root)
  match document.defect with
  | some e => throw (.malformed e)
  | none => return config

end Config

/-! ## Writing -/

/-- The fields of a network. -/
def Plmn.toValue (p : Plmn) : Value :=
  .record [("mcc", .number p.mcc.toNat), ("mnc", .number p.mnc.toNat),
    ("long_mnc", .bool p.longMnc)]

/-- The fields of a location area. -/
def Lai.toValue (l : Lai) : Value :=
  .record [("plmn", l.plmn.toValue), ("lac", .number l.lac.toNat)]

/-- The fields of the contents of a SIM. -/
def SimSettings.toValue (s : SimSettings) : Value :=
  .record
    [ ("imsi", .text s.imsi),
      ("tmsi", s.tmsi.elim .null fun t => .number t.toNat),
      ("lai", s.lai.elim .null Lai.toValue),
      ("key_seq", .number s.keySequence.toNat),
      ("updated", .bool s.updated),
      ("access_class", .number s.accessClasses.toNat) ]

/-- The timer durations under the names of their timers. -/
def TimerDurations.toValue (d : TimerDurations) : Value :=
  .record (shape.fields.zipWith (fun field seconds => (field.1, .number seconds.toNat)) d.toList)

namespace Config

/-- The fields of a configuration. -/
def fields (c : Config) : List (String × Value) :=
  [ ("imei", .text c.imei),
    ("imeisv", .text c.imeisv),
    ("sim", c.sim.elim .null SimSettings.toValue),
    ("classmark1", .number c.classmark1.octet.toNat),
    ("classmark2", .numbers (c.classmark2.octets.map UInt8.toNat)),
    ("t3212", .number c.t3212.toNat),
    ("timers", c.timers.toValue),
    ("log_level", .text c.logLevel.name) ]

/-- A configuration as a document with all its fields. -/
def document (c : Config) : String := Printer.document c.fields

end Config

end MobileStation
