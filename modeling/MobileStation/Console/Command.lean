import MobileStation.Area
import MobileStation.Primitive
import MobileStation.Text.Blank
import MobileStation.Text.Hex
import MobileStation.Text.Quoted

/-!
# Commands

What a user types, one command a line. Words after those that a command needs are ignored.
-/

namespace MobileStation.Console

/-- A command. -/
inductive Command where
  /-- A SIM is inserted. -/
  | register
  /-- The SIM is removed. -/
  | deregister
  /-- The station camps on a cell in this area. -/
  | newArea (lai : Lai)
  | systemInformation (t3212 : UInt32) (attachAllowed : Bool)
  | detach
  | establish (protocol : CmProtocol) (emergency : Bool)
  | release (reference : UInt32)
  /-- Radio resource management reports on the link. -/
  | link (type : RrPrimitiveType)
  /-- A message of the network is received. -/
  | receive (data : Octets)
  /-- The SIM answers an authentication request. -/
  | answer (sres : Field 4)
  | status
  | quit
  deriving DecidableEq

/-- The commands in short. -/
def help : String :=
  "commands: reg | nreg | new-lai MCC MNC LAC | si T3212 [att] | detach | " ++
    "est cc|ss|sms [emergency] | rel REF | rr est-cnf|est-ind|rel|abort|sync | " ++
    "rx HEX | sres HEX | status | quit"

/-! ## Errors -/

/-- Why a line is no command. -/
inductive CommandError where
  /-- A number is missing. -/
  | missing (what : String)
  /-- A word is no number, or too large a one. -/
  | invalidNumber (what word : String)
  | unknownProtocol (word : String)
  /-- Only calls can be emergency calls. -/
  | emergencyWithoutCall
  | unknownLink (word : Option String)
  | invalidMessage (error : Text.Hex.ReadError)
  | invalidAnswer (error : Text.Hex.ReadError)
  /-- The answer of the SIM has not four octets. -/
  | answerLength
  | unknown (verb : String)
  deriving DecidableEq

/-- Wording of an error in hexadecimal digits. A wrong octet is shown as the character with its
number. -/
def digitsMessage : Text.Hex.ReadError → String
  | .oddLength => "Odd number of digits"
  | .invalidDigit octet position =>
    "Invalid character " ++ Text.quotedChar (Char.ofNat octet.toNat) ++ s!" at position {position}"

/-- Wording of the error. -/
def CommandError.message : CommandError → String
  | missing what => "missing " ++ what
  | invalidNumber what word => "invalid " ++ what ++ " '" ++ word ++ "'"
  | unknownProtocol word => "unknown CM protocol '" ++ word ++ "'"
  | emergencyWithoutCall => "only call control can request an emergency call"
  | unknownLink none => "unknown RR primitive None"
  | unknownLink (some word) => "unknown RR primitive Some(" ++ Text.quoted word ++ ")"
  | invalidMessage error => "invalid hex message: " ++ digitsMessage error
  | invalidAnswer error => "invalid SRES: " ++ digitsMessage error
  | answerLength => "SRES must be 4 octets"
  | unknown verb => "unknown command '" ++ verb ++ "' (" ++ help ++ ")"

/-! ## Reading -/

namespace Command

/-- Reads a number below `bound`. -/
def readNumber (what : String) (bound : Nat) : Option String → Except CommandError Nat
  | none => .error (.missing what)
  | some word =>
    match Text.readBelow? bound word with
    | some n => .ok n
    | none => .error (.invalidNumber what word)

/-- Reads a location area. A network code written with three characters is a long one. -/
def readArea (words : List String) : Except CommandError Lai := do
  let mcc ← readNumber "MCC" UInt16.size words[0]?
  let mnc ← readNumber "MNC" UInt16.size words[1]?
  let lac ← readNumber "LAC" UInt16.size words[2]?
  let longMnc := words[1]?.any fun word => word.utf8ByteSize = 3
  return ⟨⟨UInt16.ofNat mcc, UInt16.ofNat mnc, longMnc⟩, UInt16.ofNat lac⟩

/-- The protocol that a word stands for. -/
def protocol? : String → Option CmProtocol
  | "cc" => some .cc
  | "ss" => some .ss
  | "sms" => some .sms
  | _ => none

/-- Reads the request for a connection. -/
def readEstablish (words : List String) : Except CommandError Command :=
  let word := words[0]?.getD ""
  match protocol? word with
  | none => .error (.unknownProtocol word)
  | some protocol =>
    let emergency := words[1]? = some "emergency"
    if emergency ∧ protocol ≠ .cc then .error .emergencyWithoutCall
    else .ok (establish protocol emergency)

/-- The report that a word stands for. -/
def link? : String → Option RrPrimitiveType
  | "est-cnf" => some .establishConfirm
  | "est-ind" => some .establishIndication
  | "rel" => some .releaseIndication
  | "abort" => some .abortIndication
  | "sync" => some .syncIndication
  | _ => none

/-- Reads a report on the link. -/
def readLink (word : Option String) : Except CommandError Command :=
  match word.bind link? with
  | some type => .ok (link type)
  | none => .error (.unknownLink word)

/-- Reads a message of the network. A missing one has no octets. -/
def readMessage (word : Option String) : Except CommandError Command :=
  match Text.Hex.read (word.getD "") with
  | .ok data => .ok (receive data)
  | .error e => .error (.invalidMessage e)

/-- Reads the answer of a SIM. -/
def readAnswer (word : Option String) : Except CommandError Command :=
  match Text.Hex.read (word.getD "") with
  | .error e => .error (.invalidAnswer e)
  | .ok data =>
    match Field.ofOctets? 4 data with
    | some sres => .ok (answer sres)
    | none => .error .answerLength

/-- Reads a command. An empty line, or one that begins with a number sign, has none. -/
def ofLine (line : String) : Except CommandError (Option Command) :=
  match Text.words line with
  | [] => .ok none
  | verb :: words =>
    if verb.toList.head? = some '#' then .ok none
    else some <$>
      match verb with
      | "reg" => .ok register
      | "nreg" => .ok deregister
      | "new-lai" => newArea <$> readArea words
      | "si" => do
        let seconds ← readNumber "T3212" UInt32.size words[0]?
        return systemInformation (UInt32.ofNat seconds) (words[1]? = some "att")
      | "detach" => .ok detach
      | "est" => readEstablish words
      | "rel" => do
        let reference ← readNumber "reference" UInt32.size words[0]?
        return release (UInt32.ofNat reference)
      | "rr" => readLink words[0]?
      | "rx" => readMessage words[0]?
      | "sres" => readAnswer words[0]?
      | "status" => .ok status
      | "quit" => .ok quit
      | "exit" => .ok quit
      | _ => .error (.unknown verb)

end Command

end MobileStation.Console
