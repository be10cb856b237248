import MobileStation.Text.Number
import MobileStation.Text.Quoted
import MobileStation.Yaml.Node
import MobileStation.Yaml.Numeral

/-!
# Values of nodes

What a node stands for: nothing, a truth value, a number or a text. Only a plain scalar can be
anything but a text. Decoding tells which node is not what it should be, and where it is.
-/

namespace MobileStation.Yaml

/-! ## Plain scalars -/

namespace Plain

/-- A word for nothing. -/
def isNull (text : String) : Bool := ["null", "Null", "NULL", "~"].contains text

/-- The truth value that a word stands for. -/
def bool? (text : String) : Option Bool :=
  if ["true", "True", "TRUE"].contains text then some true
  else if ["false", "False", "FALSE"].contains text then some false
  else none

end Plain

/-! ## Kinds of values -/

/-- What a node stands for, as far as an error message tells. -/
inductive Kind where
  | unit
  | bool (value : Bool)
  | unsigned (value : Nat)
  | negative (magnitude : Nat)
  /-- A decimal fraction, in words. -/
  | float (text : String)
  | text (value : String)
  | sequence
  | mapping
  deriving DecidableEq

namespace Kind

/-- An integer, with the width of a reader that could hold it if that is a wide one. Zero has no
sign. -/
def integerText (sign : String) (magnitude bound : Nat) (wide : String) : String :=
  let shown := if magnitude = 0 then "0" else sign ++ toString magnitude
  "integer \x60" ++ shown ++ "\x60" ++ if magnitude < bound then "" else " as " ++ wide

/-- The value in words. -/
def words : Kind → String
  | unit => "unit value"
  | bool value => "boolean \x60" ++ (if value then "true" else "false") ++ "\x60"
  | unsigned value => integerText "" value UInt64.size "u128"
  | negative magnitude => integerText "-" magnitude (UInt64.size / 2 + 1) "i128"
  | float digits => "floating point \x60" ++ digits ++ "\x60"
  | text value => "string " ++ Text.quoted value
  | sequence => "sequence"
  | mapping => "map"

/-- The integer of at most 128 bits that a text stands for. -/
def integer? (s : String) : Option Kind :=
  ((Plain.unsigned? s).filter (· < 1 <<< 128)).map unsigned <|>
    ((Plain.negative? s).filter (· ≤ 1 <<< 127)).map negative

/-- What a plain scalar stands for. An integer with more bits is as good as a fraction. -/
def ofPlain (s : String) : Kind :=
  if s.isEmpty || Plain.isNull s then unit
  else
    let fraction? := if Plain.isZeroFilled s then none else (Plain.fraction? s).map float
    ((Plain.bool? s).map bool <|> integer? s <|> fraction?).getD (text s)

/-- What a scalar stands for if its tag does not tell. -/
def ofScalar (style : Style) (s : String) : Kind :=
  if style = .plain then ofPlain s else text s

end Kind

/-! ## Errors -/

/-- Why a node cannot be decoded. -/
inductive DecodeProblem where
  | missingField (name : String)
  | duplicateField (name : String)
  | wrongKind (found : Kind) (expected : String)
  /-- A scalar is not written as its tag demands. -/
  | wrongText (found expected : String)
  /-- A number is too large for its field. -/
  | wrongValue (found : Nat) (expected : String)
  | wrongLength (found : Nat) (expected : String)
  /-- A word is none of those allowed. -/
  | unknownWord (found : String) (allowed : List String)
  deriving DecidableEq

/-- Wording of the problem. -/
def DecodeProblem.text : DecodeProblem → String
  | missingField name => "missing field \x60" ++ name ++ "\x60"
  | duplicateField name => "duplicate field \x60" ++ name ++ "\x60"
  | wrongKind found expected => "invalid type: " ++ found.words ++ ", expected " ++ expected
  | wrongText found expected =>
    "invalid value: string " ++ Text.quoted found ++ ", expected " ++ expected
  | wrongValue found expected =>
    "invalid value: integer \x60" ++ toString found ++ "\x60, expected " ++ expected
  | wrongLength found expected => s!"invalid length {found}, expected " ++ expected
  | unknownWord found allowed =>
    "unknown variant \x60" ++ found ++ "\x60, expected one of " ++
      ", ".intercalate (allowed.map fun w => "\x60" ++ w ++ "\x60")

/-- Why a text cannot be decoded. -/
inductive DecodeError where
  /-- The text is not well formed. -/
  | malformed (error : SyntaxError)
  /-- The node at this place has a problem. `path` leads to it from the outermost node. -/
  | unexpected (problem : DecodeProblem) (path : String) (position : Position)
  /-- A node has a problem that is told of the node around it. -/
  | unplaced (problem : DecodeProblem)
  deriving DecidableEq

namespace DecodeError

/-- Wording of the error. -/
def message : DecodeError → String
  | malformed error => error.message
  | unexpected problem path position =>
    (if path.isEmpty then "" else path ++ ": ") ++ problem.text ++ position.text
  | unplaced problem => problem.text

/-- The error with a place, if it has none yet. -/
def placed (path : String) (position : Position) : DecodeError → DecodeError
  | unplaced problem => unexpected problem path position
  | e => e

end DecodeError

/-! ## Sites -/

/-- Where a node stands in its document. -/
structure Site where
  /-- The path from the outermost node. -/
  path : String := ""
  /-- The nodes of the document that have names, the latest first. -/
  named : List (Nat × Node) := []

namespace Site

/-- The site of the outermost node. -/
def ofRoot (root : Node) : Site := { named := root.named.reverse }

/-- The site of a field. -/
def field (s : Site) (name : String) : Site :=
  { s with path := if s.path.isEmpty then name else s.path ++ "." ++ name }

/-- The site of an item. -/
def item (s : Site) (i : Nat) : Site := { s with path := s!"{s.path}[{i}]" }

/-- The site of the value behind a key. Only a key that is written out tells a path. -/
def value (s : Site) : Node → Site
  | .scalar _ name _ => s.field name
  | _ => s.field "?"

/-- The node itself, or the one that it stands for. -/
def target (s : Site) (n : Node) : Node :=
  match n with
  | .reference number _ => ((s.named.find? (·.1 == number)).map (·.2)).getD n
  | _ => n

end Site

/-! ## Decoding -/

namespace Node

/-- The problem of this node. Of a broken node that is what is wrong with the text. -/
def problem {α : Type} (n : Node) (site : Site) (p : DecodeProblem) : Except DecodeError α :=
  match n with
  | broken e => .error (.malformed e)
  | _ => .error (.unexpected p site.path n.start)

/-- A scalar as its tag demands, or else that it is not written so. -/
def tagged (found? : Option Kind) (text demanded expected : String) : DecodeProblem :=
  (found?.map fun found => .wrongKind found expected).getD (.wrongText text demanded)

/-- What is wrong with a node where something else is expected. -/
def kindProblem (n : Node) (expected : String) : DecodeProblem :=
  match n with
  | scalar style text p =>
    match p.tag with
    | some .bool => tagged ((Plain.bool? text).map .bool) text "a boolean" expected
    | some .int => tagged (Kind.integer? text) text "an integer" expected
    | some .float => tagged ((Plain.fraction? text).map .float) text "a float" expected
    | some .null => tagged (if Plain.isNull text then some .unit else none) text "null" expected
    | some .other => .wrongKind (.text text) expected
    | some (.named _) => .wrongKind (.ofScalar style text) expected
    | none => .wrongKind (.ofScalar style text) expected
  | sequence _ _ => .wrongKind .sequence expected
  | mapping _ _ => .wrongKind .mapping expected
  | reference _ _ => .wrongKind .unit expected
  | broken _ => .wrongKind .unit expected

/-- The node is of the wrong kind. -/
def wrongKind {α : Type} (n : Node) (site : Site) (expected : String) : Except DecodeError α :=
  n.problem site (n.kindProblem expected)

/-- A scalar of any kind, as a text. -/
def decodeText (site : Site) (n : Node) : Except DecodeError String :=
  match site.target n with
  | scalar _ text _ => .ok text
  | n => n.wrongKind site "a string"

/-- The text of a scalar that can be something else than a text: a plain one, or a literal one whose
tag is `tag`. -/
def valueText? (tag : Tag) : Node → Option String
  | scalar .plain text _ => some text
  | scalar .literal text p => if p.tag = some tag then some text else none
  | _ => none

/-- A truth value. -/
def decodeBool (site : Site) (n : Node) : Except DecodeError Bool :=
  let n := site.target n
  match (n.valueText? .bool).bind Plain.bool? with
  | some b => .ok b
  | none => n.wrongKind site "a boolean"

/-- An unsigned number of `bits` bits. -/
def decodeUnsigned (bits : Nat) (site : Site) (n : Node) : Except DecodeError Nat :=
  let n := site.target n
  let expected := s!"u{bits}"
  match ((n.valueText? .int).bind Plain.unsigned?).filter (· < UInt64.size) with
  | some value =>
    if value < 1 <<< bits then .ok value else n.problem site (.wrongValue value expected)
  | none => n.wrongKind site expected

/-- The node stands for nothing. A tag that demands nothing is an error at any other plain
scalar. -/
def isNothing (n : Node) : Except DecodeError Bool :=
  match n with
  | scalar .plain text p =>
    match p.tag with
    | none => .ok (text.isEmpty || Plain.isNull text)
    | some .null =>
      if Plain.isNull text then .ok true else .error (.unplaced (.wrongText text "null"))
    | some _ => .ok false
  | _ => .ok false

/-- Nothing, or what `decode` makes of the node. -/
def decodeOption {α : Type} (decode : Site → Node → Except DecodeError α) (site : Site)
    (n : Node) : Except DecodeError (Option α) := do
  let n := site.target n
  if ← n.isNothing then return none else return some (← decode site n)

/-- The node has no content. -/
def checkNothing (site : Site) (n : Node) : Except DecodeError Unit :=
  match n with
  | scalar style text _ =>
    if style = .plain && (text.isEmpty || Plain.isNull text) then .ok ()
    else n.problem site (.wrongText text "null")
  | _ => n.wrongKind site "unit"

/-- The name of the tag of an application. -/
def tagName? (n : Node) : Option String :=
  match n.tag? with
  | some (.named name?) => name?
  | _ => none

/-- One of the words `allowed`, given with what they stand for. It is a scalar, or the name of the
tag of a node without content. A wrong tag is told of the reference, or else of the node around. -/
def decodeWord {α : Type} (allowed : List (String × α)) (site : Site) (n : Node) :
    Except DecodeError α :=
  let unknown := fun word => DecodeProblem.unknownWord word (allowed.map (·.1))
  let found? := fun word => (allowed.find? (·.1 == word)).map (·.2)
  let content := site.target n
  match content.tagName? with
  | some word =>
    match found? word, n with
    | some a, _ => do
      content.checkNothing site
      return a
    | none, reference _ p => .error (.unexpected (unknown word) site.path p)
    | none, _ => .error (.unplaced (unknown word))
  | none =>
    match content with
    | scalar _ text _ =>
      match found? text with
      | some a => .ok a
      | none => content.problem site (unknown text)
    | _ => content.wrongKind site "a YAML tag starting with '!'"

/-- Passes over a node without looking into it. If the text goes wrong inside a node, the node
behind it is broken too. -/
def skip (n : Node) : Except DecodeError Unit :=
  match n with
  | broken e => .error (.malformed e)
  | _ => .ok ()

/-- What decoding makes of the first `count` items of a sequence, and the number of all its items. A
plain scalar without characters is an empty sequence. -/
def decodeItems {α : Type} (expected : String) (count : Nat)
    (decode : Site → Node → Except DecodeError α) (site : Site) (n : Node) :
    Except DecodeError (List α × Nat) := do
  let n := site.target n
  let items ← match n with
    | sequence items _ => pure items
    | scalar .plain "" _ => pure []
    | _ => n.wrongKind site expected
  let decoded ← (items.take count).zipIdx.mapM fun (item, i) => decode (site.item i) item
  let _ ← (items.drop count).mapM skip
  return (decoded, items.length)

/-! ## Records -/

/-- A record: its fields in order, each with whether it is required. -/
structure Shape where
  /-- What a node of the shape is called in a message. -/
  expected : String
  fields : List (String × Bool)

/-- Takes the entries of a mapping into a record, in their order. An entry that is no field of the
shape is passed over, and no field may occur twice. -/
def decodeEntries {α : Type} (shape : Shape) (site : Site)
    (set : String → Site → Node → α → Except DecodeError α) :
    List (Node × Node) → (seen : List String) → α → Except DecodeError (List String × α)
  | [], seen, record => .ok (seen, record)
  | (key, value) :: rest, seen, record => do
    let name ← match site.target key with
      | scalar _ text _ => pure text
      | key => key.wrongKind site "field identifier"
    if shape.fields.any (·.1 == name) then
      if seen.contains name then throw (.unplaced (.duplicateField name))
      else do
        let record ← set name (site.value key) value record
        decodeEntries shape site set rest (name :: seen) record
    else do
      value.skip
      decodeEntries shape site set rest seen record

/-- Decodes a record. `set` takes the value of a field over, `start` has the values of those that
are missing. A plain scalar without characters is a record without fields. -/
def decodeRecord {α : Type} (shape : Shape)
    (set : String → Site → Node → α → Except DecodeError α) (start : α) (site : Site)
    (n : Node) : Except DecodeError α :=
  let n := site.target n
  let decoded : Except DecodeError α := do
    let entries ← match n with
      | mapping entries _ => pure entries
      | scalar .plain "" _ => pure []
      | _ => n.wrongKind site shape.expected
    let (seen, record) ← decodeEntries shape site set entries [] start
    match shape.fields.find? fun field => field.2 && !seen.contains field.1 with
    | some (name, _) => throw (.unplaced (.missingField name))
    | none => return record
  decoded.mapError (·.placed site.path n.start)

end Node

end MobileStation.Yaml
