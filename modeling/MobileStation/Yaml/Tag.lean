import MobileStation.Octets
import MobileStation.Text.Number
import MobileStation.Yaml.Cursor

/-!
# Names and tags

A node may have a name, by which it can be repeated later, and a tag, which tells its kind. A tag is
written with a handle in front, which stands for the first part of the tag: `Shorthand` is what a
handle stands for, and `TagText.resolve?` finds out which tag is meant.
-/

namespace MobileStation.Yaml

/-! ## Names -/

/-- The character may stand in the name of a node, of a handle, or of a directive. -/
def isNameChar (c : Char) : Bool :=
  ('0' ≤ c && c ≤ '9') || ('A' ≤ c && c ≤ 'Z') || ('a' ≤ c && c ≤ 'z') || c = '_' || c = '-'

/-- The characters of the name that begins here. -/
def Cursor.name (c : Cursor) : List Char := c.rest.takeWhile isNameChar

/-- Reads the name behind the mark that stands here. It ends with the word, or at a mark. -/
def Cursor.readName (c : Cursor) (activity : Activity) : Except SyntaxError (String × Cursor) :=
  let name := (c.skip 1).name
  let after := (c.skip 1).skip name.length
  let ended := after.endsWordAt 0 ||
    after.nextIs fun ch => ['?', ':', ',', ']', '\x7d', '%', '@', '\x60'].contains ch
  if name.isEmpty || !ended then .error (.within .invalidName after activity c.position)
  else .ok (String.ofList name, after)

/-! ## Tags -/

/-- What a tag says of a node. -/
inductive Tag where
  | bool
  | int
  | float
  | null
  /-- A tag of the application, with its name, if that is a text. -/
  | named (name : Option String)
  | other
  deriving DecidableEq

namespace Tag

/-- What the tags of the language begin with. -/
def languagePart : Octets := "tag:yaml.org,2002:".toUTF8.data.toList

/-- The tag that octets stand for. -/
def ofOctets (octets : Octets) : Tag :=
  match octets with
  | 0x21 :: name => named (String.fromUTF8? ⟨name.toArray⟩)
  | _ =>
    let isLanguage := fun (name : String) => octets = languagePart ++ name.toUTF8.data.toList
    if isLanguage "bool" then bool
    else if isLanguage "int" then int
    else if isLanguage "float" then float
    else if isLanguage "null" then null
    else other

end Tag

/-- What a handle stands for. -/
structure Shorthand where
  handle : String
  text : Octets
  deriving DecidableEq

/-- The handles that need no definition. -/
def Shorthand.standard : List Shorthand := [⟨"!", [0x21]⟩, ⟨"!!", Tag.languagePart⟩]

/-- A tag as it is written. Without a handle, the text is the whole tag. -/
structure TagText where
  handle : String
  text : Octets
  deriving DecidableEq, Inhabited

/-- The tag that is meant, if its handle is defined. -/
def TagText.resolve? (t : TagText) (shorthands : List Shorthand) : Option Tag :=
  if t.handle.isEmpty then some (.ofOctets t.text)
  else (shorthands.find? (·.handle == t.handle)).map fun s => .ofOctets (s.text ++ t.text)

/-! ## Reading the text of a tag -/

namespace TagText

/-- The marks that may stand in the text of a tag. -/
def marks : List Char :=
  [';', '/', '?', ':', '@', '&', '=', '+', '$', '.', '!', '~', '*', '\x27', '(', ')']

/-- The character may stand in the text of a tag. The marks of brackets and entries may do so only
in a `verbatim` one. -/
def isTagChar (verbatim : Bool) (c : Char) : Bool :=
  isNameChar c || marks.contains c || (verbatim && [',', '[', ']'].contains c)

/-- The octet that a percent sign and two hexadecimal digits stand for. -/
def escapedOctet? (c : Cursor) : Option UInt8 :=
  match c.rest with
  | '%' :: a :: b :: _ => do return UInt8.ofNat (16 * (← Text.hexDigit? a) + (← Text.hexDigit? b))
  | _ => none

/-- The number of octets behind the first one of a character. -/
def followingOctets? (first : UInt8) : Option Nat :=
  if first < 0x80 then some 0
  else if first < 0xC0 then none
  else if first < 0xE0 then some 1
  else if first < 0xF0 then some 2
  else if first < 0xF8 then some 3
  else none

/-- Reads `count` escaped octets, none of which is the first one of a character. -/
def readFollowing (activity : Activity) (start : Position) :
    (count : Nat) → Cursor → Except SyntaxError (Octets × Cursor)
  | 0, c => .ok ([], c)
  | count + 1, c =>
    match escapedOctet? c with
    | none => .error (.within .noTagOctet c activity start)
    | some o =>
      if o < 0x80 || 0xC0 ≤ o then .error (.within .invalidTrailingOctet c activity start)
      else do
        let (octets, after) ← readFollowing activity start count (c.skip 3)
        return (o :: octets, after)

/-- Reads the escaped octets of a character. -/
def readEscape (activity : Activity) (start : Position) (c : Cursor) :
    Except SyntaxError (Octets × Cursor) :=
  match escapedOctet? c with
  | none => .error (.within .noTagOctet c activity start)
  | some o =>
    match followingOctets? o with
    | none => .error (.within .invalidLeadingOctet c activity start)
    | some count => do
      let (octets, after) ← readFollowing activity start count (c.skip 3)
      return (o :: octets, after)

/-- Reads the octets of a tag, as far as they go. -/
def readOctets (verbatim : Bool) (activity : Activity) (start : Position) :
    (fuel : Nat) → Octets → Cursor → Except SyntaxError (Octets × Cursor)
  | 0, octets, c => .ok (octets, c)
  | fuel + 1, octets, c =>
    match c.ahead 0 with
    | none => .ok (octets, c)
    | some ch =>
      if ch = '%' then do
        let (escaped, after) ← readEscape activity start c
        readOctets verbatim activity start fuel (octets ++ escaped) after
      else if isTagChar verbatim ch then
        readOctets verbatim activity start fuel (octets ++ String.utf8EncodeChar ch) (c.skip 1)
      else .ok (octets, c)

/-- Reads the octets of a tag. There has to be one at least. -/
def readText (verbatim : Bool) (activity : Activity) (start : Position) (c : Cursor) :
    Except SyntaxError (Octets × Cursor) := do
  let (octets, after) ← readOctets verbatim activity start c.rest.length [] c
  if octets.isEmpty then throw (.within .noTagText after activity start)
  return (octets, after)

end TagText

/-! ## Reading tags -/

/-- The characters of the handle that begins here: an exclamation mark, and if a name is enclosed
in two of them, all of that. Where the second one is missing, the name is still returned. -/
def Cursor.handle (c : Cursor) : List Char :=
  let name := (c.skip 1).name
  let second := if (c.skip (1 + name.length)).nextIs (· = '!') then ['!'] else []
  '!' :: name ++ second

/-- The characters are a handle with both its marks. -/
def isClosedHandle (cs : List Char) : Bool := cs.length > 1 && cs.getLast? = some '!'

/-- Reads the tag whose exclamation mark stands here. It ends with the word, and between brackets
also at a comma. -/
def Cursor.readTag (c : Cursor) (inFlow : Bool) : Except SyntaxError (TagText × Cursor) := do
  let start := c.position
  let (tag, after) ←
    if c.ahead 1 = some '<' then do
      let (text, after) ← TagText.readText true .tagText start (c.skip 2)
      if !after.nextIs (· = '>') then throw (.within .unclosedTag after .tag start)
      pure (TagText.mk "" text, after.skip 1)
    else if isClosedHandle c.handle then do
      let (text, after) ← TagText.readText false .tagText start (c.skip c.handle.length)
      pure (TagText.mk (String.ofList c.handle) text, after)
    else do
      let name := (c.handle.drop 1).flatMap String.utf8EncodeChar
      let (text, after) ←
        TagText.readOctets false .tagText start c.rest.length name (c.skip c.handle.length)
      pure (if text.isEmpty then TagText.mk "" [0x21] else TagText.mk "!" text, after)
  if after.endsWordAt 0 || (inFlow && after.nextIs (· = ',')) then return (tag, after)
  else throw (.within .noBreakBehindTag after .tag start)

end MobileStation.Yaml
