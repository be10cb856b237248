import MobileStation.Text.Number
import MobileStation.Yaml.Value

/-!
# Printing

A value as lines of text: every entry of a mapping and every item of a sequence begins a line, and a
text is written in the plainest way that reads as that text again.
-/

namespace MobileStation.Yaml

/-! ## Values -/

/-- A value to print. -/
inductive Value where
  | null
  | bool (value : Bool)
  | number (value : Nat)
  | text (value : String)
  /-- Numbers, one below the other. -/
  | numbers (values : List Nat)
  | record (fields : List (String × Value))

namespace Printer

/-! ## What a text holds -/

/-- The character can be shown in a document as it is. -/
def isPrintable (c : Char) : Bool :=
  let n := c.toNat
  n = 10 || (0x20 ≤ n && n ≤ 0x7E) || (0xA0 ≤ n && n ≤ 0xD7FF) ||
    (0xE000 ≤ n && n ≤ 0xFFFD && n ≠ 0xFEFF) || 0x10000 ≤ n

/-- As it is, the text would be read as something else than a text, or by other readers as a
number. -/
def isAmbiguous (s : String) : Bool :=
  Plain.isZeroFilled s ||
    match Kind.ofPlain s with
    | .text _ => false
    | _ => true

/-- Marks that a plain text must not begin with. -/
def leadingMarks : List Char :=
  ['#', ',', '[', ']', '\x7b', '\x7d', '&', '*', '!', '|', '>', '\x27', '\x22', '%', '@', '\x60']

/-- The character ends a word. -/
def endsWord (c : Option Char) : Bool := c.all fun ch => isGap ch || isBreak ch

/-- A comment or the colon behind a key stands in the text. `before` tells whether a word may begin
here. -/
def hasMark (before : Bool) : List Char → Bool
  | [] => false
  | c :: rest =>
    (c = ':' && endsWord rest.head?) || (c = '#' && before) ||
      hasMark (isGap c || isBreak c) rest

/-- The beginning of the text has a meaning of its own. -/
def hasLeadingMark (cs : List Char) : Bool :=
  ['-', '-', '-'].isPrefixOf cs || ['.', '.', '.'].isPrefixOf cs ||
    match cs with
    | [] => false
    | c :: rest =>
      leadingMarks.contains c || ((c = '?' || c = '-') && endsWord rest.head?)

/-- Somewhere in the text a character that satisfies `p` stands right in front of one that satisfies
`q`. -/
def hasPair (p q : Char → Bool) : List Char → Bool
  | a :: b :: rest => (p a && q b) || hasPair p q (b :: rest)
  | _ => false

/-- A space is lost at the end of a line, and some characters cannot be shown. -/
def isWritable (cs : List Char) : Bool := cs.all isPrintable && !hasPair (· = ' ') isBreak cs

/-- The text can stand as it is in a line. -/
def isPlain (cs : List Char) : Bool :=
  isWritable cs && !cs.any isBreak && cs.head? ≠ some ' ' && cs.getLast? ≠ some ' ' &&
    !hasLeadingMark cs && !hasMark true cs

/-- The text can stand in single quotes. -/
def isSingleQuoted (cs : List Char) : Bool := isWritable cs && !hasPair isBreak (· = ' ') cs

/-- The text can stand as a block of lines. -/
def isBlock (cs : List Char) : Bool := isWritable cs && cs.getLast? ≠ some ' '

/-! ## Texts -/

/-- The letter that stands for a character behind a backslash. -/
def escapeLetter? (c : Char) : Option Char :=
  match c.toNat with
  | 0x00 => some '0'
  | 0x07 => some 'a'
  | 0x08 => some 'b'
  | 0x09 => some 't'
  | 0x0A => some 'n'
  | 0x0B => some 'v'
  | 0x0C => some 'f'
  | 0x0D => some 'r'
  | 0x1B => some 'e'
  | 0x22 => some '\x22'
  | 0x5C => some '\x5c'
  | 0x85 => some 'N'
  | 0xA0 => some '_'
  | 0x2028 => some 'L'
  | 0x2029 => some 'P'
  | _ => none

/-- A character in double quotes. -/
def escaped (c : Char) : String :=
  if isPrintable c && !isBreak c && c ≠ '\x22' && c ≠ '\x5c' then String.singleton c
  else
    match escapeLetter? c with
    | some letter => String.ofList ['\x5c', letter]
    | none =>
      let n := c.toNat
      if n < 0x100 then "\\x" ++ Text.hexadecimalCapital 2 n
      else if n < 0x10000 then "\\u" ++ Text.hexadecimalCapital 4 n
      else "\\U" ++ Text.hexadecimalCapital 8 n

/-- The text in double quotes. -/
def doubleQuoted (cs : List Char) : String := "\x22" ++ String.join (cs.map escaped) ++ "\x22"

/-- The characters, with every line that has any indented. `starts` tells whether a line starts
here. -/
def indentLines (indent : Nat) (starts : Bool) : List Char → List Char
  | [] => []
  | c :: rest =>
    if isBreak c then c :: indentLines indent true rest
    else (if starts then List.replicate indent ' ' else []) ++ c :: indentLines indent false rest

/-- The text in single quotes, which are doubled inside it. -/
def singleQuoted (indent : Nat) (cs : List Char) : String :=
  let quoted := '\x27' :: cs.flatMap (fun c => if c = '\x27' then ['\x27', c] else [c]) ++ ['\x27']
  String.ofList (indentLines indent false quoted)

/-- How the end of a block of lines is marked: it ends without a break, with one, or with more. -/
def chompingMark (cs : List Char) : String :=
  match cs.reverse with
  | [] => "-"
  | [last] => if isBreak last then "+" else "-"
  | last :: c :: _ => if !isBreak last then "-" else if isBreak c then "+" else ""

/-- The text as a block of lines. The indentation is told if the first line begins with a blank. -/
def block (indent : Nat) (cs : List Char) : String :=
  let hint := if cs.head?.any fun c => c = ' ' || isBreak c then "2" else ""
  "|" ++ hint ++ chompingMark cs ++ "\n" ++ String.ofList (indentLines indent true cs)

/-- The text behind a key, with the indentation of the lines below it. -/
def text (indent : Nat) (s : String) : String :=
  let cs := s.toList
  if cs.contains '\n' then if isBlock cs then block indent cs else doubleQuoted cs
  else if isPlain cs && !isAmbiguous s then s
  else if isSingleQuoted cs then singleQuoted indent cs
  else doubleQuoted cs

/-! ## Documents -/

/-- A line that begins at a column. A break at its end is the end of the line. -/
def line (indent : Nat) (content : String) : String :=
  let ending := if content.toList.getLast?.any isBreak then "" else "\n"
  "".pushn ' ' indent ++ content ++ ending

/-- The lines of a field. What does not fit behind its name stands below it: numbers at the same
column, a record two columns further in. -/
def field (indent : Nat) (name : String) : Value → String
  | .null => line indent (name ++ ": null")
  | .bool value => line indent (name ++ ": " ++ if value then "true" else "false")
  | .number value => line indent (name ++ ": " ++ toString value)
  | .text value => line indent (name ++ ": " ++ text (indent + 2) value)
  | .numbers [] => line indent (name ++ ": []")
  | .numbers values =>
    line indent (name ++ ":") ++ String.join (values.map fun n => line indent ("- " ++ toString n))
  | .record [] => line indent (name ++ ": \x7b\x7d")
  | .record fields => line indent (name ++ ":") ++ fieldsBelow indent fields
where
  /-- The lines of the fields of a record. -/
  fieldsBelow (indent : Nat) : List (String × Value) → String
    | [] => ""
    | (name, value) :: rest => field (indent + 2) name value ++ fieldsBelow indent rest

/-- The text of a record. -/
def document (fields : List (String × Value)) : String :=
  String.join (fields.map fun f => field 0 f.1 f.2)

end Printer

end MobileStation.Yaml
