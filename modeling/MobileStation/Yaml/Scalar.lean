import MobileStation.Text.Number
import MobileStation.Yaml.Cursor

/-!
# Scalars

The three ways to write a text: plain, in quotes, and as a block of lines. Line breaks inside a
plain or quoted scalar are folded: a single one becomes a space, and of several all but the first
are kept.
-/

namespace MobileStation.Yaml

/-- How a scalar is written. -/
inductive Style where
  | plain
  | quoted
  /-- A block whose lines are kept. -/
  | literal
  /-- A block whose lines are joined. -/
  | folded
  deriving DecidableEq, Inhabited

/-- A scalar that was read. -/
structure ScalarText where
  text : List Char
  /-- Where the scalar ends. -/
  stop : Position
  /-- Where reading goes on. -/
  after : Cursor
  /-- A line was ended after the scalar, before the place where reading goes on. -/
  brokeLine : Bool := false

/-! ## Gaps -/

/-- What stands between two words of a scalar. -/
structure Gap where
  blanks : List Char := []
  /-- The ends of lines. Once there is one, blanks do not count. -/
  breaks : List Char := []

namespace Gap

/-- The gap as part of the text. -/
def text (g : Gap) : List Char :=
  match g.breaks with
  | [] => g.blanks
  | ['\n'] => [' ']
  | '\n' :: rest => rest
  | breaks => breaks

/-- Reads the gap that begins here. A tab that indents a line is reported with its place, if it
stands before column `indent`. -/
def read (indent : Nat) : (fuel : Nat) → Gap → Cursor → Except Cursor (Gap × Cursor)
  | 0, g, c => .ok (g, c)
  | fuel + 1, g, c =>
    match c.next? with
    | none => .ok (g, c)
    | some (ch, after) =>
      if c.nextIs isBreak then read indent fuel { g with breaks := g.breaks ++ [ch] } after
      else if isGap ch then
        if g.breaks.isEmpty then read indent fuel { g with blanks := g.blanks ++ [ch] } after
        else if ch = '\t' ∧ c.position.column < indent then .error c
        else read indent fuel g after
      else .ok (g, c)

end Gap

/-! ## Plain scalars -/

namespace Plain

/-- The character has a meaning of its own between brackets. -/
def isFlowMark (c : Char) : Bool :=
  c = ',' || c = '[' || c = ']' || c = '\x7b' || c = '\x7d'

/-- The characters up to the next gap or mark. Between brackets, a colon right before a mark is an
error; its distance is returned. -/
def word (inFlow : Bool) : List Char → Except Nat (List Char)
  | [] => .ok []
  | c :: rest =>
    if isGap c || isBreak c then .ok []
    else if c = ':' && rest.head?.all fun n => isGap n || isBreak n then .ok []
    else if inFlow && c = ':' && rest.head?.any fun n => isFlowMark n || n = '?' then .error 0
    else if inFlow && isFlowMark c then .ok []
    else
      match word inFlow rest with
      | .ok w => .ok (c :: w)
      | .error n => .error (n + 1)

/-- Reads words and the gaps between them. `text` and `stop` are what was read before `gap`. -/
def read (inFlow : Bool) (indent : Nat) (start : Position) :
    (fuel : Nat) → (text : List Char) → (stop : Position) → Gap → Cursor →
      Except SyntaxError ScalarText
  | 0, text, stop, gap, c => .ok ⟨text, stop, c, !gap.breaks.isEmpty⟩
  | fuel + 1, text, stop, gap, c =>
    let ended : Except SyntaxError ScalarText := .ok ⟨text, stop, c, !gap.breaks.isEmpty⟩
    if c.atDocumentMark || c.nextIs (· = '#') then ended
    else
      match word inFlow c.rest with
      | .error n => .error (.within .unexpectedColon (c.skip n) .plainScalar start)
      | .ok [] => ended
      | .ok w =>
        let after := c.skip w.length
        let text := text ++ gap.text ++ w
        match Gap.read indent after.rest.length {} after with
        | .error tab => .error (.within .tabInIndentation tab .plainScalar start)
        | .ok (gap, next) =>
          -- A line that is indented less belongs to the block around.
          if !inFlow && !gap.breaks.isEmpty && next.position.column < indent then
            .ok ⟨text, after.position, next, true⟩
          else read inFlow indent start fuel text after.position gap next

end Plain

/-- Reads the plain scalar that begins here. Outside brackets it ends with the first line that is
indented less than `indent`. -/
def Cursor.readPlain (c : Cursor) (inFlow : Bool) (indent : Nat) : Except SyntaxError ScalarText :=
  Plain.read inFlow indent c.position c.rest.length [] c.position {} c

/-! ## Quoted scalars -/

namespace Quotes

/-- The character that a letter behind a backslash stands for. -/
def escaped? : Char → Option Char
  | '0' => some '\x00'
  | 'a' => some '\x07'
  | 'b' => some '\x08'
  | 't' => some '\t'
  | '\t' => some '\t'
  | 'n' => some '\n'
  | 'v' => some '\x0b'
  | 'f' => some '\x0c'
  | 'r' => some '\r'
  | 'e' => some '\x1b'
  | ' ' => some ' '
  | '\x22' => some '\x22'
  | '/' => some '/'
  | '\x5c' => some '\x5c'
  | 'N' => some '\u0085'
  | '_' => some '\u00a0'
  | 'L' => some '\u2028'
  | 'P' => some '\u2029'
  | _ => none

/-- The number of hexadecimal digits behind a letter behind a backslash. -/
def digitCount? : Char → Option Nat
  | 'x' => some 2
  | 'u' => some 4
  | 'U' => some 8
  | _ => none

/-- The character with a code point, if there is one. -/
def charOfCode? (n : Nat) : Option Char :=
  if n < 0xD800 ∨ (0xDFFF < n ∧ n < 0x110000) then some (Char.ofNat n) else none

/-- The number written by hexadecimal digits. -/
def hexValue? (digits : List Char) : Option Nat :=
  digits.foldl (fun acc c => acc.bind fun n => (Text.hexDigit? c).map fun d => 16 * n + d) (some 0)

/-- Reads the escape whose backslash stands here. -/
def readEscape (c : Cursor) (start : Position) : Except SyntaxError (Char × Cursor) :=
  match c.ahead 1 with
  | none => .error (.within .unknownEscape c .escape start)
  | some letter =>
    match escaped? letter, digitCount? letter with
    | some ch, _ => .ok (ch, c.skip 2)
    | none, none => .error (.within .unknownEscape c .escape start)
    | none, some count =>
      let digits := (c.rest.drop 2).take count
      match hexValue? digits with
      | none => .error (.within .missingEscapeDigits (c.skip 2) .escape start)
      | some n =>
        if digits.length < count then .error (.within .missingEscapeDigits (c.skip 2) .escape start)
        else
          match charOfCode? n with
          | some ch => .ok (ch, c.skip (2 + count))
          | none => .error (.within .invalidEscapeCode (c.skip 2) .escape start)

/-- Reads the characters up to the next gap or the closing quote. A backslash at the end of a line
ends the characters too, and is told. -/
def readWord (quote : Char) (start : Position) :
    (fuel : Nat) → List Char → Cursor → Except SyntaxError (List Char × Cursor × Bool)
  | 0, text, c => .ok (text, c, false)
  | fuel + 1, text, c =>
    match c.rest with
    | [] => .ok (text, c, false)
    | ch :: rest =>
      if isGap ch || isBreak ch then .ok (text, c, false)
      else if ch = quote then
        -- Two single quotes stand for one.
        if quote = '\x27' ∧ rest.head? = some '\x27' then
          readWord quote start fuel (text ++ ['\x27']) (c.skip 2)
        else .ok (text, c, false)
      else if quote = '\x22' ∧ ch = '\x5c' then
        if rest.head?.any isBreak then .ok (text, c.skip 1, true)
        else do
          let (e, after) ← readEscape c start
          readWord quote start fuel (text ++ [e]) after
      else readWord quote start fuel (text ++ [ch]) (c.skip 1)

/-- The gap after an escaped end of line: the blanks behind it do not count. -/
def gapAfterBreak (c : Cursor) : List Char × Cursor :=
  match c.next? with
  | none => ([], c)
  | some (_, after) =>
    match Gap.read 0 after.rest.length ⟨[], ['\n']⟩ after with
    | .ok (g, next) => (g.breaks.drop 1, next)
    | .error c => ([], c)

/-- Reads a quoted scalar behind its opening quote. -/
def read (quote : Char) (start : Position) :
    (fuel : Nat) → List Char → Cursor → Except SyntaxError ScalarText
  | 0, _, c => .error (.within .unclosedQuote c .quotedScalar start)
  | fuel + 1, text, c =>
    if c.atDocumentMark then .error (.within .documentMarkInQuotes c .quotedScalar start)
    else if c.rest.isEmpty then .error (.within .unclosedQuote c .quotedScalar start)
    else do
      let (text, c, escapedBreak) ← readWord quote start c.rest.length text c
      if escapedBreak then
        let (gap, next) := gapAfterBreak c
        read quote start fuel (text ++ gap) next
      else if c.nextIs (· = quote) then
        let after := c.skip 1
        return ⟨text, after.position, after, false⟩
      else
        match Gap.read 0 c.rest.length {} c with
        | .ok (gap, next) => read quote start fuel (text ++ gap.text) next
        | .error tab => .error (.within .tabInIndentation tab .quotedScalar start)

end Quotes

/-- Reads the quoted scalar whose opening quote stands here. -/
def Cursor.readQuoted (c : Cursor) (quote : Char) : Except SyntaxError ScalarText :=
  Quotes.read quote c.position (c.rest.length + 1) [] (c.skip 1)

/-! ## Block scalars -/

namespace Block

/-- What happens to the ends of lines after the last one with content. -/
inductive Chomping where
  | strip
  | clip
  | keep
  deriving DecidableEq

/-- The header of a block scalar. -/
structure Header where
  chomping : Chomping := .clip
  /-- The indentation in addition to that of the parent, if it is given. -/
  increment : Option Nat := none

/-- The chomping that a character stands for. -/
def chomping? : Char → Option Chomping
  | '-' => some .strip
  | '+' => some .keep
  | _ => none

/-- The increment that a digit stands for. -/
def increment? (c : Char) : Option Nat :=
  if '0' ≤ c ∧ c ≤ '9' then some (c.toNat - 48) else none

/-- Reads the chomping, if it stands here. -/
def readChomping (c : Cursor) : Option Chomping × Cursor :=
  match (c.ahead 0).bind chomping? with
  | some chomping => (some chomping, c.skip 1)
  | none => (none, c)

/-- Reads the increment, if it stands here. -/
def readIncrement (c : Cursor) (start : Position) : Except SyntaxError (Option Nat × Cursor) :=
  match (c.ahead 0).bind increment? with
  | some 0 => .error (.within .zeroIndentation c .blockScalar start)
  | some n => .ok (some n, c.skip 1)
  | none => .ok (none, c)

/-- Reads the header: the chomping and the increment, in any order. -/
def readHeader (c : Cursor) (start : Position) : Except SyntaxError (Header × Cursor) := do
  let (first, c) := readChomping c
  let (increment, c) ← readIncrement c start
  let (chomping, c) := if first.isSome then (first, c) else readChomping c
  return (⟨chomping.getD .clip, increment⟩, c)

/-- Empty lines and the indentation of the line after them. -/
structure Margin where
  breaks : List Char
  /-- The deepest indentation seen. -/
  deepest : Nat
  after : Cursor

/-- Reads empty lines and the indentation behind them, up to column `indent` where it is known. -/
def readMargin (indent : Option Nat) (start : Position) :
    (fuel : Nat) → Margin → Except SyntaxError Margin
  | 0, m => .ok m
  | fuel + 1, m =>
    let depth := indent.map (· - m.after.position.column)
    let spaces := (m.after.rest.takeWhile (· = ' ')).length
    let c := m.after.skip (depth.elim spaces (min spaces))
    let m := { m with deepest := max m.deepest c.position.column, after := c }
    if indent.all (c.position.column < ·) && c.nextIs (· = '\t') then
      .error (.within .tabForIndentation c .blockScalar start)
    else if c.nextIs isBreak then
      match c.next? with
      | some (ch, after) =>
        readMargin indent start fuel { m with breaks := m.breaks ++ [ch], after := after }
      | none => .ok m
    else .ok m

/-- Lines of a block scalar that were read. -/
structure Lines where
  text : List Char := []
  /-- The end of the last line with content. -/
  lastBreak : List Char := []
  /-- The last line began with a blank. -/
  leadingBlank : Bool := false

/-- The text with the breaks before a line that begins with a blank or not. A folded scalar joins
two lines that both do not. -/
def join (folded : Bool) (l : Lines) (breaks : List Char) (blank : Bool) : List Char :=
  if folded && l.lastBreak.head? = some '\n' && !l.leadingBlank && !blank then
    l.text ++ (if breaks.isEmpty then [' '] else breaks)
  else l.text ++ l.lastBreak ++ breaks

/-- Reads lines that are indented by `indent`. -/
def readLines (folded : Bool) (indent : Nat) (start : Position) :
    (fuel : Nat) → Lines → Margin → Except SyntaxError (Lines × Margin)
  | 0, l, m => .ok (l, m)
  | fuel + 1, l, m =>
    let c := m.after
    if c.position.column ≠ indent || c.rest.isEmpty then .ok (l, m)
    else do
      let blank := c.nextIs isGap
      let content := c.rest.takeWhile fun ch => !isBreak ch
      let text := join folded l m.breaks blank ++ content
      let c := c.skip content.length
      let (lastBreak, c) := match c.next? with
        | some (ch, after) => ([ch], after)
        | none => ([], c)
      let m ← readMargin (some indent) start (c.rest.length + 1) ⟨[], 0, c⟩
      readLines folded indent start fuel ⟨text, lastBreak, blank⟩ m

/-- The text of the lines with what the chomping keeps of the end. -/
def chomp (chomping : Chomping) (l : Lines) (breaks : List Char) : List Char :=
  match chomping with
  | .strip => l.text
  | .clip => l.text ++ l.lastBreak
  | .keep => l.text ++ l.lastBreak ++ breaks

end Block

/-- Reads the block scalar whose mark stands here, inside a parent indented by `parent`. -/
def Cursor.readBlock (c : Cursor) (folded : Bool) (parent : Option Nat) :
    Except SyntaxError ScalarText := do
  let start := c.position
  let (header, c) ← Block.readHeader (c.skip 1) start
  let c := c.skipWhile isGap
  let c := if c.nextIs (· = '#') then c.skipLine else c
  if !c.rest.isEmpty && !c.nextIs isBreak then
    throw (.within .textBehindHeader c .blockScalar start)
  let c := (c.next?.map (·.2)).getD c
  let given := header.increment.map fun n => parent.getD 0 + n
  let first ← Block.readMargin given start (c.rest.length + 1) ⟨[], 0, c⟩
  -- Where it is not given, the first line with content tells the indentation.
  let indent := given.getD (max first.deepest (max 1 (parent.elim 0 (· + 1))))
  let (l, m) ← Block.readLines folded indent start (c.rest.length + 1) {} first
  let text := Block.chomp header.chomping l m.breaks
  return ⟨text, m.after.position, m.after, false⟩

end MobileStation.Yaml
