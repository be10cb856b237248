import MobileStation.Yaml.Error

/-!
# Cursors

A place in a text with the characters that follow it. A cursor moves over one character at a time
and keeps count of lines and columns.
-/

namespace MobileStation.Yaml

/-! ## Classes of characters -/

/-- The character ends a line. -/
def isBreak (c : Char) : Bool :=
  c = '\n' || c = '\r' || c = '\u0085' || c = '\u2028' || c = '\u2029'

/-- The character separates words within a line. -/
def isGap (c : Char) : Bool := c = ' ' || c = '\t'

/-- The character may stand in a text. -/
def isAllowed (c : Char) : Bool :=
  let n := c.toNat
  n = 9 || n = 10 || n = 13 || (0x20 ≤ n && n ≤ 0x7E) || n = 0x85 || (0xA0 ≤ n && n ≤ 0xD7FF) ||
    (0xE000 ≤ n && n ≤ 0xFFFD) || 0x10000 ≤ n

/-- Number of octets of characters. -/
def octetCount : List Char → Nat
  | [] => 0
  | c :: rest => c.utf8Size + octetCount rest

/-! ## Cursors -/

/-- A place in a text. -/
structure Cursor where
  /-- What follows. -/
  rest : List Char
  position : Position := {}
  /-- Number of octets before the place. -/
  index : Nat := 0

namespace Cursor

/-- The character `n` places ahead. -/
def ahead (c : Cursor) (n : Nat) : Option Char := c.rest[n]?

/-- The next character satisfies `p`. -/
def nextIs (c : Cursor) (p : Char → Bool) : Bool := c.rest.head?.any p

/-- The character `n` places ahead is a gap, ends a line, or does not exist. -/
def endsWordAt (c : Cursor) (n : Nat) : Bool :=
  (c.ahead n).all fun ch => isGap ch || isBreak ch

/-- Takes one character. The end of a line counts as one character, a line feed, however it is
written; the separators of lines and paragraphs are kept. -/
def next? (c : Cursor) : Option (Char × Cursor) :=
  match c.rest with
  | [] => none
  | '\r' :: '\n' :: rest => some ('\n', ⟨rest, ⟨c.position.line + 1, 0⟩, c.index + 2⟩)
  | ch :: rest =>
    if isBreak ch then
      let shown := if ch = '\u2028' ∨ ch = '\u2029' then ch else '\n'
      some (shown, ⟨rest, ⟨c.position.line + 1, 0⟩, c.index + ch.utf8Size⟩)
    else some (ch, ⟨rest, ⟨c.position.line, c.position.column + 1⟩, c.index + ch.utf8Size⟩)

/-- Passes over `n` characters of the same line. -/
def skip (c : Cursor) (n : Nat) : Cursor :=
  ⟨c.rest.drop n, ⟨c.position.line, c.position.column + n⟩, c.index + octetCount (c.rest.take n)⟩

/-- Passes over the characters of the line that satisfy `p`. -/
def skipWhile (c : Cursor) (p : Char → Bool) : Cursor :=
  c.skip (c.rest.takeWhile fun ch => p ch && !isBreak ch).length

/-- Passes over the rest of the line, up to its end. -/
def skipLine (c : Cursor) : Cursor := c.skipWhile fun _ => true

/-- Passes over a mark of the octet order at the start of a line. -/
def skipOrderMark (c : Cursor) : Cursor :=
  if c.position.column = 0 && c.nextIs (· = '\uFEFF') then c.skip 1 else c

/-- Three dashes or three dots stand here, at the start of a line, as a word of their own. -/
def atDocumentMark (c : Cursor) : Bool :=
  c.position.column = 0 &&
    (['-', '-', '-'].isPrefixOf c.rest || ['.', '.', '.'].isPrefixOf c.rest) && c.endsWordAt 3

end Cursor

/-- An error at a cursor while `activity`, which began at `start`. -/
def SyntaxError.within (problem : Problem) (c : Cursor) (activity : Activity) (start : Position) :
    SyntaxError :=
  ⟨problem, c.position, some (activity, start)⟩

end MobileStation.Yaml
