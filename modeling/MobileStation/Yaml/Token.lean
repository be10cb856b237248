import MobileStation.Yaml.Directive
import MobileStation.Yaml.Scalar

/-!
# Tokens

A text as a sequence of marks and scalars. The indentation of a block and the beginning of a
mapping have no mark of their own in the text; they are tokens too, so that what comes after need
not look at columns. That a scalar is a key is known only at the colon behind it; its tokens are put
in then.

A text that goes wrong somewhere still has the tokens before that place, as far as they were settled
when the last token in order was complete. Its last token is the error.
-/

namespace MobileStation.Yaml

/-! ## Tokens -/

/-- What a token is. -/
inductive TokenKind where
  | documentStart
  | documentEnd
  | textEnd
  | blockSequenceStart
  | blockMappingStart
  | blockEnd
  | flowSequenceStart
  | flowSequenceEnd
  | flowMappingStart
  | flowMappingEnd
  | blockEntry
  | flowEntry
  | key
  | value
  | scalar (style : Style) (text : String)
  /-- A name of the node that follows, as a number. -/
  | anchor (number : Nat)
  /-- The node whose name has this number once more. The name may be unknown. -/
  | reference (number : Option Nat)
  | tag (tag : TagText)
  | directive (directive : Directive)
  /-- The text goes wrong here. -/
  | broken (error : SyntaxError)
  deriving DecidableEq, Inhabited

/-- A token with its place. -/
structure Token where
  kind : TokenKind
  start : Position
  stop : Position
  deriving DecidableEq, Inhabited

/-- The token that stands for an error. -/
def Token.ofError (e : SyntaxError) : Token := ⟨.broken e, e.position, e.position⟩

/-! ## State -/

/-- A token that will be a key if a colon follows. -/
structure PossibleKey where
  /-- A colon has to follow. -/
  required : Bool
  /-- Number of tokens before it. -/
  tokenIndex : Nat
  position : Position
  index : Nat

/-- A text that was turned into tokens up to a cursor. -/
structure TokenState where
  cursor : Cursor
  tokens : Array Token := #[]
  /-- Columns of the open blocks, the innermost first. -/
  indents : List Nat := []
  /-- The possible key of every open bracket, the innermost first, and that outside of all. -/
  keys : List (Option PossibleKey) := [none]
  /-- A key may begin here. -/
  keyAllowed : Bool := true
  /-- The names of nodes with their numbers, the latest first. -/
  names : List (String × Nat) := []
  /-- Number of the tokens that were settled before the token that is being read. -/
  settled : Nat := 0

/-- Why reading stopped, and the tokens before that place. -/
structure Interrupted where
  error : SyntaxError
  tokens : List Token

/-- A result of reading, or why it stopped. -/
abbrev Reading := Except Interrupted

namespace TokenState

/-- Inside brackets. -/
def inFlow (s : TokenState) : Bool := s.keys.length > 1

/-- The column is inside the innermost block. -/
def isDeeper (s : TokenState) (column : Nat) : Bool := s.indents.head?.all (· < column)

/-- The first column inside the innermost block. -/
def contentColumn (s : TokenState) : Nat := s.indents.head?.elim 0 (· + 1)

/-- Adds a token without extent. -/
def push (s : TokenState) (kind : TokenKind) (p : Position) : TokenState :=
  { s with tokens := s.tokens.push ⟨kind, p, p⟩ }

/-- Adds a mark of `length` characters and passes over it. -/
def pushMark (s : TokenState) (kind : TokenKind) (length : Nat) : TokenState :=
  let after := s.cursor.skip length
  { s with
    tokens := s.tokens.push ⟨kind, s.cursor.position, after.position⟩
    cursor := after }

/-! ## Errors -/

/-- Number of the tokens that no key can be put in front of any more. -/
def settledCount (s : TokenState) : Nat :=
  s.keys.foldl (fun n key => key.elim n fun k => min n k.tokenIndex) s.tokens.size

/-- Completes a token: notes which tokens are settled now. -/
def settle (s : TokenState) : TokenState := { s with settled := s.settledCount }

/-- Stops reading. Only the tokens that were settled before the last one remain. -/
def stop {α : Type} (s : TokenState) (e : SyntaxError) : Reading α :=
  .error ⟨e, s.tokens.toList.take s.settled⟩

/-- Stops with a problem at the cursor. -/
def fail {α : Type} (s : TokenState) (problem : Problem) : Reading α :=
  s.stop ⟨problem, s.cursor.position, none⟩

/-- What was read at the cursor, or a stop there. -/
def lift {α : Type} (s : TokenState) : Except SyntaxError α → Reading α
  | .ok a => .ok a
  | .error e => s.stop e

/-! ## Blocks -/

/-- Closes the blocks that `column` is not inside of, all of them without a column. -/
def closeBlocks (s : TokenState) (column : Option Nat) : TokenState :=
  -- Inside brackets columns mean nothing.
  if s.inFlow then s
  else
    let closed := s.indents.takeWhile fun i => column.all (· < i)
    let ends := closed.map fun _ => ⟨.blockEnd, s.cursor.position, s.cursor.position⟩
    { s with indents := s.indents.drop closed.length, tokens := s.tokens ++ ends.toArray }

/-- Opens a block at `column`, if that is inside the innermost one. Its token goes in front of the
token with number `index`. -/
def openBlock (s : TokenState) (kind : TokenKind) (column index : Nat) (p : Position) :
    TokenState :=
  if !s.inFlow && s.isDeeper column then
    { s with
      indents := column :: s.indents
      tokens := s.tokens.insertIdxIfInBounds index ⟨kind, p, p⟩ }
  else s

/-- Opens a block at the cursor. -/
def openBlockHere (s : TokenState) (kind : TokenKind) : TokenState :=
  s.openBlock kind s.cursor.position.column s.tokens.size s.cursor.position

/-! ## Keys -/

/-- The error that a key has no colon. -/
def missingColon {α : Type} (s : TokenState) (key : PossibleKey) : Reading α :=
  s.stop (.within .keyWithoutColon s.cursor .simpleKey key.position)

/-- Most characters between a key and its colon. -/
def keyLimit : Nat := 1024

/-- A key and its colon stand in the same line, not too far apart. -/
def isStale (s : TokenState) (key : PossibleKey) : Bool :=
  key.position.line < s.cursor.position.line || key.index + keyLimit < s.cursor.index

/-- Gives up the possible key if it holds of `p`. A required one is an error then. -/
def dropKey (s : TokenState) (p : PossibleKey → Bool) (key : Option PossibleKey) :
    Reading (Option PossibleKey) :=
  match key with
  | some key =>
    if !p key then .ok (some key)
    else if key.required then s.missingColon key
    else .ok none
  | none => .ok none

/-- Gives up the keys that can no longer be keys. -/
def dropStaleKeys (s : TokenState) : Reading TokenState := do
  let keys ← s.keys.mapM (s.dropKey s.isStale)
  return { s with keys := keys }

/-- Gives up the key inside the innermost bracket. -/
def dropLastKey (s : TokenState) : Reading TokenState :=
  match s.keys with
  | key :: outer => do
    let _ ← s.dropKey (fun _ => true) key
    return { s with keys := none :: outer }
  | [] => .ok s

/-- Notes that the token that begins here may be a key. -/
def noteKey (s : TokenState) : Reading TokenState :=
  if !s.keyAllowed then .ok s
  else do
    let s ← s.dropLastKey
    let p := s.cursor.position
    -- What begins at the column of the open block can be nothing but a key.
    let key : PossibleKey :=
      ⟨!s.inFlow && s.indents.head? = some p.column, s.tokens.size, p, s.cursor.index⟩
    return { s with keys := some key :: s.keys.drop 1 }

/-! ## Marks -/

/-- Closes all blocks and adds a document mark. -/
def readDocumentMark (s : TokenState) : Reading TokenState := do
  let s ← (s.closeBlocks none).dropLastKey
  let kind := if s.cursor.nextIs (· = '-') then .documentStart else .documentEnd
  return { s with keyAllowed := false }.pushMark kind 3

/-- Opens a bracket. -/
def readFlowStart (s : TokenState) (kind : TokenKind) : Reading TokenState := do
  let s ← s.noteKey
  return { s with keys := none :: s.keys, keyAllowed := true }.pushMark kind 1

/-- Closes a bracket. -/
def readFlowEnd (s : TokenState) (kind : TokenKind) : Reading TokenState := do
  let s ← s.dropLastKey
  let keys := if s.inFlow then s.keys.drop 1 else s.keys
  return { s with keys := keys, keyAllowed := false }.pushMark kind 1

/-- Reads the comma between entries in brackets. -/
def readFlowEntry (s : TokenState) : Reading TokenState := do
  let s ← s.dropLastKey
  return { s with keyAllowed := true }.pushMark .flowEntry 1

/-- Reads the dash in front of an entry of a block. -/
def readBlockEntry (s : TokenState) : Reading TokenState :=
  if !s.inFlow && !s.keyAllowed then s.fail .entryOutOfPlace
  else do
    let s ← (s.openBlockHere .blockSequenceStart).dropLastKey
    return { s with keyAllowed := true }.pushMark .blockEntry 1

/-- Reads the question mark in front of a key. -/
def readKey (s : TokenState) : Reading TokenState :=
  if !s.inFlow && !s.keyAllowed then s.fail .keyOutOfPlace
  else do
    let s ← (s.openBlockHere .blockMappingStart).dropLastKey
    return { s with keyAllowed := !s.inFlow }.pushMark .key 1

/-- Reads the colon in front of a value. The token noted as a possible key is one. -/
def readValue (s : TokenState) : Reading TokenState :=
  match s.keys with
  | some key :: outer =>
    -- The key is among the tokens already: its mark goes in front of it, and the start of the
    -- mapping in front of both.
    let s := { s with
      keys := none :: outer
      tokens := s.tokens.insertIdxIfInBounds key.tokenIndex ⟨.key, key.position, key.position⟩
      keyAllowed := false }
    .ok ((s.openBlock .blockMappingStart key.position.column key.tokenIndex key.position).pushMark
      .value 1)
  | _ =>
    if s.inFlow then .ok ({ s with keyAllowed := false }.pushMark .value 1)
    else if !s.keyAllowed then s.fail .valueOutOfPlace
    else .ok ({ s.openBlockHere .blockMappingStart with keyAllowed := true }.pushMark .value 1)

/-! ## Names, tags and directives -/

/-- Adds a token that ends at another cursor, and goes on there. -/
def pushUpTo (s : TokenState) (kind : TokenKind) (after : Cursor) : TokenState :=
  { s with
    tokens := s.tokens.push ⟨kind, s.cursor.position, after.position⟩
    cursor := after }

/-- Reads the name that a node is given. A name that is given again gets the number that a new one
would get. -/
def readAnchor (s : TokenState) : Reading TokenState := do
  let s ← s.noteKey
  let (name, after) ← s.lift (s.cursor.readName .anchor)
  let number := s.names.length
  let names := (name, number) :: s.names.filter (·.1 ≠ name)
  return { s with names := names, keyAllowed := false }.pushUpTo (.anchor number) after

/-- Reads the name of a node that is repeated. -/
def readAlias (s : TokenState) : Reading TokenState := do
  let s ← s.noteKey
  let (name, after) ← s.lift (s.cursor.readName .reference)
  let number := (s.names.find? (·.1 == name)).map (·.2)
  return { s with keyAllowed := false }.pushUpTo (.reference number) after

/-- Reads a tag. -/
def readTag (s : TokenState) : Reading TokenState := do
  let s ← s.noteKey
  let (tag, after) ← s.lift (s.cursor.readTag s.inFlow)
  return { s with keyAllowed := false }.pushUpTo (.tag tag) after

/-- Closes all blocks and reads a directive. -/
def readDirective (s : TokenState) : Reading TokenState := do
  let s ← (s.closeBlocks none).dropLastKey
  let (directive, after) ← s.lift s.cursor.readDirective
  return { s with keyAllowed := false }.pushUpTo (.directive directive) after

/-! ## Scalars -/

/-- Adds a scalar. -/
def pushScalar (s : TokenState) (style : Style) (r : ScalarText) : TokenState :=
  { s with
    tokens := s.tokens.push
      ⟨.scalar style (String.ofList r.text), s.cursor.position, r.stop⟩
    cursor := r.after }

/-- Reads a plain scalar. A key may follow on the next line. -/
def readPlain (s : TokenState) : Reading TokenState := do
  let s ← s.noteKey
  let r ← s.lift (s.cursor.readPlain s.inFlow s.contentColumn)
  return { s with keyAllowed := r.brokeLine }.pushScalar .plain r

/-- Reads a quoted scalar. -/
def readQuoted (s : TokenState) (quote : Char) : Reading TokenState := do
  let s ← s.noteKey
  let r ← s.lift (s.cursor.readQuoted quote)
  return { s with keyAllowed := false }.pushScalar .quoted r

/-- Reads a block scalar. -/
def readBlock (s : TokenState) (folded : Bool) : Reading TokenState := do
  let s ← s.dropLastKey
  let r ← s.lift (s.cursor.readBlock folded s.indents.head?)
  return { s with keyAllowed := true }.pushScalar (if folded then .folded else .literal) r

/-! ## The text -/

/-- A plain scalar begins here. -/
def plainStarts (s : TokenState) (c : Char) : Bool :=
  if c = '-' then !(s.cursor.ahead 1).any isGap
  else if c = '?' ∨ c = ':' then !s.inFlow && !s.cursor.endsWordAt 1
  else !(isGap c || isBreak c || [',', '[', ']', '\x7b', '\x7d', '#', '&', '*', '!', '|', '>',
    '\x27', '\x22', '%', '@', '\x60'].contains c)

/-- Reads the token that begins with `c`. -/
def readToken (s : TokenState) (c : Char) : Reading TokenState :=
  -- A directive and a document mark are told by their column, before the marks they begin with.
  if c = '%' && s.cursor.position.column = 0 then s.readDirective
  else if s.cursor.atDocumentMark then s.readDocumentMark
  else if c = '[' then s.readFlowStart .flowSequenceStart
  else if c = '\x7b' then s.readFlowStart .flowMappingStart
  else if c = ']' then s.readFlowEnd .flowSequenceEnd
  else if c = '\x7d' then s.readFlowEnd .flowMappingEnd
  else if c = ',' then s.readFlowEntry
  else if c = '-' && s.cursor.endsWordAt 1 then s.readBlockEntry
  else if c = '?' && (s.inFlow || s.cursor.endsWordAt 1) then s.readKey
  else if c = ':' && (s.inFlow || s.cursor.endsWordAt 1) then s.readValue
  else if c = '*' then s.readAlias
  else if c = '&' then s.readAnchor
  else if c = '!' then s.readTag
  else if c = '|' && !s.inFlow then s.readBlock false
  else if c = '>' && !s.inFlow then s.readBlock true
  else if c = '\x27' || c = '\x22' then s.readQuoted c
  else if s.plainStarts c then s.readPlain
  else s.stop (.within .noToken s.cursor .token s.cursor.position)

/-- Passes over blanks, comments and ends of lines. A key may begin on a new line outside
brackets. -/
def skipToToken : (fuel : Nat) → TokenState → TokenState
  | 0, s => s
  | fuel + 1, s =>
    -- Where a key may begin, a tab would pass for indentation.
    let blank := fun c => c = ' ' || (c = '\t' && (s.inFlow || !s.keyAllowed))
    let c := s.cursor.skipOrderMark.skipWhile blank
    let c := if c.nextIs (· = '#') then c.skipLine else c
    if c.nextIs isBreak then
      match c.next? with
      | some (_, after) =>
        skipToToken fuel { s with cursor := after, keyAllowed := s.keyAllowed || !s.inFlow }
      | none => { s with cursor := c }
    else { s with cursor := c }

/-- Ends the text: closes all blocks. -/
def finish (s : TokenState) : Reading (List Token) := do
  let p := s.cursor.position
  -- The end of the text counts as the beginning of a line.
  let p := if p.column = 0 then p else ⟨p.line + 1, 0⟩
  let s := { s with cursor := { s.cursor with position := p } }
  let s ← (s.closeBlocks none).dropLastKey
  let s ← (s.push .textEnd p).dropStaleKeys
  return s.tokens.toList

/-- Reads all tokens. -/
def readAll : (fuel : Nat) → TokenState → Reading (List Token)
  | 0, s => s.finish
  | fuel + 1, s => do
    -- A key may go stale in the blanks before a token, and again in the token itself.
    let s ← (skipToToken (s.cursor.rest.length + 1) s).dropStaleKeys
    match s.cursor.rest with
    | [] => (s.closeBlocks (some s.cursor.position.column)).finish
    | c :: _ =>
      let s ← (s.closeBlocks (some s.cursor.position.column)).readToken c
      let s ← s.dropStaleKeys
      readAll fuel s.settle

end TokenState

/-- The octets before the first character that is not allowed. -/
def forbiddenOffset? (cs : List Char) : Option Nat :=
  if cs.all isAllowed then none
  else some (octetCount (cs.takeWhile isAllowed))

/-- The tokens of a text. The last one is the end of the text, or where it goes wrong. -/
def Token.ofText (text : String) : List Token :=
  let cs := text.toList
  match forbiddenOffset? cs with
  | some offset => [.ofError ⟨.controlCharacter offset, {}, none⟩]
  | none =>
    match TokenState.readAll (cs.length + 1) { cursor := { rest := cs } } with
    | .ok tokens => tokens
    | .error stopped => stopped.tokens ++ [.ofError stopped.error]

end MobileStation.Yaml
