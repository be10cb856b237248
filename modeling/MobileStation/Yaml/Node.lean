import MobileStation.Yaml.Token

/-!
# Nodes

A text as a tree of scalars, sequences and mappings. Where the text goes wrong the tree has a broken
node, and ends there: whoever walks the tree in the order of the text meets every node that was read
before it meets the error.

A node may have a name and be repeated under it. The tree has a reference in that place, so that it
stays as small as the text; `Node.named` finds the nodes that references stand for.
-/

namespace MobileStation.Yaml

/-! ## Nodes -/

/-- Where a node begins, and what is said of it in front of its content. -/
structure Properties where
  start : Position
  /-- The number of its name. -/
  anchor : Option Nat := none
  tag : Option Tag := none
  deriving DecidableEq, Inhabited

/-- A value in a text. -/
inductive Node where
  | scalar (style : Style) (text : String) (properties : Properties)
  | sequence (items : List Node) (properties : Properties)
  | mapping (entries : List (Node × Node)) (properties : Properties)
  /-- The node whose name has this number, once more. -/
  | reference (number : Nat) (start : Position)
  /-- The text goes wrong in place of a node, or in place of the end of the node around it. -/
  | broken (error : SyntaxError)
  deriving Inhabited

namespace Node

/-- Where the node begins. -/
def start : Node → Position
  | scalar _ _ p => p.start
  | sequence _ p => p.start
  | mapping _ p => p.start
  | reference _ start => start
  | broken e => e.position

/-- The tag of the node. -/
def tag? : Node → Option Tag
  | scalar _ _ p => p.tag
  | sequence _ p => p.tag
  | mapping _ p => p.tag
  | reference _ _ => none
  | broken _ => none

/-- A scalar. The tag without a name only tells that it is one. -/
def ofScalar (style : Style) (text : String) (p : Properties) : Node :=
  scalar style text (if p.tag = some (.named (some "")) then { p with tag := none } else p)

/-- The key or the value that is left out at a place. -/
def missing (p : Position) : Node := scalar .plain "" { start := p }

/-! ## Names -/

mutual

/-- The nodes that have names, with the numbers of these, in the order of the text. -/
def named (n : Node) : List (Nat × Node) :=
  match n with
  | scalar _ _ p => (p.anchor.map fun number => (number, n)).toList
  | sequence items p => (p.anchor.map fun number => (number, n)).toList ++ namedItems items
  | mapping entries p => (p.anchor.map fun number => (number, n)).toList ++ namedEntries entries
  | reference _ _ => []
  | broken _ => []

/-- The nodes that have names among the items of a sequence and inside them. -/
def namedItems : List Node → List (Nat × Node)
  | [] => []
  | item :: rest => item.named ++ namedItems rest

/-- The nodes that have names among the keys and values of a mapping and inside them. -/
def namedEntries : List (Node × Node) → List (Nat × Node)
  | [] => []
  | (key, value) :: rest => key.named ++ value.named ++ namedEntries rest

end

/-! ## Reading tokens -/

/-- What was read, and the tokens that follow. After an error, the token of the error follows. -/
abbrev Read (α : Type) := α × List Token

/-- Where the next token begins. -/
def nextStart (tokens : List Token) : Position := (tokens.head?.map Token.start).getD {}

/-- The problem with the next token: none of its own, if that is an error already. -/
def errorAt (problem : Problem) (tokens : List Token) (activity : Activity)
    (start : Option Position) : SyntaxError :=
  match tokens with
  | ⟨.broken e, _, _⟩ :: _ => e
  | _ =>
    let p := nextStart tokens
    ⟨problem, p, some (activity, start.getD p)⟩

/-- A broken node. -/
def stop (e : SyntaxError) : Read Node := (broken e, [.ofError e])

/-- The end of a sequence that breaks off. -/
def stopItems (e : SyntaxError) : Read (List Node) := ([broken e], [.ofError e])

/-- The end of a mapping that breaks off. -/
def stopEntries (e : SyntaxError) : Read (List (Node × Node)) :=
  ([(broken e, broken e)], [.ofError e])

/-- The next token is one of these. -/
def nextIn (tokens : List Token) (kinds : List TokenKind) : Bool :=
  tokens.head?.any fun t => kinds.contains t.kind

/-- Nothing, in front of the next token. -/
def readNothing (tokens : List Token) : Read Node :=
  match tokens with
  | ⟨.broken e, _, _⟩ :: _ => stop e
  | _ => (missing (nextStart tokens), tokens)

/-- What ends an entry of a block mapping. -/
def blockEnds : List TokenKind := [.key, .value, .blockEnd]

/-- What ends the key of an entry in brackets. -/
def flowKeyEnds : List TokenKind := [.value, .flowEntry, .flowMappingEnd]

/-- What ends the key of a pair inside a sequence in brackets. -/
def pairKeyEnds : List TokenKind := [.value, .flowEntry, .flowSequenceEnd]

/-- Passes over the comma between two entries in brackets. There is none in front of the first one,
and none behind the last one is needed. -/
def separator (first : Bool) (ending : TokenKind) (problem : Problem) (activity : Activity)
    (start : Position) (tokens : List Token) : Except SyntaxError (List Token) :=
  match tokens with
  | ⟨.flowEntry, _, _⟩ :: rest => if first then .ok tokens else .ok rest
  | _ =>
    if first || nextIn tokens [ending] then .ok tokens
    else .error (errorAt problem tokens activity (some start))

/-- Splits off a name and a tag in any order. -/
def splitProperties (tokens : List Token) :
    Option Nat × Option (TagText × Position) × List Token :=
  match tokens with
  | ⟨.anchor n, _, _⟩ :: ⟨.tag t, p, _⟩ :: rest => (some n, some (t, p), rest)
  | ⟨.tag t, p, _⟩ :: ⟨.anchor n, _, _⟩ :: rest => (some n, some (t, p), rest)
  | ⟨.anchor n, _, _⟩ :: rest => (some n, none, rest)
  | ⟨.tag t, p, _⟩ :: rest => (none, some (t, p), rest)
  | _ => (none, none, tokens)

/-- Reads the name and the tag of the node that begins here. -/
def readProperties (shorthands : List Shorthand) (tokens : List Token) :
    Except SyntaxError (Properties × List Token) :=
  let start := nextStart tokens
  match splitProperties tokens with
  | (_, _, ⟨.broken e, _, _⟩ :: _) => .error e
  | (anchor, none, rest) => .ok (⟨start, anchor, none⟩, rest)
  | (anchor, some (text, p), rest) =>
    match text.resolve? shorthands with
    | some tag => .ok (⟨start, anchor, some tag⟩, rest)
    | none => .error ⟨.undefinedHandle, p, some (.node, start)⟩

mutual

/-- Reads a node. -/
def read (shorthands : List Shorthand) (inFlow unindented : Bool) :
    (fuel : Nat) → List Token → Read Node
  | 0, tokens => stop (errorAt .noNode tokens .blockNode none)
  | fuel + 1, tokens =>
    match tokens with
    | ⟨.reference (some number), p, _⟩ :: rest => (reference number p, rest)
    | ⟨.reference none, p, _⟩ :: _ => stop ⟨.unknownAnchor, p, none⟩
    | _ =>
      match readProperties shorthands tokens with
      | .ok (p, rest) => readContent shorthands inFlow unindented p fuel rest
      | .error e => stop e

/-- Reads what follows the name and the tag of a node. Only outside brackets may it be a block, and
only behind a key a sequence that is not indented. With a name or a tag, it may be missing. -/
def readContent (shorthands : List Shorthand) (inFlow unindented : Bool) (p : Properties) :
    (fuel : Nat) → List Token → Read Node
  | 0, tokens => stop (errorAt .noNode tokens .blockNode none)
  | fuel + 1, tokens =>
    let noContent : Read Node :=
      if p.anchor.isSome || p.tag.isSome then (scalar .plain "" p, tokens)
      else stop (errorAt .noNode tokens (if inFlow then .flowNode else .blockNode) none)
    match tokens with
    | [] => noContent
    | t :: rest =>
      match t.kind with
      | .scalar style text => (ofScalar style text p, rest)
      | .flowSequenceStart =>
        let (items, rest) := readFlowSequence shorthands true t.start fuel rest
        (sequence items p, rest)
      | .flowMappingStart =>
        let (entries, rest) := readFlowMapping shorthands true t.start fuel rest
        (mapping entries p, rest)
      | .blockSequenceStart =>
        if inFlow then noContent
        else
          let (items, rest) := readBlockSequence shorthands t.start fuel rest
          (sequence items p, rest)
      | .blockMappingStart =>
        if inFlow then noContent
        else
          let (entries, rest) := readBlockMapping shorthands t.start fuel rest
          (mapping entries p, rest)
      | .blockEntry =>
        if unindented then
          let (items, rest) := readUnindented shorthands fuel tokens
          (sequence items p, rest)
        else noContent
      | _ => noContent

/-- Reads a node outside brackets, or nothing if one of `ends` comes next. Then it is missing at
`place`. -/
def readUnless (shorthands : List Shorthand) (ends : List TokenKind) (unindented : Bool)
    (place : Position) : (fuel : Nat) → List Token → Read Node
  | 0, tokens => stop (errorAt .noNode tokens .blockNode none)
  | fuel + 1, tokens =>
    if nextIn tokens ends then (missing place, tokens)
    else read shorthands false unindented fuel tokens

/-- Reads a node inside brackets, or nothing if one of `ends` comes next. -/
def readFlowUnless (shorthands : List Shorthand) (ends : List TokenKind) :
    (fuel : Nat) → List Token → Read Node
  | 0, tokens => stop (errorAt .noNode tokens .flowNode none)
  | fuel + 1, tokens =>
    if nextIn tokens ends then readNothing tokens else read shorthands true false fuel tokens

/-- Reads the entries of an indented sequence and its end. -/
def readBlockSequence (shorthands : List Shorthand) (start : Position) :
    (fuel : Nat) → List Token → Read (List Node)
  | 0, tokens => stopItems (errorAt .noEntry tokens .blockSequence (some start))
  | fuel + 1, tokens =>
    match tokens with
    | ⟨.blockEnd, _, _⟩ :: rest => ([], rest)
    | ⟨.blockEntry, _, stop⟩ :: rest =>
      let (item, rest) := readUnless shorthands [.blockEntry, .blockEnd] false stop fuel rest
      let (items, rest) := readBlockSequence shorthands start fuel rest
      (item :: items, rest)
    | _ => stopItems (errorAt .noEntry tokens .blockSequence (some start))

/-- Reads the entries of a sequence that is not indented. It ends with the first other token. -/
def readUnindented (shorthands : List Shorthand) : (fuel : Nat) → List Token → Read (List Node)
  | 0, tokens => ([], tokens)
  | fuel + 1, tokens =>
    match tokens with
    | ⟨.blockEntry, _, stop⟩ :: rest =>
      let (item, rest) := readUnless shorthands (.blockEntry :: blockEnds) false stop fuel rest
      let (items, rest) := readUnindented shorthands fuel rest
      (item :: items, rest)
    | ⟨.broken e, _, _⟩ :: _ => stopItems e
    | _ => ([], tokens)

/-- Reads the entries of an indented mapping and its end. -/
def readBlockMapping (shorthands : List Shorthand) (start : Position) :
    (fuel : Nat) → List Token → Read (List (Node × Node))
  | 0, tokens => stopEntries (errorAt .noKey tokens .blockMapping (some start))
  | fuel + 1, tokens =>
    match tokens with
    | ⟨.blockEnd, _, _⟩ :: rest => ([], rest)
    | ⟨.key, _, stop⟩ :: rest =>
      let (key, rest) := readUnless shorthands blockEnds true stop fuel rest
      let (value, rest) := readBlockValue shorthands fuel rest
      let (entries, rest) := readBlockMapping shorthands start fuel rest
      ((key, value) :: entries, rest)
    | _ => stopEntries (errorAt .noKey tokens .blockMapping (some start))

/-- Reads the value behind a key of an indented mapping. -/
def readBlockValue (shorthands : List Shorthand) : (fuel : Nat) → List Token → Read Node
  | 0, tokens => stop (errorAt .noNode tokens .blockNode none)
  | fuel + 1, tokens =>
    match tokens with
    | ⟨.value, _, stop⟩ :: rest => readUnless shorthands blockEnds true stop fuel rest
    | _ => readNothing tokens

/-- Reads the value behind a key in brackets. -/
def readFlowValue (shorthands : List Shorthand) (ending : TokenKind) :
    (fuel : Nat) → List Token → Read Node
  | 0, tokens => stop (errorAt .noNode tokens .flowNode none)
  | fuel + 1, tokens =>
    match tokens with
    | ⟨.value, _, _⟩ :: rest => readFlowUnless shorthands [.flowEntry, ending] fuel rest
    | _ => readNothing tokens

/-- Reads the key of a pair inside a sequence in brackets. A key that is missing takes the token
that ends it. -/
def readPairKey (shorthands : List Shorthand) : (fuel : Nat) → List Token → Read Node
  | 0, tokens => stop (errorAt .noNode tokens .flowNode none)
  | fuel + 1, tokens =>
    match tokens with
    | t :: rest =>
      if pairKeyEnds.contains t.kind then (missing t.stop, rest)
      else read shorthands true false fuel tokens
    | [] => readNothing tokens

/-- Reads the entries of a sequence in brackets and its end. -/
def readFlowSequence (shorthands : List Shorthand) (first : Bool) (start : Position) :
    (fuel : Nat) → List Token → Read (List Node)
  | 0, tokens => stopItems (errorAt .unclosedSequence tokens .flowSequence (some start))
  | fuel + 1, tokens =>
    match separator first .flowSequenceEnd .unclosedSequence .flowSequence start tokens with
    | .error e => stopItems e
    | .ok tokens =>
      match tokens with
      | ⟨.flowSequenceEnd, _, _⟩ :: rest => ([], rest)
      | ⟨.key, p, _⟩ :: rest =>
        -- A pair in a sequence is a mapping with this one entry.
        let (key, rest) := readPairKey shorthands fuel rest
        let (value, rest) := readFlowValue shorthands .flowSequenceEnd fuel rest
        let (items, rest) := readFlowSequence shorthands false start fuel rest
        (mapping [(key, value)] { start := p } :: items, rest)
      | _ =>
        let (item, rest) := read shorthands true false fuel tokens
        let (items, rest) := readFlowSequence shorthands false start fuel rest
        (item :: items, rest)

/-- Reads the entries of a mapping in brackets and its end. -/
def readFlowMapping (shorthands : List Shorthand) (first : Bool) (start : Position) :
    (fuel : Nat) → List Token → Read (List (Node × Node))
  | 0, tokens => stopEntries (errorAt .unclosedMapping tokens .flowMapping (some start))
  | fuel + 1, tokens =>
    match separator first .flowMappingEnd .unclosedMapping .flowMapping start tokens with
    | .error e => stopEntries e
    | .ok tokens =>
      match tokens with
      | ⟨.flowMappingEnd, _, _⟩ :: rest => ([], rest)
      | ⟨.key, _, _⟩ :: rest =>
        let (key, rest) := readFlowUnless shorthands flowKeyEnds fuel rest
        let (value, rest) := readFlowValue shorthands .flowMappingEnd fuel rest
        let (entries, rest) := readFlowMapping shorthands false start fuel rest
        ((key, value) :: entries, rest)
      | _ =>
        -- An entry without the mark of a key has no value.
        let (key, rest) := read shorthands true false fuel tokens
        let (value, rest) := readNothing rest
        let (entries, rest) := readFlowMapping shorthands false start fuel rest
        ((key, value) :: entries, rest)

end

end Node

/-! ## Documents -/

/-- A text with a single node. -/
structure Document where
  root : Node
  /-- What is wrong behind the root. -/
  defect : Option SyntaxError := none

namespace Document

/-- What is wrong behind the root: the text goes wrong right there, or a second document starts. -/
def defectIn (tokens : List Token) : Option SyntaxError :=
  match tokens with
  | ⟨.broken e, _, _⟩ :: _ => some e
  | _ =>
    if Node.nextIn (tokens.dropWhile fun t => t.kind = .documentEnd) [.textEnd] then none
    else some ⟨.severalDocuments, {}, none⟩

/-- What the directives in front of a document say. -/
structure Prologue where
  hasVersion : Bool := false
  shorthands : List Shorthand := []

namespace Prologue

/-- There are no directives. -/
def isEmpty (p : Prologue) : Bool := !p.hasVersion && p.shorthands.isEmpty

/-- The version is one of those that can be read. -/
def isReadable (major minor : Nat) : Bool := major = 1 && (minor = 1 || minor = 2)

/-- Takes in a directive that stands at `place`. -/
def add (p : Prologue) (place : Position) : Directive → Except SyntaxError Prologue
  | .version major minor =>
    if p.hasVersion then .error ⟨.duplicateVersion, place, none⟩
    else if !isReadable major minor then .error ⟨.incompatibleVersion, place, none⟩
    else .ok { p with hasVersion := true }
  | .shorthand s =>
    if p.shorthands.any (·.handle == s.handle) then .error ⟨.duplicateHandle, place, none⟩
    else .ok { p with shorthands := p.shorthands ++ [s] }

/-- Reads directives. -/
def read (p : Prologue) : List Token → Except SyntaxError (Prologue × List Token)
  | ⟨.directive d, place, _⟩ :: rest => do (← p.add place d).read rest
  | tokens => .ok (p, tokens)

end Prologue

/-- Reads the root behind the mark that starts a document. It may be missing. -/
def readContent (shorthands : List Shorthand) (tokens : List Token) : Node.Read Node :=
  match tokens with
  | ⟨.directive _, _, _⟩ :: _ => Node.readNothing tokens
  | _ =>
    if Node.nextIn tokens [.documentStart, .documentEnd, .textEnd] then Node.readNothing tokens
    else Node.read shorthands false false (4 * tokens.length + 4) tokens

/-- Reads the root, which may be missing in an empty text and behind the mark that starts a
document. Behind directives there has to be such a mark. -/
def readRoot (tokens : List Token) : Node.Read Node :=
  match Prologue.read {} tokens with
  | .error e => Node.stop e
  | .ok (prologue, rest) =>
    let shorthands := prologue.shorthands ++ Shorthand.standard
    match rest with
    | ⟨.broken e, _, _⟩ :: _ => Node.stop e
    | ⟨.documentStart, _, _⟩ :: rest => readContent shorthands rest
    | _ =>
      if !prologue.isEmpty then Node.stop ⟨.noDocumentStart, Node.nextStart rest, none⟩
      else if Node.nextIn rest [.textEnd] then Node.readNothing rest
      else Node.read shorthands false false (4 * rest.length + 4) rest

/-- The document in a text. -/
def ofText (text : String) : Document :=
  let (root, rest) := readRoot (Token.ofText text)
  ⟨root, defectIn rest⟩

end Document

end MobileStation.Yaml
