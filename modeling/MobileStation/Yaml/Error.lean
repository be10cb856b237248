/-!
# Errors in structured text

Where in a text something is, and why a text is not well formed.
-/

namespace MobileStation.Yaml

/-! ## Positions -/

/-- A place in a text, both counted from zero. -/
structure Position where
  line : Nat := 0
  column : Nat := 0
  deriving DecidableEq, Inhabited

namespace Position

/-- The place in words, nothing for the start of the text. -/
def text (p : Position) : String :=
  if p = {} then "" else s!" at line {p.line + 1} column {p.column + 1}"

end Position

/-! ## Causes -/

/-- What is wrong with a text. -/
inductive Problem where
  /-- The character at this octet is not allowed in a text at all. -/
  | controlCharacter (offset : Nat)
  | noToken
  | keyWithoutColon
  | entryOutOfPlace
  | keyOutOfPlace
  | valueOutOfPlace
  | unexpectedColon
  | tabInIndentation
  | documentMarkInQuotes
  | unclosedQuote
  | unknownEscape
  | missingEscapeDigits
  | invalidEscapeCode
  | zeroIndentation
  | textBehindHeader
  | tabForIndentation
  | noNode
  | noEntry
  | noKey
  | unclosedSequence
  | unclosedMapping
  /-- An anchor or a reference without a name, or with one that does not end as names do. -/
  | invalidName
  | unknownAnchor
  | noTagMark
  | noTagText
  | noTagOctet
  | invalidLeadingOctet
  | invalidTrailingOctet
  | unclosedTag
  | noBlankBehindHandle
  | noBreakBehindTag
  | undefinedHandle
  | noDirectiveName
  | invalidDirectiveName
  | unknownDirective
  | noVersionNumber
  | longVersionNumber
  | noVersionPoint
  | duplicateVersion
  | incompatibleVersion
  | duplicateHandle
  | noDocumentStart
  /-- The text has more than one document. -/
  | severalDocuments
  deriving DecidableEq

/-- Wording of the problem. -/
def Problem.text : Problem → String
  | controlCharacter _ => "control characters are not allowed"
  | noToken => "found character that cannot start any token"
  | keyWithoutColon => "could not find expected ':'"
  | entryOutOfPlace => "block sequence entries are not allowed in this context"
  | keyOutOfPlace => "mapping keys are not allowed in this context"
  | valueOutOfPlace => "mapping values are not allowed in this context"
  | unexpectedColon => "found unexpected ':'"
  | tabInIndentation => "found a tab character that violates indentation"
  | documentMarkInQuotes => "found unexpected document indicator"
  | unclosedQuote => "found unexpected end of stream"
  | unknownEscape => "found unknown escape character"
  | missingEscapeDigits => "did not find expected hexadecimal number"
  | invalidEscapeCode => "found invalid Unicode character escape code"
  | zeroIndentation => "found an indentation indicator equal to 0"
  | textBehindHeader => "did not find expected comment or line break"
  | tabForIndentation => "found a tab character where an indentation space is expected"
  | noNode => "did not find expected node content"
  | noEntry => "did not find expected '-' indicator"
  | noKey => "did not find expected key"
  | unclosedSequence => "did not find expected ',' or ']'"
  | unclosedMapping => "did not find expected ',' or '\x7d'"
  | invalidName => "did not find expected alphabetic or numeric character"
  | unknownAnchor => "unknown anchor"
  | noTagMark => "did not find expected '!'"
  | noTagText => "did not find expected tag URI"
  | noTagOctet => "did not find URI escaped octet"
  | invalidLeadingOctet => "found an incorrect leading UTF-8 octet"
  | invalidTrailingOctet => "found an incorrect trailing UTF-8 octet"
  | unclosedTag => "did not find the expected '>'"
  | noBlankBehindHandle => "did not find expected whitespace"
  | noBreakBehindTag => "did not find expected whitespace or line break"
  | undefinedHandle => "found undefined tag handle"
  | noDirectiveName => "could not find expected directive name"
  | invalidDirectiveName => "found unexpected non-alphabetical character"
  | unknownDirective => "found unknown directive name"
  | noVersionNumber => "did not find expected version number"
  | longVersionNumber => "found extremely long version number"
  | noVersionPoint => "did not find expected digit or '.' character"
  | duplicateVersion => "found duplicate %YAML directive"
  | incompatibleVersion => "found incompatible YAML document"
  | duplicateHandle => "found duplicate %TAG directive"
  | noDocumentStart => "did not find expected <document start>"
  | severalDocuments =>
    "deserializing from YAML containing more than one document is not supported"

/-- What was being read when a problem was found. -/
inductive Activity where
  | token
  | simpleKey
  | plainScalar
  | quotedScalar
  | escape
  | blockScalar
  | blockNode
  | flowNode
  | blockSequence
  | blockMapping
  | flowSequence
  | flowMapping
  | anchor
  | reference
  | tag
  /-- Reading what stands behind the handle of a tag. -/
  | tagText
  /-- Finding out what the handle of a tag stands for. -/
  | node
  | directive
  | versionDirective
  | handleDirective
  /-- Reading the handle that a directive defines, from its beginning on. -/
  | definedHandle
  /-- Reading the handle that a directive defines, to its end. -/
  | definedHandleEnd
  /-- Reading what a directive defines a handle to stand for. -/
  | definedText
  deriving DecidableEq

/-- The activity in words. -/
def Activity.text : Activity → String
  | token => "while scanning for the next token"
  | simpleKey => "while scanning a simple key"
  | plainScalar => "while scanning a plain scalar"
  | quotedScalar => "while scanning a quoted scalar"
  | escape => "while parsing a quoted scalar"
  | blockScalar => "while scanning a block scalar"
  | blockNode => "while parsing a block node"
  | flowNode => "while parsing a flow node"
  | blockSequence => "while parsing a block collection"
  | blockMapping => "while parsing a block mapping"
  | flowSequence => "while parsing a flow sequence"
  | flowMapping => "while parsing a flow mapping"
  | anchor => "while scanning an anchor"
  | reference => "while scanning an alias"
  | tag => "while scanning a tag"
  | tagText => "while parsing a tag"
  | node => "while parsing a node"
  | directive => "while scanning a directive"
  | versionDirective => "while scanning a %YAML directive"
  | handleDirective => "while scanning a %TAG directive"
  | definedHandle => "while scanning a tag directive"
  | definedHandleEnd => "while parsing a tag directive"
  | definedText => "while parsing a %TAG directive"

/-! ## Errors -/

/-- Why a text is not well formed. -/
structure SyntaxError where
  problem : Problem
  position : Position := {}
  /-- What was being read, and where that began. -/
  during : Option (Activity × Position) := none
  deriving DecidableEq

namespace SyntaxError

/-- Where the problem is. -/
def placeText (e : SyntaxError) : String :=
  match e.problem with
  | .controlCharacter 0 => ""
  | .controlCharacter offset => s!" at position {offset}"
  | _ => e.position.text

/-- What was being read. Its beginning is told if it is another place than that of the problem. -/
def duringText (e : SyntaxError) : String :=
  match e.during with
  | none => ""
  | some (activity, start) =>
    ", " ++ activity.text ++ if start = e.position then "" else start.text

/-- Wording of the error. -/
def message (e : SyntaxError) : String := e.problem.text ++ e.placeText ++ e.duringText

end SyntaxError

end MobileStation.Yaml
