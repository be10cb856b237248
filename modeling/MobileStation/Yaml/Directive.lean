import MobileStation.Yaml.Tag

/-!
# Directives

Lines in front of a document that begin with a percent sign: the version of the language, and what a
handle of tags stands for.
-/

namespace MobileStation.Yaml

/-- A directive. -/
inductive Directive where
  | version (major minor : Nat)
  | shorthand (shorthand : Shorthand)
  deriving DecidableEq

namespace Directive

/-- Passes over the blanks of the line. -/
def skipGap (c : Cursor) : Cursor := c.skipWhile isGap

/-! ## Versions -/

/-- Most digits of a number in a version. -/
def versionDigits : Nat := 9

/-- Reads a number of a version. -/
def readNumber (start : Position) (c : Cursor) : Except SyntaxError (Nat × Cursor) :=
  let digits := c.rest.takeWhile fun ch => (Text.digit? ch).isSome
  if digits.isEmpty then .error (.within .noVersionNumber c .versionDirective start)
  else if digits.length > versionDigits then
    .error (.within .longVersionNumber (c.skip versionDigits) .versionDirective start)
  else .ok ((Text.digitsValue? digits).getD 0, c.skip digits.length)

/-- Reads a version: two numbers with a point between them. -/
def readVersion (start : Position) (c : Cursor) : Except SyntaxError (Directive × Cursor) := do
  let (major, c) ← readNumber start (skipGap c)
  if !c.nextIs (· = '.') then throw (.within .noVersionPoint c .versionDirective start)
  let (minor, c) ← readNumber start (c.skip 1)
  return (version major minor, c)

/-! ## Handles -/

/-- Reads a handle: one exclamation mark, or two with a name between them. -/
def readHandle (start : Position) (c : Cursor) : Except SyntaxError (String × Cursor) :=
  if !c.nextIs (· = '!') then .error (.within .noTagMark c .definedHandle start)
  else
    let handle := c.handle
    let after := c.skip handle.length
    if handle = ['!'] || isClosedHandle handle then .ok (String.ofList handle, after)
    else .error (.within .noTagMark after .definedHandleEnd start)

/-- Reads a handle and what it stands for. -/
def readShorthand (start : Position) (c : Cursor) : Except SyntaxError (Directive × Cursor) := do
  let (handle, c) ← readHandle start (skipGap c)
  if !c.nextIs isGap then throw (.within .noBlankBehindHandle c .handleDirective start)
  let (text, c) ← TagText.readText true .definedText start (skipGap c)
  if !c.endsWordAt 0 then throw (.within .noBreakBehindTag c .handleDirective start)
  return (shorthand ⟨handle, text⟩, c)

/-! ## Lines -/

/-- Reads the name of a directive and what stands behind it. -/
def readContent (start : Position) (c : Cursor) : Except SyntaxError (Directive × Cursor) := do
  let name := c.name
  let after := c.skip name.length
  if name.isEmpty then throw (.within .noDirectiveName c .directive start)
  if !after.endsWordAt 0 then throw (.within .invalidDirectiveName after .directive start)
  if name = ['Y', 'A', 'M', 'L'] then readVersion start after
  else if name = ['T', 'A', 'G'] then readShorthand start after
  else throw (.within .unknownDirective after .directive start)

end Directive

/-- Reads the directive whose percent sign stands here, with the rest of its line. -/
def Cursor.readDirective (c : Cursor) : Except SyntaxError (Directive × Cursor) := do
  let start := c.position
  let (directive, c) ← Directive.readContent start (c.skip 1)
  let c := Directive.skipGap c
  let c := if c.nextIs (· = '#') then c.skipLine else c
  if !c.rest.isEmpty && !c.nextIs isBreak then
    throw (.within .textBehindHeader c .directive start)
  return (directive, (c.next?.map (·.2)).getD c)

end MobileStation.Yaml
