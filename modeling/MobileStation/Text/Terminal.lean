import MobileStation.Text.Number

/-!
# Text for a terminal

A terminal takes some control characters as commands. They are escaped in a text that comes from
elsewhere and goes to a terminal.
-/

namespace MobileStation.Text

/-- The characters below code point 128 that ring a bell, go back, clear the page, begin a command,
or delete. -/
def isCommandAscii (c : Char) : Bool :=
  ['\x07', '\x08', '\x0c', '\x1b', '\x7f'].contains c

/-- A character for a terminal. -/
def terminalEscape (c : Char) : String :=
  if isCommandAscii c then "\\x" ++ hexadecimal 2 c.toNat
  else if 0x80 ≤ c.toNat ∧ c.toNat ≤ 0x9F then "\\u\x7b" ++ hexadecimal 1 c.toNat ++ "\x7d"
  else String.singleton c

/-- A text for a terminal. -/
def forTerminal (text : String) : String := String.join (text.toList.map terminalEscape)

end MobileStation.Text
