import MobileStation.Text.Number
import MobileStation.Text.Shown

/-!
# Quoted text

A character or a text in quotes, as error messages show what they complain about. What has no
picture of its own is escaped.
-/

namespace MobileStation.Text

/-- A character inside quotes of the kind `quote`. -/
def escape (quote c : Char) : String :=
  if c = '\x00' then "\\0"
  else if c = '\t' then "\\t"
  else if c = '\n' then "\\n"
  else if c = '\r' then "\\r"
  else if c = '\x5c' ∨ c = quote then String.ofList ['\x5c', c]
  else if isShown c then String.singleton c
  else "\\u\x7b" ++ hexadecimal 1 c.toNat ++ "\x7d"

/-- A character in single quotes. -/
def quotedChar (c : Char) : String := "'" ++ escape '\x27' c ++ "'"

/-- A text in double quotes. -/
def quoted (text : String) : String :=
  "\x22" ++ String.join (text.toList.map (escape '\x22')) ++ "\x22"

end MobileStation.Text
