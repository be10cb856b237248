/-!
# Blanks and words

The blank characters, and the words of a line between them. There are more blanks than the white
space of `Char.isWhitespace`: spaces of any width, and the separators of lines and paragraphs.
-/

namespace MobileStation.Text

/-- The character is white space: a control that moves the position, a space of any width, or a
separator of lines or paragraphs. -/
def isBlank (c : Char) : Bool :=
  let n := c.toNat
  (9 ≤ n && n ≤ 13) || n = 0x20 || n = 0x85 || n = 0xA0 || n = 0x1680 ||
    (0x2000 ≤ n && n ≤ 0x200A) || n = 0x2028 || n = 0x2029 || n = 0x202F || n = 0x205F || n = 0x3000

/-- Splits off the characters up to the next blank. -/
def wordsFrom (word : List Char) : List Char → List (List Char)
  | [] => if word.isEmpty then [] else [word.reverse]
  | c :: rest =>
    if isBlank c then
      if word.isEmpty then wordsFrom [] rest else word.reverse :: wordsFrom [] rest
    else wordsFrom (c :: word) rest

/-- The words of a line: the longest stretches without a blank. -/
def words (line : String) : List String := (wordsFrom [] line.toList).map String.ofList

end MobileStation.Text
