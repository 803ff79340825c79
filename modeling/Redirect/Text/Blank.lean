/-
# Blank characters

The characters with the Unicode property White_Space, and the removal of blank ends
from a text.
-/

import Redirect.Text.Ranges

namespace Redirect.Text

/-- Blank characters, as increasing closed intervals of code points. -/
def blankRanges : List (Nat × Nat) := [
  (0x9, 0xD), (0x20, 0x20), (0x85, 0x85), (0xA0, 0xA0), (0x1680, 0x1680),
  (0x2000, 0x200A), (0x2028, 0x2029), (0x202F, 0x202F), (0x205F, 0x205F),
  (0x3000, 0x3000)]

/-- A blank is a character that separates words without a visible mark. -/
def isBlank (c : Char) : Bool :=
  inRanges blankRanges c

/-- The text without its blank characters at both ends. -/
def trim (s : List Char) : List Char :=
  ((s.dropWhile isBlank).reverse.dropWhile isBlank).reverse

end Redirect.Text
