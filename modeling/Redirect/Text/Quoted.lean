/-
# Quoted texts

A text shown between double quotes in a message. Quotes and backslashes are escaped by
a backslash, the common controls by a letter, and every character without a printed form
of its own by its number, so that the quoted form shows which characters were meant.
-/

import Redirect.Text.Ranges
import Redirect.Text.UnprintableTable
import Redirect.Text.ExtenderTable

namespace Redirect.Text

/-- The digits of a number in base sixteen, lower case. -/
def hexDigits (n : Nat) : List Char :=
  Nat.toDigits 16 n

/-- A character as it is shown inside quotes. -/
def quoteChar (c : Char) : List Char :=
  if c = '\x00' then ['\\', '0']
  else if c = '\t' then ['\\', 't']
  else if c = '\r' then ['\\', 'r']
  else if c = '\n' then ['\\', 'n']
  else if c = '\\' then ['\\', '\\']
  else if c = '\x22' then ['\\', '\x22']
  else if inRanges extenderRanges c || inRanges unprintableRanges c then
    ['\\', 'u', '\x7b'] ++ hexDigits c.toNat ++ ['\x7d']
  else [c]

/-- A visible ASCII character or a space stands for itself inside quotes, unless it is a
quote or a backslash. -/
theorem quoteChar_of_visible {c : Char} (notBelow : 0x20 ≤ c.toNat) (notAbove : c.toNat ≤ 0x7E)
    (notQuote : c ≠ '\x22') (notBackslash : c ≠ '\\') : quoteChar c = [c] := by
  have extender : inRanges extenderRanges c = false :=
    inRanges_eq_false (by decide +kernel) notBelow notAbove
  have unprintable : inRanges unprintableRanges c = false :=
    inRanges_eq_false (by decide +kernel) notBelow notAbove
  have notControl (d : Char) (control : d.toNat < 0x20) : c ≠ d := by
    rintro rfl
    omega
  simp [quoteChar, extender, unprintable, notQuote, notBackslash, notControl '\x00' (by decide),
    notControl '\t' (by decide), notControl '\r' (by decide), notControl '\n' (by decide)]

/-- A text between double quotes. -/
def quote (s : List Char) : List Char :=
  '\x22' :: (s.flatMap quoteChar ++ ['\x22'])

end Redirect.Text
