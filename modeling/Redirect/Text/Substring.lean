/-
# Substrings

Whether a text holds another one, and the replacement of every occurrence of a text:
occurrences are taken from the left and do not overlap.
-/

namespace Redirect.Text

/-- The needle stands somewhere in the text. The empty needle stands in every text. -/
def occurs (needle : List Char) : List Char → Bool
  | [] => needle.isEmpty
  | c :: s => needle.isPrefixOf (c :: s) || occurs needle s

/-- Replace from the left: the first argument counts the characters that an occurrence
found before still covers. -/
def replaceFrom (needle new : List Char) : Nat → List Char → List Char
  | _, [] => []
  | covered + 1, _ :: s => replaceFrom needle new covered s
  | 0, c :: s =>
    if needle.isPrefixOf (c :: s) then new ++ replaceFrom needle new (needle.length - 1) s
    else c :: replaceFrom needle new 0 s

/-- Put the new text before every character and at the end. -/
def interleave (new : List Char) : List Char → List Char
  | [] => new
  | c :: s => new ++ c :: interleave new s

/-- Replace every occurrence of the needle. The empty needle occurs once at each
boundary between characters, the two ends included. -/
def replaceAll (needle new s : List Char) : List Char :=
  if needle.isEmpty then interleave new s else replaceFrom needle new 0 s

end Redirect.Text
