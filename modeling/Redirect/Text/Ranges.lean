/-
# Character classes given by intervals

A class of characters in a published character database is a list of closed intervals
of code points. This module holds the one test that all such classes share.
-/

namespace Redirect.Text

/-- A character is in a class when one of the intervals holds its code point. -/
def inRanges (ranges : List (Nat × Nat)) (c : Char) : Bool :=
  ranges.any fun range => range.1 ≤ c.toNat && c.toNat ≤ range.2

theorem inRanges_iff {ranges : List (Nat × Nat)} {c : Char} :
    inRanges ranges c = true ↔ ∃ range ∈ ranges, range.1 ≤ c.toNat ∧ c.toNat ≤ range.2 := by
  simp [inRanges]

/-- No interval reaches into a stretch of code points, so none of its characters is in the
class. -/
theorem inRanges_eq_false {ranges : List (Nat × Nat)} {low high : Nat} {c : Char}
    (outside : ranges.all (fun range => range.2 < low || high < range.1) = true)
    (notBelow : low ≤ c.toNat) (notAbove : c.toNat ≤ high) : inRanges ranges c = false := by
  rw [Bool.eq_false_iff, ne_eq, inRanges_iff]
  rintro ⟨range, member, above, below⟩
  have apart := List.all_eq_true.mp outside range member
  simp only [Bool.or_eq_true, decide_eq_true_eq] at apart
  omega

end Redirect.Text
