/-
# Stretches of one kind

A sequence that begins with a stretch of one kind, and then ends or goes on with another kind, is
divided in one way into that stretch and the rest. So a number can be told from what follows its
digits, and a line from what follows its line feed.
-/

import Redirect.Text.Line

namespace Redirect.Text

variable {α : Type} {kind : α → Bool} {first second rest other : List α}

/-- A sequence does not begin with an element of a kind. -/
def BeginsApart (kind : α → Bool) (s : List α) : Prop :=
  ∀ a ∈ s.head?, kind a = false

theorem beginsApart_nil (kind : α → Bool) : BeginsApart kind [] := by
  rintro _ ⟨⟩

theorem beginsApart_cons {a : α} (apart : kind a = false) (s : List α) :
    BeginsApart kind (a :: s) := by
  rintro _ ⟨⟩
  exact apart

/-- A stretch of a kind is what can be taken from the front. -/
theorem takeWhile_append (inside : ∀ a ∈ first, kind a = true) (apart : BeginsApart kind rest) :
    (first ++ rest).takeWhile kind = first := by
  rw [List.takeWhile_append_of_pos inside]
  cases rest with
  | nil => rw [List.takeWhile_nil, List.append_nil]
  | cons a rest => rw [List.takeWhile_cons, apart a rfl, if_neg Bool.false_ne_true, List.append_nil]

/-- A sequence falls in one way into a stretch of a kind and a rest that begins with another. -/
theorem stretch_inj (inside : ∀ a ∈ first, kind a = true) (insideToo : ∀ a ∈ second, kind a = true)
    (apart : BeginsApart kind rest) (apartToo : BeginsApart kind other)
    (same : first ++ rest = second ++ other) : first = second ∧ rest = other := by
  have taken := congrArg (List.takeWhile kind) same
  rw [takeWhile_append inside apart, takeWhile_append insideToo apartToo] at taken
  subst taken
  exact ⟨rfl, List.append_cancel_left same⟩

theorem append_feed_inj {first second rest other : List Char} (plain : '\n' ∉ first)
    (plainToo : '\n' ∉ second) (same : first ++ '\n' :: rest = second ++ '\n' :: other) :
    first = second ∧ rest = other := by
  have inside {s : List Char} (plain : '\n' ∉ s) : ∀ c ∈ s, (c != '\n') = true := fun c member =>
    bne_iff_ne.mpr fun feed => plain (feed ▸ member)
  obtain ⟨sameLine, sameRest⟩ := stretch_inj (inside plain) (inside plainToo)
    (beginsApart_cons (by decide) rest) (beginsApart_cons (by decide) other) same
  exact ⟨sameLine, (List.cons.inj sameRest).2⟩

theorem isDigit_of_mem_toDigits {n : Nat} {c : Char} (member : c ∈ Nat.toDigits 10 n) :
    c.isDigit = true :=
  Nat.isDigit_of_mem_toDigits (by decide) (by decide) member

/-- A number does not begin with a character of a kind that no digit has. -/
theorem beginsApart_toDigits {kind : Char → Bool}
    (noDigit : ∀ c : Char, c.isDigit = true → kind c = false) (n : Nat) (s : List Char) :
    BeginsApart kind (Nat.toDigits 10 n ++ s) := by
  cases digits : Nat.toDigits 10 n with
  | nil => exact absurd digits Nat.toDigits_ne_nil
  | cons c rest =>
    have isFirst : c ∈ Nat.toDigits 10 n := digits ▸ List.mem_cons_self
    exact beginsApart_cons (noDigit c (isDigit_of_mem_toDigits isFirst)) _

/-- A number is told from what follows its digits. -/
theorem toDigits_append_inj {n m : Nat} {rest other : List Char}
    (apart : BeginsApart Char.isDigit rest) (apartToo : BeginsApart Char.isDigit other)
    (same : Nat.toDigits 10 n ++ rest = Nat.toDigits 10 m ++ other) : n = m ∧ rest = other := by
  obtain ⟨digits, sameRest⟩ := stretch_inj (fun _ => isDigit_of_mem_toDigits)
    (fun _ => isDigit_of_mem_toDigits) apart apartToo same
  refine ⟨?_, sameRest⟩
  rw [← Nat.ofDigitChars_ten_toDigits (n := n), digits, Nat.ofDigitChars_ten_toDigits]

end Redirect.Text
