/-
# Occurrences of a text

A text occurs in another one when that is made of something, the text, and something more. To
replace every occurrence is to go from left to right: up to the first place where the text
stands nothing changes, the occurrence there gives way to the new text, and the rest behind it
is treated in the same way, so that no two of the replaced occurrences overlap. The empty text
stands at both ends and between any two characters.
-/

import Mathlib.Data.List.Infix
import Redirect.Text.Substring

namespace Redirect.Text

variable {needle new s : List Char}

theorem occurs_cons_iff (c : Char) (s : List Char) :
    occurs needle (c :: s) = true ↔ needle <+: c :: s ∨ occurs needle s = true := by
  rw [occurs, Bool.or_eq_true, List.isPrefixOf_iff_prefix]

theorem occurs_iff_isInfix : occurs needle s = true ↔ needle <:+: s := by
  induction s with
  | nil => rw [occurs, List.isEmpty_iff, List.infix_nil]
  | cons c s ih => rw [occurs_cons_iff, ih, List.infix_cons_iff]

/-- The second text is the first one with every occurrence of a needle replaced, the occurrences
being taken from the left and without overlap. -/
inductive Replaced (needle new : List Char) : List Char → List Char → Prop
  | absent {s : List Char} (absent : ¬needle <:+: s) : Replaced needle new s s
  | next {before after result : List Char} (filled : needle ≠ [])
      (leftmost : ∀ front back, before ++ needle ++ after = front ++ needle ++ back →
        before.length ≤ front.length)
      (rest : Replaced needle new after result) :
      Replaced needle new (before ++ needle ++ after) (before ++ new ++ result)
  | boundary {s result : List Char} (c : Char) (empty : needle = [])
      (rest : Replaced needle new s result) :
      Replaced needle new (c :: s) (new ++ c :: result)
  | last (empty : needle = []) : Replaced needle new [] new

/-! ## A needle that is not empty -/

theorem replaceFrom_covered (covered s : List Char) :
    replaceFrom needle new covered.length (covered ++ s) = replaceFrom needle new 0 s := by
  induction covered with
  | nil => rfl
  | cons c covered ih => exact ih

theorem replaceFrom_needle_append (filled : needle ≠ []) (s : List Char) :
    replaceFrom needle new 0 (needle ++ s) = new ++ replaceFrom needle new 0 s := by
  cases needle with
  | nil => exact absurd rfl filled
  | cons c needle =>
    have stands : (c :: needle).isPrefixOf (c :: (needle ++ s)) = true :=
      List.isPrefixOf_iff_prefix.mpr (List.prefix_append (c :: needle) s)
    rw [List.cons_append, replaceFrom, if_pos stands, List.length_cons, Nat.add_sub_cancel,
      replaceFrom_covered]

theorem replaceFrom_cons_of_not_begins {c : Char} (absent : ¬needle <+: c :: s) :
    replaceFrom needle new 0 (c :: s) = c :: replaceFrom needle new 0 s := by
  rw [← List.isPrefixOf_iff_prefix] at absent
  rw [replaceFrom, if_neg absent]

theorem replaceFrom_of_absent (absent : ¬needle <:+: s) : replaceFrom needle new 0 s = s := by
  induction s with
  | nil => rfl
  | cons c s ih =>
    obtain ⟨notHere, notLater⟩ := not_or.mp (List.infix_cons_iff.not.mp absent)
    rw [replaceFrom_cons_of_not_begins notHere, ih notLater]

/-- A needle that occurs has a first occurrence. -/
theorem exists_leftmost (stands : needle <:+: s) :
    ∃ before after, s = before ++ needle ++ after ∧
      ∀ front back, s = front ++ needle ++ back → before.length ≤ front.length := by
  induction s with
  | nil =>
    cases List.infix_nil.mp stands
    exact ⟨[], [], rfl, fun _ _ _ => Nat.zero_le _⟩
  | cons c s ih =>
    by_cases here : needle <+: c :: s
    · obtain ⟨after, split⟩ := here
      exact ⟨[], after, split.symm, fun _ _ _ => Nat.zero_le _⟩
    · obtain ⟨before, after, rfl, leftmost⟩ :=
        ih ((List.infix_cons_iff.mp stands).resolve_left here)
      refine ⟨c :: before, after, rfl, ?_⟩
      intro front back split
      cases front with
      | nil => exact absurd ⟨back, split.symm⟩ here
      | cons d front => exact Nat.succ_le_succ (leftmost front back (List.cons.inj split).2)

/-- Up to the first occurrence nothing changes. -/
theorem replaceFrom_leftmost (filled : needle ≠ []) {before after : List Char}
    (leftmost : ∀ front back, before ++ needle ++ after = front ++ needle ++ back →
      before.length ≤ front.length) :
    replaceFrom needle new 0 (before ++ needle ++ after) =
      before ++ new ++ replaceFrom needle new 0 after := by
  induction before with
  | nil => exact replaceFrom_needle_append filled after
  | cons c before ih =>
    have notHere : ¬needle <+: c :: (before ++ needle ++ after) := by
      rintro ⟨back, split⟩
      exact Nat.not_succ_le_zero _ (leftmost [] back split.symm)
    have later := ih fun front back split =>
      Nat.le_of_succ_le_succ (leftmost (c :: front) back (congrArg (c :: ·) split))
    rw [List.cons_append, List.cons_append, replaceFrom_cons_of_not_begins notHere, later]
    rfl

theorem replaced_replaceFrom (filled : needle ≠ []) (new s : List Char) :
    Replaced needle new s (replaceFrom needle new 0 s) := by
  -- The text behind the first occurrence is shorter.
  induction size : s.length using Nat.strong_induction_on generalizing s with
  | _ bound ih =>
    by_cases stands : needle <:+: s
    · obtain ⟨before, after, rfl, leftmost⟩ := exists_leftmost stands
      have shorter : after.length < bound := by
        have positive := List.length_pos_of_ne_nil filled
        simp only [List.length_append] at size
        omega
      rw [replaceFrom_leftmost filled leftmost]
      exact .next filled leftmost (ih _ shorter after rfl)
    · rw [replaceFrom_of_absent stands]
      exact .absent stands

/-! ## Any needle -/

theorem replaced_interleave (new s : List Char) : Replaced [] new s (interleave new s) := by
  induction s with
  | nil => exact .last rfl
  | cons c s ih => exact .boundary c rfl ih

theorem replaceAll_of_filled (filled : needle ≠ []) (new s : List Char) :
    replaceAll needle new s = replaceFrom needle new 0 s := by
  rw [replaceAll, List.isEmpty_eq_false_iff.mpr filled]
  rfl

/-- What is made of a text by replacing every occurrence of a needle, from the left and without
overlap, is that text and no other one. -/
theorem replaced_iff {result : List Char} :
    Replaced needle new s result ↔ result = replaceAll needle new s := by
  constructor
  · intro replaced
    induction replaced with
    | @absent s absent =>
      have filled : needle ≠ [] := by
        rintro rfl
        exact absent (List.nil_infix)
      rw [replaceAll_of_filled filled, replaceFrom_of_absent absent]
    | next filled leftmost rest ih =>
      rw [replaceAll_of_filled filled] at ih ⊢
      rw [replaceFrom_leftmost filled leftmost, ih]
    | boundary c empty rest ih =>
      subst empty
      rw [ih]
      rfl
    | last empty =>
      subst empty
      rfl
  · rintro rfl
    by_cases filled : needle = []
    · subst filled
      exact replaced_interleave new s
    · rw [replaceAll_of_filled filled]
      exact replaced_replaceFrom filled new s

end Redirect.Text
