/-
# Where a text can stand in a text made of parts

An occurrence in two parts put together stands in one of them, or across the seam between them;
then an end of the first part and a beginning of the second one make it up. Of two texts that keep
apart neither reaches across an edge of the other, so putting one of them in place of the other
one makes no new occurrence of what it replaces, and none is left.
-/

import Redirect.Proofs.Occurrences

namespace Redirect.Text

variable {old new : List Char}

/-- An occurrence in two parts stands in one of them or across the seam. -/
theorem isInfix_append_cases {needle first second : List Char}
    (stands : needle <:+: first ++ second) :
    needle <:+: first ∨ needle <:+: second ∨
      ∃ front back, needle = front ++ back ∧ front ≠ [] ∧ back ≠ [] ∧
        front <:+ first ∧ back <+: second := by
  obtain ⟨before, after, split⟩ := stands
  rcases List.append_eq_append_iff.mp split with ⟨rest, inFirst, -⟩ | ⟨back, across, inSecond⟩
  · exact .inl ⟨before, rest, inFirst.symm⟩
  · rcases List.append_eq_append_iff.mp across with ⟨front, atEnd, parts⟩ | ⟨rest, -, inRest⟩
    · by_cases noFront : front = []
      · rw [noFront, List.nil_append] at parts
        exact .inr (.inl (parts ▸ ⟨[], after, inSecond.symm⟩))
      · by_cases noBack : back = []
        · rw [noBack, List.append_nil] at parts
          exact .inl (parts ▸ ⟨before, [], by rw [List.append_nil, atEnd]⟩)
        · exact .inr (.inr ⟨front, back, parts, noFront, noBack, ⟨before, atEnd.symm⟩,
            ⟨after, inSecond.symm⟩⟩)
    · refine .inr (.inl ⟨rest, after, ?_⟩)
      rw [inSecond, inRest]

/-- Two texts keep apart: neither stands in the other one, and no end of the new text begins the
old one, nor does a beginning of it end the old one. -/
structure KeepApart (old new : List Char) : Prop where
  notInNew : ¬old <:+: new
  notInOld : ¬new <:+: old
  notBefore : ∀ part, part ≠ [] → part <:+ new → ¬part <+: old
  notAfter : ∀ part, part ≠ [] → part <+: new → ¬part <:+ old

namespace KeepApart

theorem iff_inits_tails : KeepApart old new ↔
    ¬old <:+: new ∧ ¬new <:+: old ∧ (∀ part ∈ new.tails, part ≠ [] → ¬part <+: old) ∧
      ∀ part ∈ new.inits, part ≠ [] → ¬part <:+ old := by
  constructor
  · intro apart
    refine ⟨apart.notInNew, apart.notInOld, ?_, ?_⟩
    · intro part isEnd filled
      exact apart.notBefore part filled ((List.mem_tails part new).mp isEnd)
    · intro part isBeginning filled
      exact apart.notAfter part filled ((List.mem_inits part new).mp isBeginning)
  · rintro ⟨notInNew, notInOld, notBefore, notAfter⟩
    refine ⟨notInNew, notInOld, ?_, ?_⟩
    · intro part filled isEnd
      exact notBefore part ((List.mem_tails part new).mpr isEnd) filled
    · intro part filled isBeginning
      exact notAfter part ((List.mem_inits part new).mpr isBeginning) filled

instance (old new : List Char) : Decidable (KeepApart old new) :=
  decidable_of_iff _ iff_inits_tails.symm

theorem old_ne_nil (apart : KeepApart old new) : old ≠ [] := by
  rintro rfl
  exact apart.notInNew List.nil_infix

/-- The new text between two parts without the old one makes no occurrence of it. -/
theorem not_isInfix_between (apart : KeepApart old new) {before after : List Char}
    (notBefore : ¬old <:+: before) (notAfter : ¬old <:+: after) :
    ¬old <:+: before ++ new ++ after := by
  intro stands
  rcases isInfix_append_cases stands with
    inFront | behind | ⟨front, back, rfl, filled, -, atEnd, -⟩
  · rcases isInfix_append_cases inFront with
      early | inNew | ⟨front, back, rfl, -, filled, -, atStart⟩
    · exact notBefore early
    · exact apart.notInNew inNew
    · exact apart.notAfter back filled atStart (List.suffix_append front back)
  · exact notAfter behind
  · -- The occurrence begins within the new text, or it begins before and covers that text.
    rcases List.suffix_or_suffix_of_suffix atEnd (List.suffix_append before new) with
      within | covers
    · exact apart.notBefore front filled within (List.prefix_append front back)
    · exact apart.notInOld (covers.isInfix.trans (List.prefix_append front back).isInfix)

theorem not_isInfix_of_replaced (apart : KeepApart old new) {s result : List Char}
    (replaced : Replaced old new s result) : ¬old <:+: result := by
  induction replaced with
  | absent absent => exact absent
  | @next before after result filled leftmost rest ih =>
    have notBefore : ¬old <:+: before := by
      rintro ⟨front, back, rfl⟩
      have earlier := leftmost front (back ++ old ++ after) (by simp only [List.append_assoc])
      have positive := List.length_pos_of_ne_nil filled
      simp only [List.length_append] at earlier
      omega
    exact apart.not_isInfix_between notBefore ih
  | boundary c empty rest ih => exact absurd empty apart.old_ne_nil
  | last empty => exact absurd empty apart.old_ne_nil

/-- When every occurrence was replaced, none is left. -/
theorem not_isInfix_replaceAll (apart : KeepApart old new) (s : List Char) :
    ¬old <:+: replaceAll old new s :=
  apart.not_isInfix_of_replaced (replaced_iff.mpr rfl)

end KeepApart

end Redirect.Text
