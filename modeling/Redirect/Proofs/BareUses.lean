/-
# Bare uses of a name

A name is used bare where it stands as a whole word behind neither a dot nor a colon. The bare
uses of a name divide a text into gaps in one way, and the text is these gaps with the name
between each two of them. A rule finds something in a line exactly when its name is used bare
there, and what it makes of the line is the same gaps with the new text between them: every bare
use gives way to the new text at once, and everything else stays in its place.
-/

import Redirect.Proofs.Respelling

namespace Redirect

namespace Text

/-- A name is used bare between two texts: it is made of word characters, no other word
character touches it on either side, and no dot or colon comes before it. -/
structure BareBetween (name before after : List Char) : Prop where
  run : IsRun name
  starts : ∀ c ∈ before.getLast?, isWord c = false
  ends : ∀ c ∈ after.head?, isWord c = false
  unqualified : ∀ c ∈ before.getLast?, c ≠ '.' ∧ c ≠ ':'

/-- A bare use of a name in a text, by what stands before and after it there. -/
def BareUse (name s before after : List Char) : Prop :=
  s = before ++ name ++ after ∧ BareBetween name before after

/-- A name is used bare somewhere in a text. -/
def IsUsedBare (name s : List Char) : Prop :=
  ∃ before after, BareUse name s before after

/-- What stands before and after a place between two gaps, when a text stands at all such
places. -/
def Between (filling : List Char) (gaps : List (List Char)) (before after : List Char) : Prop :=
  ∃ front back, front ≠ [] ∧ back ≠ [] ∧ gaps = front ++ back ∧
    before = filling.intercalate front ∧ after = filling.intercalate back

/-- The gaps that the bare uses of a name leave in a text: the name stands between each two of
them, and these are the places where it is used bare. -/
structure GapsOf (name s : List Char) (gaps : List (List Char)) : Prop where
  nonempty : gaps ≠ []
  spelled : name.intercalate gaps = s
  uses : ∀ before after, BareUse name s before after ↔ Between name gaps before after

/-- A text in which every bare use of a name gives way to a new text at once. -/
def ReplacesBareUses (name new s result : List Char) : Prop :=
  ∃ gaps, GapsOf name s gaps ∧ result = new.intercalate gaps

/-! ## Gaps -/

section Gaps

variable {filling gap before after : List Char} {gaps : List (List Char)}

theorem intercalate_modifyHead (nonempty : gaps ≠ []) (s : List Char) :
    filling.intercalate (gaps.modifyHead (s ++ ·)) = s ++ filling.intercalate gaps := by
  obtain ⟨gap, rest, rfl⟩ := List.exists_cons_of_ne_nil nonempty
  cases rest with
  | nil => rw [List.modifyHead_cons, List.intercalate_singleton, List.intercalate_singleton]
  | cons next rest =>
    rw [List.modifyHead_cons, List.intercalate_cons_cons, List.intercalate_cons_cons,
      List.append_assoc, List.append_assoc, List.append_assoc]

theorem not_between_singleton : ¬Between filling [gap] before after := by
  rintro ⟨front, back, filled, rest, split, -, -⟩
  rcases List.append_eq_singleton_iff.mp split.symm with ⟨nothing, -⟩ | ⟨-, nothing⟩
  · exact filled nothing
  · exact rest nothing

theorem between_cons (nonempty : gaps ≠ []) :
    Between filling (gap :: gaps) before after ↔
      before = gap ∧ after = filling.intercalate gaps ∨
        ∃ later, before = gap ++ filling ++ later ∧ Between filling gaps later after := by
  constructor
  · rintro ⟨front, back, filled, rest, split, rfl, rfl⟩
    obtain ⟨first, others, rfl⟩ := List.exists_cons_of_ne_nil filled
    obtain ⟨rfl, rfl⟩ := List.cons.inj split
    by_cases single : others = []
    · subst single
      exact .inl ⟨List.intercalate_singleton, rfl⟩
    · refine .inr ⟨filling.intercalate others, ?_, others, back, single, rest, rfl, rfl, rfl⟩
      exact List.intercalate_cons_of_ne_nil single
  · rintro (⟨rfl, rfl⟩ | ⟨later, rfl, front, back, filled, rest, rfl, rfl, rfl⟩)
    · exact ⟨[before], gaps, List.cons_ne_nil _ _, nonempty, rfl,
        List.intercalate_singleton.symm, rfl⟩
    · refine ⟨gap :: front, back, List.cons_ne_nil _ _, rest, rfl, ?_, rfl⟩
      exact (List.intercalate_cons_of_ne_nil filled).symm

/-- There is a place behind the first gap unless it is the only one. -/
theorem between_first (nonempty : gaps ≠ []) :
    Between filling (gap :: gaps) gap (filling.intercalate gaps) :=
  (between_cons nonempty).mpr (.inl ⟨rfl, rfl⟩)

/-- Gaps with the same text between them are the same when they leave the same places. -/
theorem eq_of_between_iff {first second : List (List Char)} (nonempty : filling ≠ [])
    (firstFilled : first ≠ []) (secondFilled : second ≠ [])
    (spelled : filling.intercalate first = filling.intercalate second)
    (same : ∀ before after,
      Between filling first before after ↔ Between filling second before after) :
    first = second := by
  induction first generalizing second with
  | nil => exact absurd rfl firstFilled
  | cons gap gaps ih =>
    obtain ⟨other, others, rfl⟩ := List.exists_cons_of_ne_nil secondFilled
    by_cases single : gaps = []
    · subst single
      by_cases singleToo : others = []
      · subst singleToo
        rw [List.intercalate_singleton, List.intercalate_singleton] at spelled
        rw [spelled]
      · exact absurd ((same _ _).mpr (between_first singleToo)) not_between_singleton
    · by_cases singleToo : others = []
      · subst singleToo
        exact absurd ((same _ _).mp (between_first single)) not_between_singleton
      · -- Neither first gap is longer than the other one.
        have atMost : ∀ {gap before after : List Char} {gaps : List (List Char)}, gaps ≠ [] →
            Between filling (gap :: gaps) before after → gap <+: before := by
          intro gap before after gaps filled between
          rcases (between_cons filled).mp between with ⟨rfl, -⟩ | ⟨later, rfl, -⟩
          · exact List.prefix_rfl
          · rw [List.append_assoc]
            exact List.prefix_append _ _
        have ahead := atMost single ((same _ _).mpr (between_first singleToo))
        have aheadToo := atMost singleToo ((same _ _).mp (between_first single))
        obtain rfl := ahead.eq_of_length_le aheadToo.length_le
        have behind : ∀ {gaps : List (List Char)}, gaps ≠ [] → ∀ later after,
            Between filling (gap :: gaps) (gap ++ filling ++ later) after ↔
              Between filling gaps later after := by
          intro gaps filled later after
          rw [between_cons filled]
          simp [nonempty]
        rw [List.intercalate_cons_of_ne_nil single, List.intercalate_cons_of_ne_nil singleToo]
          at spelled
        rw [ih single singleToo (List.append_cancel_left spelled)]
        intro later after
        rw [← behind single, ← behind singleToo]
        exact same _ _

theorem between_modifyHead (s : List Char) :
    Between filling (gaps.modifyHead (s ++ ·)) before after ↔
      ∃ later, before = s ++ later ∧ Between filling gaps later after := by
  cases gaps with
  | nil =>
    constructor
    · rintro ⟨front, back, filled, -, split, -, -⟩
      exact absurd (List.append_eq_nil_iff.mp split.symm).1 filled
    · rintro ⟨later, -, front, back, filled, -, split, -, -⟩
      exact absurd (List.append_eq_nil_iff.mp split.symm).1 filled
  | cons gap gaps =>
    constructor
    · rintro ⟨front, back, filled, rest, split, rfl, rfl⟩
      obtain ⟨first, others, rfl⟩ := List.exists_cons_of_ne_nil filled
      obtain ⟨rfl, rfl⟩ := List.cons.inj split
      refine ⟨filling.intercalate (gap :: others), ?_, gap :: others, back,
        List.cons_ne_nil _ _, rest, rfl, rfl, rfl⟩
      exact intercalate_modifyHead (List.cons_ne_nil gap others) s
    · rintro ⟨later, rfl, front, back, filled, rest, split, rfl, rfl⟩
      obtain ⟨first, others, rfl⟩ := List.exists_cons_of_ne_nil filled
      obtain ⟨rfl, rfl⟩ := List.cons.inj split
      refine ⟨(s ++ gap) :: others, back, List.cons_ne_nil _ _, rest, rfl, ?_, rfl⟩
      exact (intercalate_modifyHead (List.cons_ne_nil gap others) s).symm

/-- The bare uses of a name leave gaps in a text in one way. -/
theorem GapsOf.unique {name s : List Char} {first second : List (List Char)} (run : IsRun name)
    (gaps : GapsOf name s first) (again : GapsOf name s second) : first = second := by
  apply eq_of_between_iff run.1 gaps.nonempty again.nonempty
  · rw [gaps.spelled, again.spelled]
  · intro before after
    rw [← gaps.uses, ← again.uses]

end Gaps

end Text

namespace Rule

open Text

/-- A name may stand bare behind a text. -/
def allows (before : List Char) : Bool :=
  before.getLast?.all isSeparator

/-- The gaps that the bare uses of a name leave among tokens. The first flag says that a word at
the front would be bare. -/
def gapsAround (name : List Char) (free : Bool) : List Token → List (List Char)
  | [] => [[]]
  | .gap c :: rest => (gapsAround name (isSeparator c) rest).modifyHead ([c] ++ ·)
  | .word word :: rest =>
    if free = true ∧ name = word then [] :: gapsAround name false rest
    else (gapsAround name false rest).modifyHead (word ++ ·)

section Uses

variable {name new s : List Char} {found : List Token}

theorem bareBetween_iff {before after : List Char} :
    BareBetween name before after ↔
      IsRun name ∧ allows before = true ∧ startsWord after = false := by
  have ends : startsWord after = false ↔ ∀ c ∈ after.head?, isWord c = false := by
    cases after with
    | nil => simp [startsWord]
    | cons c after => simp [startsWord]
  have allowed : allows before = true ↔
      ∀ c ∈ before.getLast?, isWord c = false ∧ c ≠ '.' ∧ c ≠ ':' := by
    rw [allows]
    cases before.getLast? with
    | none => simp
    | some c => simp [isSeparator, and_assoc]
  rw [ends, allowed]
  constructor
  · rintro ⟨run, starts, ends, unqualified⟩
    exact ⟨run, fun c last => ⟨starts c last, unqualified c last⟩, ends⟩
  · rintro ⟨run, allowed, ends⟩
    exact ⟨run, fun c last => (allowed c last).1, ends, fun c last => (allowed c last).2⟩

theorem gapsAround_ne_nil (name : List Char) (free : Bool) (found : List Token) :
    gapsAround name free found ≠ [] := by
  induction found generalizing free with
  | nil => exact List.cons_ne_nil _ _
  | cons token rest ih =>
    cases token with
    | gap c =>
      rw [gapsAround, ne_eq, List.modifyHead_eq_nil_iff]
      exact ih _
    | word word =>
      rw [gapsAround]
      split
      · exact List.cons_ne_nil _ _
      · rw [ne_eq, List.modifyHead_eq_nil_iff]
        exact ih _

/-- Replacing the bare words that spell a name puts the new text between the gaps. -/
theorem substitute_eq_intercalate (name new : List Char) (free : Bool) (found : List Token) :
    substitute (fun word => if name = word then new else word) free found =
      new.intercalate (gapsAround name free found) := by
  induction found generalizing free with
  | nil => rfl
  | cons token rest ih =>
    cases token with
    | gap c =>
      rw [gapsAround, intercalate_modifyHead (gapsAround_ne_nil _ _ _), substitute, ih]
      rfl
    | word word =>
      rw [gapsAround, substitute, ih]
      by_cases own : free = true ∧ name = word
      · obtain ⟨rfl, rfl⟩ := own
        rw [if_pos rfl, if_pos rfl, if_pos ⟨rfl, rfl⟩,
          List.intercalate_cons_of_ne_nil (gapsAround_ne_nil _ _ _), List.nil_append]
      · rw [if_neg own, intercalate_modifyHead (gapsAround_ne_nil _ _ _)]
        cases free with
        | false => rfl
        | true => rw [if_pos rfl, if_neg fun same => own ⟨rfl, same⟩]

/-- A bare word spells the name just when there is a place between two gaps. -/
theorem mem_bareNames_iff_between (name : List Char) (free : Bool) (found : List Token) :
    name ∈ bareNames free found ↔
      ∃ before after, Between name (gapsAround name free found) before after := by
  have shifted : ∀ (s : List Char) (gaps : List (List Char)),
      (∃ before after, Between name (gaps.modifyHead (s ++ ·)) before after) ↔
        ∃ before after, Between name gaps before after := by
    intro s gaps
    simp only [between_modifyHead]
    constructor
    · rintro ⟨before, after, later, -, between⟩
      exact ⟨later, after, between⟩
    · rintro ⟨later, after, between⟩
      exact ⟨_, after, later, rfl, between⟩
  induction found generalizing free with
  | nil =>
    constructor
    · intro member
      cases member
    · rintro ⟨before, after, between⟩
      exact absurd between not_between_singleton
  | cons token rest ih =>
    cases token with
    | gap c =>
      rw [bareNames, gapsAround, shifted]
      exact ih _
    | word word =>
      rw [bareNames, gapsAround]
      by_cases own : free = true ∧ name = word
      · obtain ⟨rfl, rfl⟩ := own
        rw [if_pos rfl, if_pos ⟨rfl, rfl⟩]
        have first : Between name ([] :: gapsAround name false rest) [] _ :=
          between_first (gapsAround_ne_nil name false rest)
        exact iff_of_true List.mem_cons_self ⟨_, _, first⟩
      · rw [if_neg own, shifted]
        refine Iff.trans ?_ (ih false)
        cases free with
        | false => rfl
        | true =>
          have different : name ≠ word := fun same => own ⟨rfl, same⟩
          rw [if_pos rfl, List.mem_cons, or_iff_right different]

theorem allows_append {before : List Char} (filled : before ≠ []) (context : List Char) :
    allows (context ++ before) = allows before := by
  rw [allows, allows, List.getLast?_append, List.getLast?_eq_some_getLast filled, Option.some_or]

/-- No name stands bare behind a text that ends in a word. -/
theorem allows_append_run {word : List Char} (run : IsRun word) (context : List Char) :
    allows (context ++ word) = false := by
  rw [allows_append run.1, allows, List.getLast?_eq_some_getLast run.1, Option.all_some]
  exact isSeparator_of_isWord (run.2 _ (List.getLast_mem run.1))

/-- The first word of a text is a bare use of a name when it spells the name and may stand bare;
every other bare use stands behind that word. -/
theorem bareUse_word_append {word s context before after : List Char} (wordRun : IsRun word)
    (ends : startsWord s = false) :
    word ++ s = before ++ name ++ after ∧ BareBetween name (context ++ before) after ↔
      (before = [] ∧ (allows context = true ∧ name = word) ∧ after = s) ∨
        ∃ later, before = word ++ later ∧
          s = later ++ name ++ after ∧ BareBetween name (context ++ word ++ later) after := by
  simp only [bareBetween_iff]
  constructor
  · rintro ⟨split, run, allowed, nameEnds⟩
    rw [List.append_assoc] at split
    by_cases first : before = []
    · subst first
      rw [List.append_nil] at allowed
      have here := standsAt_append run.2 wordRun.2 ends
      rw [split, List.nil_append, standsAt_append run.2 run.2 nameEnds] at here
      obtain rfl := of_decide_eq_true (here.symm.trans (decide_eq_true rfl))
      exact .inl ⟨rfl, ⟨allowed, rfl⟩, (List.append_cancel_left split).symm⟩
    · rcases List.append_eq_append_iff.mp split with ⟨later, rfl, rest⟩ | ⟨inner, rfl, -⟩
      · rw [← List.append_assoc] at rest allowed
        exact .inr ⟨later, rfl, rest, run, allowed, nameEnds⟩
      · -- A name that stands within the word is touched by the characters before it.
        have inWord : IsRun before :=
          ⟨first, fun c member => wordRun.2 c (List.mem_append_left _ member)⟩
        rw [allows_append_run inWord] at allowed
        cases allowed
  · rintro (⟨rfl, ⟨allowed, rfl⟩, rfl⟩ | ⟨later, rfl, rfl, run, allowed, nameEnds⟩)
    · rw [List.append_nil]
      exact ⟨rfl, wordRun, allowed, ends⟩
    · rw [← List.append_assoc context]
      exact ⟨by simp only [List.append_assoc], run, allowed, nameEnds⟩

/-- The bare uses of a name in a text stand between the gaps, whatever comes before the text. -/
theorem bareUse_iff_between (run : IsRun name) (divides : Divides s found)
    (context before after : List Char) :
    s = before ++ name ++ after ∧ BareBetween name (context ++ before) after ↔
      Between name (gapsAround name (allows context) found) before after := by
  induction divides generalizing context before with
  | nil =>
    refine iff_of_false ?_ not_between_singleton
    rintro ⟨split, -⟩
    obtain ⟨front, -⟩ := List.append_eq_nil_iff.mp split.symm
    exact run.1 (List.append_eq_nil_iff.mp front).2
  | @gap c s rest between divides ih =>
    have next : allows (context ++ [c]) = isSeparator c := by
      rw [allows, List.getLast?_append]
      rfl
    rw [gapsAround, ← next, between_modifyHead]
    simp only [← ih]
    constructor
    · rintro ⟨split, bare⟩
      cases before with
      | nil =>
        have starts : startsWord (name ++ after) = false := split ▸ between
        exact (not_run_append run starts).elim
      | cons d later =>
        obtain ⟨rfl, rest⟩ := List.cons.inj split
        rw [List.append_cons] at bare
        exact ⟨later, rfl, rest, bare⟩
    · rintro ⟨later, rfl, rfl, bare⟩
      rw [List.append_assoc] at bare
      exact ⟨rfl, bare⟩
  | @word word s rest wordRun ends divides ih =>
    rw [bareUse_word_append wordRun ends, gapsAround]
    have later : gapsAround name false rest = gapsAround name (allows (context ++ word)) rest := by
      rw [allows_append_run wordRun]
    simp only [ih, ← later]
    by_cases own : allows context = true ∧ name = word
    · have spelled : name.intercalate (gapsAround name false rest) = s := by
        rw [← substitute_eq_intercalate]
        refine substitute_eq_self divides false fun other _ => ?_
        split
        · assumption
        · rfl
      rw [if_pos own, between_cons (gapsAround_ne_nil _ _ _), spelled, ← own.2]
      simp [own.1]
    · rw [if_neg own, between_modifyHead]
      simp [own]

/-- The bare uses of a name leave gaps in every text. -/
theorem gapsOf_tokens (run : IsRun name) (s : List Char) :
    GapsOf name s (gapsAround name true (tokens s)) := by
  have divides := divides_tokens s
  refine ⟨gapsAround_ne_nil _ _ _, ?_, bareUse_iff_between run divides []⟩
  rw [← substitute_eq_intercalate]
  refine substitute_eq_self divides true fun other _ => ?_
  split
  · assumption
  · rfl

end Uses

/-- A rule finds something in a line just when its name is used bare there. -/
theorem isMatch_iff_isUsedBare (rule : Rule) (line : String) :
    rule.isMatch line = true ↔ IsUsedBare rule.pattern.toList line.toList := by
  have gaps := gapsOf_tokens rule.isRun_pattern line.toList
  simp only [isMatch_iff_mem_bareNames, mem_bareNames_iff_between, IsUsedBare, gaps.uses]

/-- What a rule makes of a line is the line in which every bare use of its name gives way to the
new text at once. -/
theorem replacesBareUses_iff (rule : Rule) (line : String) (result : List Char) :
    ReplacesBareUses rule.pattern.toList rule.replacement.toList line.toList result ↔
      result = (rule.apply line).toList := by
  have gaps := gapsOf_tokens rule.isRun_pattern line.toList
  have applied : (rule.apply line).toList = rule.replacement.toList.intercalate
      (gapsAround rule.pattern.toList true (tokens line.toList)) := by
    rw [toList_apply, ← substitute_eq_intercalate]
    rfl
  constructor
  · rintro ⟨others, gapsToo, rfl⟩
    rw [applied, gaps.unique rule.isRun_pattern gapsToo]
  · rintro rfl
    exact ⟨_, gaps, applied⟩

end Rule

end Redirect
