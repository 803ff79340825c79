/-
# What becomes of a text

A text falls into lines in one way. A line of it is hit when it is not protected and the name of
some rule is used bare on it. The hit lines are told with their numbers, and a new text is made
of the old one line by line: a hit line has every bare use of one name replaced, that of the first
rule whose name is used there, whatever later rules would find; every other line stays as it is;
and each line keeps its own ending. This says all there is to say: what is told and the new text
are determined by it.
-/

import Redirect.Proofs.BareUses
import Redirect.Proofs.ChangedLines

namespace Redirect

open Text (Line ProperLines IsUsedBare ReplacesBareUses)

namespace Redirector

/-- A line is hit: it is not protected, and the name of some rule is used bare on it. -/
def IsHit (redirector : Redirector) (body : List Char) : Prop :=
  redirector.isProtected (String.ofList body) = false ∧
    ∃ rule ∈ redirector.rules, IsUsedBare rule.pattern.toList body

/-- What becomes of the body of a line. -/
inductive Becomes (redirector : Redirector) : List Char → List Char → Prop
  /-- A line that is not hit stays as it is. -/
  | kept {body : List Char} (missed : ¬redirector.IsHit body) : Becomes redirector body body
  /-- On a line that is hit, the first rule whose name is used bare there replaces all uses. -/
  | redirected {body new : List Char} {index : Nat} {rule : Rule}
      (unprotected : redirector.isProtected (String.ofList body) = false)
      (here : redirector.rules[index]? = some rule)
      (used : IsUsedBare rule.pattern.toList body)
      (first : ∀ earlier < index, ∀ other ∈ redirector.rules[earlier]?,
        ¬IsUsedBare other.pattern.toList body)
      (replaced : ReplacesBareUses rule.pattern.toList rule.replacement.toList body new) :
      Becomes redirector body new

/-- What is told about the lines of a file, and the text that is made of them. -/
structure Redirects (redirector : Redirector) (path : Path) (lines : List Line)
    (result : String) (hits : List Hit) : Prop where
  /-- The hit lines are told, each with its number and as it was. -/
  told : ∀ hit, hit ∈ hits ↔ ∃ index line, lines[index]? = some line ∧
    redirector.IsHit line.body ∧ hit = ⟨path, index + 1, String.ofList line.body⟩
  ascending : hits.Pairwise fun first second => first.line < second.line
  /-- Each line becomes one with the same ending, in the same place. -/
  spelled : ∃ newLines, result.toList = Line.toText newLines ∧
    List.Forall₂ (fun old new => new.ending = old.ending ∧ redirector.Becomes old.body new.body)
      lines newLines

variable {redirector : Redirector}

/-! ## One line -/

theorem isMatch_ofList_iff (rule : Rule) (body : List Char) :
    rule.isMatch (String.ofList body) = true ↔ IsUsedBare rule.pattern.toList body := by
  rw [rule.isMatch_iff_isUsedBare, String.toList_ofList]

theorem isHit_iff_redirectLine (body : List Char) :
    redirector.IsHit body ↔ redirector.redirectLine (String.ofList body) ≠ none := by
  rw [ne_eq, redirectLine_eq_none_iff, not_or, Bool.not_eq_true, IsHit]
  simp only [← isMatch_ofList_iff, not_forall, Bool.not_eq_false, exists_prop]

/-- The rule that is applied to a line is the first one whose name is used bare there. -/
theorem ruleFor_eq_some_iff (body : List Char) (rule : Rule) :
    redirector.ruleFor (String.ofList body) = some rule ↔
      redirector.isProtected (String.ofList body) = false ∧
        ∃ index : Nat, redirector.rules[index]? = some rule ∧
          IsUsedBare rule.pattern.toList body ∧
          ∀ earlier < index, ∀ other ∈ redirector.rules[earlier]?,
            ¬IsUsedBare other.pattern.toList body := by
  rw [ruleFor]
  cases redirector.isProtected (String.ofList body) with
  | true => simp
  | false =>
    rw [if_neg Bool.false_ne_true, List.find?_eq_some_iff_getElem, eq_self, true_and]
    simp only [← isMatch_ofList_iff, Bool.not_eq_true, Bool.not_eq_eq_eq_not, Bool.not_true]
    constructor
    · rintro ⟨used, index, inside, rfl, first⟩
      refine ⟨index, List.getElem?_eq_getElem inside, used, fun earlier before other isOther => ?_⟩
      obtain ⟨-, rfl⟩ := List.getElem?_eq_some_iff.mp isOther
      exact first earlier before
    · rintro ⟨index, here, used, first⟩
      obtain ⟨inside, rfl⟩ := List.getElem?_eq_some_iff.mp here
      exact ⟨used, index, inside, rfl, fun earlier before =>
        first earlier before _ (List.getElem?_eq_getElem (before.trans inside))⟩

theorem isHit_iff_ruleFor (body : List Char) :
    redirector.IsHit body ↔ redirector.ruleFor (String.ofList body) ≠ none := by
  rw [isHit_iff_redirectLine, redirectLine_eq_map_ruleFor, ne_eq, Option.map_eq_none_iff]

/-- What becomes of a line is what stands on it after it was redirected. -/
theorem becomes_iff (body new : List Char) :
    redirector.Becomes body new ↔ new = redirector.newBody body := by
  cases applied : redirector.ruleFor (String.ofList body) with
  | none =>
    have missed : ¬redirector.IsHit body := by
      rw [isHit_iff_ruleFor, applied]
      exact fun hit => hit rfl
    rw [newBody_of_ruleFor_none applied]
    constructor
    · intro becomes
      cases becomes with
      | kept => rfl
      | redirected unprotected here used =>
        exact absurd ⟨unprotected, _, List.mem_of_getElem? here, used⟩ missed
    · rintro rfl
      exact .kept missed
  | some rule =>
    have affected : redirector.redirectLine (String.ofList body) =
        some (rule.apply (String.ofList body)) := by
      rw [redirectLine_eq_map_ruleFor, applied]
      rfl
    have replaces := rule.replacesBareUses_iff (String.ofList body) new
    rw [String.toList_ofList, ← newBody_of_some affected] at replaces
    rw [← replaces]
    constructor
    · intro becomes
      cases becomes with
      | kept missed =>
        rw [isHit_iff_ruleFor, applied] at missed
        exact absurd (Option.some_ne_none rule) missed
      | redirected unprotected here used first replaced =>
        have same := (ruleFor_eq_some_iff body _).mpr ⟨unprotected, _, here, used, first⟩
        rw [applied] at same
        cases same
        exact replaced
    · intro replaced
      obtain ⟨unprotected, index, here, used, first⟩ := (ruleFor_eq_some_iff body rule).mp applied
      exact .redirected unprotected here used first replaced

/-! ## The lines of a text -/

theorem mem_hits_iff (path : Path) (lines : List Line) (hit : Hit) :
    hit ∈ redirector.hits path lines ↔ ∃ index line, lines[index]? = some line ∧
      redirector.IsHit line.body ∧ hit = ⟨path, index + 1, String.ofList line.body⟩ := by
  rw [hits, List.mem_filterMap]
  constructor
  · rintro ⟨⟨line, number⟩, isEntry, told⟩
    rw [List.mem_zipIdx_iff_le_and_getElem?_sub] at isEntry
    obtain ⟨new, affected, rfl⟩ := Option.map_eq_some_iff.mp told
    refine ⟨number - 1, line, isEntry.2, ?_, ?_⟩
    · rw [isHit_iff_redirectLine, affected]
      exact Option.some_ne_none new
    · rw [Nat.sub_add_cancel isEntry.1]
  · rintro ⟨index, line, here, hit, rfl⟩
    refine ⟨(line, index + 1), ?_, ?_⟩
    · rw [List.mem_zipIdx_iff_le_and_getElem?_sub]
      exact ⟨Nat.le_add_left 1 index, here⟩
    · rw [isHit_iff_redirectLine, Option.ne_none_iff_exists'] at hit
      obtain ⟨new, affected⟩ := hit
      exact Option.map_eq_some_iff.mpr ⟨new, affected, rfl⟩

theorem ascending_hits (path : Path) (lines : List Line) :
    (redirector.hits path lines).Pairwise fun first second => first.line < second.line := by
  have numbered : (lines.zipIdx 1).Pairwise fun first second => first.2 < second.2 := by
    rw [← List.pairwise_map (f := Prod.snd) (R := (· < ·)), List.zipIdx_map_snd]
    exact List.pairwise_lt_range' 1
  rw [hits, List.pairwise_filterMap]
  refine numbered.imp fun smaller first isFirst second isSecond => ?_
  obtain ⟨-, -, rfl⟩ := Option.map_eq_some_iff.mp isFirst
  obtain ⟨-, -, rfl⟩ := Option.map_eq_some_iff.mp isSecond
  exact smaller

/-- Hits that are told in order are determined by what is told. -/
theorem eq_of_ascending {first second : List Hit}
    (ascends : first.Pairwise fun first second => first.line < second.line)
    (ascendsToo : second.Pairwise fun first second => first.line < second.line)
    (same : ∀ hit, hit ∈ first ↔ hit ∈ second) : first = second := by
  have distinct : ∀ {hits : List Hit},
      (hits.Pairwise fun first second => first.line < second.line) → hits.Nodup := fun ascends =>
    ascends.imp fun smaller same => absurd (congrArg Hit.line same) smaller.ne
  have perm := (List.perm_ext_iff_of_nodup (distinct ascends) (distinct ascendsToo)).mpr same
  exact perm.eq_of_pairwise (fun _ _ _ _ less more => absurd more less.not_gt) ascends ascendsToo

theorem newLines_iff (lines newLines : List Line) :
    List.Forall₂ (fun old new => new.ending = old.ending ∧ redirector.Becomes old.body new.body)
        lines newLines ↔
      newLines = lines.map (Line.mapBody redirector.newBody) := by
  have one : ∀ old new : Line,
      new.ending = old.ending ∧ redirector.Becomes old.body new.body ↔
        Line.mapBody redirector.newBody old = new := by
    rintro ⟨oldBody, oldEnding⟩ ⟨newBody, newEnding⟩
    rw [becomes_iff, Line.mapBody, Line.mk.injEq, and_comm, eq_comm, @eq_comm _ newEnding]
  simp only [one]
  rw [eq_comm, ← List.forall₂_eq_eq_eq, List.forall₂_map_left_iff]

/-- What is told about lines and what is made of them is determined by them. -/
theorem redirects_iff (path : Path) (lines : List Line) (result : String) (hits : List Hit) :
    redirector.Redirects path lines result hits ↔
      result = String.ofList (Line.toText (lines.map (Line.mapBody redirector.newBody))) ∧
        hits = redirector.hits path lines := by
  constructor
  · rintro ⟨told, ascending, newLines, spelled, becomes⟩
    rw [newLines_iff] at becomes
    subst becomes
    refine ⟨?_, eq_of_ascending ascending (ascending_hits path lines) fun hit => ?_⟩
    · rw [← spelled, String.ofList_toList]
    · rw [told, mem_hits_iff]
  · rintro ⟨rfl, rfl⟩
    exact ⟨mem_hits_iff path lines, ascending_hits path lines, _, String.toList_ofList,
      (newLines_iff _ _).mpr rfl⟩

/-- The text falls into lines in one way. Redirecting the text gives nothing just when none of
them is hit; else it gives what is told about them and the text that is made of them. -/
theorem redirectText_spec (redirector : Redirector) (path : Path) (text : String) :
    ∃ lines, (∀ others, ProperLines others ∧ Line.toText others = text.toList ↔ others = lines) ∧
      (redirector.redirectText path text = none ↔ ∀ line ∈ lines, ¬redirector.IsHit line.body) ∧
      ∀ result hits, redirector.redirectText path text = some (result, hits) ↔
        (∃ line ∈ lines, redirector.IsHit line.body) ∧
          redirector.Redirects path lines result hits := by
  have missed : redirector.redirectText path text = none ↔
      ∀ line ∈ Line.ofText text.toList, ¬redirector.IsHit line.body := by
    simp only [redirectText_eq_none_iff, isHit_iff_redirectLine, not_ne_iff]
  refine ⟨Line.ofText text.toList, fun others => ⟨?_, ?_⟩, missed, fun result hits => ?_⟩
  · rintro ⟨proper, spelled⟩
    rw [← spelled, Line.ofText_toText proper]
  · rintro rfl
    exact ⟨Line.properLines_ofText _, Line.toText_ofText _⟩
  · rw [redirects_iff]
    constructor
    · intro affected
      refine ⟨?_, eq_newText_of_redirectText affected, eq_hits_of_redirectText affected⟩
      by_contra none
      rw [missed.mpr fun line member hit => none ⟨line, member, hit⟩] at affected
      cases affected
    · rintro ⟨⟨line, member, hit⟩, rfl, rfl⟩
      cases redirected : redirector.redirectText path text with
      | none => exact absurd hit (missed.mp redirected line member)
      | some found =>
        obtain ⟨next, others⟩ := found
        rw [eq_newText_of_redirectText redirected, eq_hits_of_redirectText redirected]
        rfl

/-- A carriage return before a line feed belongs to the ending, a lone one to the body. -/
example :
    (redirecting ⟨"dict", "utils.dict", by decide⟩).redirectText (.ofText "a.lua")
        "dict(1)\r\nx.dict\n\rdict" =
      some ("utils.dict(1)\r\nx.dict\n\rutils.dict",
        [⟨.ofText "a.lua", 1, "dict(1)"⟩, ⟨.ofText "a.lua", 3, "\rdict"⟩]) :=
  rfl

end Redirector

end Redirect
