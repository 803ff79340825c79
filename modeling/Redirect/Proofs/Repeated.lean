/-
# Redirecting a text twice

A redirector applies one rule to a line, the first one that finds something, so another name
on the same line is left for another time. Where the new texts lead with no name of their own
rules, redirecting the result finds nothing exactly when no unprotected line holds two names.
-/

import Redirect.Redirector
import Redirect.Proofs.Insertions
import Redirect.Proofs.Lines
import Redirect.Proofs.Respelling

namespace Redirect

open Text (Line ProperLines)

namespace Rule

theorem firstMatch_eq_none_iff (rules : List Rule) (line : String) :
    firstMatch rules line = none ↔ ∀ rule ∈ rules, rule.isMatch line = false := by
  rw [firstMatch, Option.map_eq_none_iff, List.find?_eq_none]
  constructor
  · intro unmatched rule member
    rw [← List.zipIdx_map_fst 0 rules] at member
    obtain ⟨entry, isEntry, rfl⟩ := List.mem_map.mp member
    exact Bool.not_eq_true _ ▸ unmatched entry isEntry
  · intro unmatched entry isEntry found
    have member := List.fst_mem_of_mem_zipIdx isEntry
    rw [unmatched entry.1 member] at found
    cases found

theorem exists_of_firstMatch {rules : List Rule} {line : String} {redirection : Redirection}
    (found : firstMatch rules line = some redirection) :
    ∃ rule ∈ rules, rule.isMatch line = true ∧ redirection.text = rule.apply line := by
  obtain ⟨entry, isFirst, rfl⟩ := Option.map_eq_some_iff.mp found
  have member := List.fst_mem_of_mem_zipIdx (List.mem_of_find?_eq_some isFirst)
  have isMatch := List.find?_some isFirst
  exact ⟨entry.1, member, isMatch, rfl⟩

end Rule

namespace Redirector

variable {redirector : Redirector}

/-! ## One line -/

theorem redirectLine_eq_none_iff (line : String) :
    redirector.redirectLine line = none ↔
      redirector.isProtected line = true ∨
        ∀ rule ∈ redirector.rules, rule.isMatch line = false := by
  rw [redirectLine]
  split
  · rename_i isProtected
    simp [isProtected]
  · rename_i unprotected
    rw [Option.map_eq_none_iff, Rule.firstMatch_eq_none_iff]
    simp [unprotected]

theorem exists_of_redirectLine {line new : String}
    (redirected : redirector.redirectLine line = some new) :
    redirector.isProtected line = false ∧
      ∃ rule ∈ redirector.rules, rule.isMatch line = true ∧ new = rule.apply line := by
  rw [redirectLine] at redirected
  split at redirected
  · cases redirected
  · rename_i unprotected
    obtain ⟨redirection, found, rfl⟩ := Option.map_eq_some_iff.mp redirected
    exact ⟨Bool.not_eq_true _ ▸ unprotected, Rule.exists_of_firstMatch found⟩

/-- What stands on a line after it was redirected. -/
def newBody (redirector : Redirector) (body : List Char) : List Char :=
  ((redirector.redirectLine (String.ofList body)).map String.toList).getD body

theorem newBody_of_none {body : List Char}
    (unaffected : redirector.redirectLine (String.ofList body) = none) :
    redirector.newBody body = body := by
  rw [newBody, unaffected]
  rfl

theorem newBody_of_some {body : List Char} {new : String}
    (affected : redirector.redirectLine (String.ofList body) = some new) :
    redirector.newBody body = new.toList := by
  rw [newBody, affected]
  rfl

/-- What holds of a line and of every line with a rule applied holds after redirecting. -/
theorem newBody_cases {motive : List Char → Prop} {body : List Char} (same : motive body)
    (applied : ∀ rule ∈ redirector.rules,
      motive (Rule.substitute rule.newWord true (Text.tokens body))) :
    motive (redirector.newBody body) := by
  cases redirected : redirector.redirectLine (String.ofList body) with
  | none =>
    rw [newBody_of_none redirected]
    exact same
  | some new =>
    obtain ⟨-, rule, member, -, rfl⟩ := exists_of_redirectLine redirected
    rw [newBody_of_some redirected, Rule.toList_apply, String.toList_ofList]
    exact applied rule member

/-- Rules that put in no line feed leave a line in one piece. -/
theorem feed_not_mem_newBody (puts : ∀ rule ∈ redirector.rules, '\n' ∉ rule.replacement.toList)
    {body : List Char} (plain : '\n' ∉ body) : '\n' ∉ redirector.newBody body := by
  refine newBody_cases (motive := ('\n' ∉ ·)) plain fun rule member => ?_
  apply Rule.not_mem_substitute _ (Text.divides_tokens body) plain
  intro name absent
  rw [Rule.newWord]
  split
  · exact puts rule member
  · exact absent

/-- A line is settled when it is protected or holds one name at most. -/
def Settled (redirector : Redirector) (line : String) : Prop :=
  redirector.isProtected line = true ∨
    ∀ first ∈ redirector.rules, ∀ second ∈ redirector.rules,
      first.isMatch line = true → second.isMatch line = true → first.pattern = second.pattern

/-- The rules put in texts that neither break a line nor empty it nor let its end run into its
ending. -/
structure KeepsLines (redirector : Redirector) : Prop where
  plain : ∀ rule ∈ redirector.rules, '\n' ∉ rule.replacement.toList
  fills : ∀ rule ∈ redirector.rules, rule.replacement.toList ≠ []
  bare : ∀ rule ∈ redirector.rules, rule.replacement.toList.getLast? ≠ some '\r'

/-- The rules keep lines apart and put in texts that lead with no name of a rule, and a line that
was redirected is not protected afterwards. -/
structure Qualifies (redirector : Redirector) : Prop extends redirector.KeepsLines where
  leads : ∀ rule ∈ redirector.rules, ∃ head,
    Rule.bareNames true (Text.tokens rule.replacement.toList) = [head] ∧
      ∀ other ∈ redirector.rules, head ≠ other.pattern.toList
  stays : ∀ rule ∈ redirector.rules, ∀ line, redirector.isProtected line = false →
    redirector.isProtected (rule.apply line) = false

namespace KeepsLines

variable (keeps : redirector.KeepsLines)
include keeps

theorem newWord_ne_nil {rule : Rule} (member : rule ∈ redirector.rules) (name : List Char)
    (nonempty : name ≠ []) : rule.newWord name ≠ [] := by
  rw [Rule.newWord]
  split
  · exact keeps.fills rule member
  · exact nonempty

theorem newBody_ne_nil {body : List Char} (nonempty : body ≠ []) :
    redirector.newBody body ≠ [] := by
  refine newBody_cases (motive := (· ≠ [])) nonempty fun rule member => ?_
  exact Rule.substitute_ne_nil (keeps.newWord_ne_nil member) (Text.divides_tokens body)
    nonempty true

theorem getLast?_newBody_ne {body : List Char} (bare : body.getLast? ≠ some '\r') :
    (redirector.newBody body).getLast? ≠ some '\r' := by
  refine newBody_cases (motive := (·.getLast? ≠ some '\r')) bare fun rule member => ?_
  apply Rule.getLast?_substitute_ne (keeps.newWord_ne_nil member) _
    (Text.divides_tokens body) bare
  intro name bareName
  rw [Rule.newWord]
  split
  · exact keeps.bare rule member
  · exact bareName

end KeepsLines

namespace Qualifies

variable (qualifies : redirector.Qualifies)
include qualifies

/-- A redirected line is left alone the next time just when it was settled. -/
theorem redirectLine_newBody (body : List Char) :
    redirector.redirectLine (String.ofList (redirector.newBody body)) = none ↔
      redirector.Settled (String.ofList body) := by
  cases redirected : redirector.redirectLine (String.ofList body) with
  | none =>
    rw [newBody_of_none redirected]
    refine iff_of_true redirected ?_
    rcases (redirectLine_eq_none_iff _).mp redirected with isProtected | unmatched
    · exact .inl isProtected
    · right
      intro first isFirst second isSecond found
      rw [unmatched first isFirst] at found
      cases found
  | some new =>
    obtain ⟨unprotected, rule, member, found, rfl⟩ := exists_of_redirectLine redirected
    obtain ⟨head, leads, apart⟩ := qualifies.leads rule member
    have stays := qualifies.stays rule member _ unprotected
    rw [newBody_of_some redirected, String.ofList_toList, redirectLine_eq_none_iff, stays,
      Settled, unprotected]
    simp only [Bool.false_eq_true, false_or]
    constructor
    · intro unmatched
      have own : ∀ other ∈ redirector.rules, other.isMatch (String.ofList body) = true →
          other.pattern = rule.pattern := by
        intro other isOther matched
        by_contra different
        have still := (Rule.isMatch_apply_iff leads (apart other isOther) _).mpr
          ⟨matched, different⟩
        rw [unmatched other isOther] at still
        cases still
      intro first isFirst second isSecond firstFound secondFound
      rw [own first isFirst firstFound, own second isSecond secondFound]
    · intro single other isOther
      rw [← Bool.not_eq_true, Rule.isMatch_apply_iff leads (apart other isOther)]
      rintro ⟨matched, different⟩
      exact different (single other isOther rule member matched found)

end Qualifies

/-! ## Whole texts -/

theorem hits_eq_nil_iff (path : Path) (lines : List Line) :
    redirector.hits path lines = [] ↔
      ∀ line ∈ lines, redirector.redirectLine (String.ofList line.body) = none := by
  rw [hits, List.filterMap_eq_nil_iff]
  constructor
  · intro unaffected line member
    rw [← List.zipIdx_map_fst 1 lines] at member
    obtain ⟨entry, isEntry, rfl⟩ := List.mem_map.mp member
    exact Option.map_eq_none_iff.mp (unaffected entry isEntry)
  · intro unaffected entry isEntry
    exact Option.map_eq_none_iff.mpr (unaffected entry.1 (List.fst_mem_of_mem_zipIdx isEntry))

theorem redirectText_eq_none_iff (path : Path) (text : String) :
    redirector.redirectText path text = none ↔
      ∀ line ∈ Line.ofText text.toList,
        redirector.redirectLine (String.ofList line.body) = none := by
  rw [← hits_eq_nil_iff path, redirectText]
  simp

/-- The text after redirection, whether or not a line changes. -/
def newText (redirector : Redirector) (text : String) : String :=
  String.ofList
    (Line.toText ((Line.ofText text.toList).map (Line.mapBody redirector.newBody)))

theorem flatMap_newLine (lines : List Line) :
    lines.flatMap redirector.newLine =
      Line.toText (lines.map (Line.mapBody redirector.newBody)) := by
  rw [Line.toText, List.flatMap_map]
  rfl

/-- Redirecting a text tells its lines that change, and gives the new text with them if there are
any. -/
theorem redirectText_eq (path : Path) (text : String) :
    redirector.redirectText path text =
      if (redirector.hits path (Line.ofText text.toList)).isEmpty then none
      else some (redirector.newText text, redirector.hits path (Line.ofText text.toList)) := by
  rw [redirectText, newText, ← flatMap_newLine]

theorem fst_redirectText (path : Path) (text : String) :
    ((redirector.redirectText path text).map Prod.fst).getD text = redirector.newText text := by
  cases redirected : redirector.redirectText path text with
  | none =>
    have unaffected := (redirectText_eq_none_iff path text).mp redirected
    have same : (Line.ofText text.toList).map (Line.mapBody redirector.newBody) =
        Line.ofText text.toList := by
      refine (List.map_congr_left fun line member => ?_).trans (List.map_id _)
      rw [Line.mapBody, newBody_of_none (unaffected line member)]
      rfl
    rw [newText, same, Line.toText_ofText, String.ofList_toList]
    rfl
  | some found =>
    rw [redirectText] at redirected
    split at redirected
    · cases redirected
    · cases redirected
      rw [newText, ← flatMap_newLine]
      rfl

theorem eq_newText_of_redirectText {path : Path} {text next : String} {hits : List Hit}
    (affected : redirector.redirectText path text = some (next, hits)) :
    next = redirector.newText text := by
  rw [← fst_redirectText path, affected]
  rfl

theorem eq_hits_of_redirectText {path : Path} {text next : String} {hits : List Hit}
    (affected : redirector.redirectText path text = some (next, hits)) :
    hits = redirector.hits path (Line.ofText text.toList) := by
  rw [redirectText] at affected
  split at affected
  · cases affected
  · exact (Prod.mk.inj (Option.some.inj affected)).2.symm

theorem KeepsLines.ofText_newText (keeps : redirector.KeepsLines) (text : String) :
    Line.ofText (redirector.newText text).toList =
      (Line.ofText text.toList).map (Line.mapBody redirector.newBody) := by
  rw [newText, String.toList_ofList]
  apply Line.ofText_toText
  exact Line.properLines_map (Line.properLines_ofText text.toList)
    (fun _ => keeps.newBody_ne_nil) (fun _ => feed_not_mem_newBody keeps.plain)
    (fun _ => keeps.getLast?_newBody_ne)

/-- Redirecting a text again finds nothing just when every line was settled at first. -/
theorem Qualifies.redirectText_newText (qualifies : redirector.Qualifies) (path : Path)
    (text : String) :
    redirector.redirectText path (redirector.newText text) = none ↔
      ∀ line ∈ Line.ofText text.toList, redirector.Settled (String.ofList line.body) := by
  rw [redirectText_eq_none_iff, qualifies.ofText_newText, List.forall_mem_map]
  constructor
  · intro unaffected line member
    exact (qualifies.redirectLine_newBody line.body).mp (unaffected line member)
  · intro settled line member
    exact (qualifies.redirectLine_newBody line.body).mpr (settled line member)

end Redirector

end Redirect
