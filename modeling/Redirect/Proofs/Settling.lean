/-
# Redirecting a text until it settles

A pass redirects one name on each unprotected line that holds some, and takes no other name
away. Where the rules lead away from their names it brings in none either, so the names left
on a line become fewer with each pass. The longest line settles last: redirecting a text over
and over ends after at most as many passes as names are left on one line. With the built-in
configuration no line comes to be protected on the way, and it takes exactly as many.
-/

import Mathlib
import Redirect.Proofs.Builtin

namespace Redirect

open Text (Line)

namespace Redirector

/-- The names left on a line: those of the rules that stand bare there, unless the line is
protected. -/
def namesLeft (redirector : Redirector) (line : String) : Finset (List Char) :=
  if redirector.isProtected line then ∅
  else (redirector.rules.map fun rule => rule.pattern.toList).toFinset ∩
    (Rule.bareNames true (Text.tokens line.toList)).toFinset

/-- The greatest number of names left on one line of a text. -/
def depth (redirector : Redirector) (text : String) : Nat :=
  (Line.ofText text.toList).toFinset.sup fun line =>
    (redirector.namesLeft (String.ofList line.body)).card

/-- Redirecting a text over and over finds something in a number of passes, then nothing more,
and leaves a final text. -/
inductive SettlesIn (redirector : Redirector) (path : Path) : Nat → String → String → Prop
  | still {text : String} (unaffected : redirector.redirectText path text = none) :
      SettlesIn redirector path 0 text text
  | pass {passes : Nat} {text next final : String} {hits : List Hit}
      (affected : redirector.redirectText path text = some (next, hits))
      (rest : SettlesIn redirector path passes next final) :
      SettlesIn redirector path (passes + 1) text final

variable {redirector : Redirector} {path : Path} {text : String}

/-! ## One line -/

theorem mem_namesLeft {name : List Char} {line : String} :
    name ∈ redirector.namesLeft line ↔ redirector.isProtected line = false ∧
      ∃ rule ∈ redirector.rules, rule.pattern.toList = name ∧ rule.isMatch line = true := by
  cases isProtected : redirector.isProtected line with
  | true => simp [namesLeft, isProtected]
  | false =>
    simp only [namesLeft, isProtected, Bool.false_eq_true, if_false, Finset.mem_inter,
      List.mem_toFinset, List.mem_map, true_and]
    constructor
    · rintro ⟨⟨rule, member, rfl⟩, bare⟩
      exact ⟨rule, member, rfl, (rule.isMatch_iff_mem_bareNames line).mpr bare⟩
    · rintro ⟨rule, member, rfl, found⟩
      exact ⟨⟨rule, member, rfl⟩, (rule.isMatch_iff_mem_bareNames line).mp found⟩

theorem namesLeft_eq_empty_iff (line : String) :
    redirector.namesLeft line = ∅ ↔ redirector.redirectLine line = none := by
  rw [redirectLine_eq_none_iff, Finset.eq_empty_iff_forall_notMem]
  constructor
  · intro none
    cases isProtected : redirector.isProtected line with
    | true => exact .inl rfl
    | false =>
      right
      intro rule member
      rw [← Bool.not_eq_true]
      intro found
      exact none _ (mem_namesLeft.mpr ⟨isProtected, rule, member, rfl, found⟩)
  · rintro settled name left
    obtain ⟨unprotected, rule, member, -, found⟩ := mem_namesLeft.mp left
    rcases settled with isProtected | unmatched
    · exact Bool.noConfusion (unprotected.symm.trans isProtected)
    · exact Bool.noConfusion ((unmatched rule member).symm.trans found)

theorem isProtected_newBody
    (stays : ∀ rule ∈ redirector.rules, ∀ line, redirector.isProtected line = false →
      redirector.isProtected (rule.apply line) = false) {body : List Char}
    (before : redirector.isProtected (String.ofList body) = false) :
    redirector.isProtected (String.ofList (redirector.newBody body)) = false := by
  cases redirected : redirector.redirectLine (String.ofList body) with
  | none =>
    rw [newBody_of_none redirected]
    exact before
  | some new =>
    obtain ⟨-, rule, member, -, rfl⟩ := exists_of_redirectLine redirected
    rw [newBody_of_some redirected, String.ofList_toList]
    exact stays rule member _ before

namespace LeadsAway

variable (leadsAway : redirector.LeadsAway)
include leadsAway

/-- Applying a rule takes its name from the names left on a line, and changes no other. -/
theorem namesLeft_apply {rule : Rule} (member : rule ∈ redirector.rules) {line : String}
    (before : redirector.isProtected line = false)
    (after : redirector.isProtected (rule.apply line) = false) :
    redirector.namesLeft (rule.apply line) =
      (redirector.namesLeft line).erase rule.pattern.toList := by
  obtain ⟨head, leads, apart⟩ := leadsAway.leads rule member
  ext name
  rw [Finset.mem_erase, mem_namesLeft, mem_namesLeft, before, after]
  constructor
  · rintro ⟨-, other, isOther, rfl, found⟩
    obtain ⟨foundBefore, different⟩ :=
      (Rule.isMatch_apply_iff leads (apart other isOther) _).mp found
    exact ⟨fun same => different (String.toList_inj.mp same), rfl, other, isOther, rfl,
      foundBefore⟩
  · rintro ⟨different, -, other, isOther, rfl, found⟩
    refine ⟨rfl, other, isOther, rfl, ?_⟩
    exact (Rule.isMatch_apply_iff leads (apart other isOther) _).mpr
      ⟨found, fun same => different (by rw [same])⟩

/-- A pass takes one name from a line that has names left, provided that the line does not come
to be protected. -/
theorem card_namesLeft_newBody (body : List Char)
    (stays : redirector.isProtected (String.ofList body) = false →
      redirector.isProtected (String.ofList (redirector.newBody body)) = false) :
    (redirector.namesLeft (String.ofList (redirector.newBody body))).card =
      (redirector.namesLeft (String.ofList body)).card - 1 := by
  cases redirected : redirector.redirectLine (String.ofList body) with
  | none =>
    rw [newBody_of_none redirected, (namesLeft_eq_empty_iff _).mpr redirected]
    rfl
  | some new =>
    obtain ⟨before, rule, member, found, rfl⟩ := exists_of_redirectLine redirected
    have after := stays before
    rw [newBody_of_some redirected, String.ofList_toList] at after ⊢
    rw [leadsAway.namesLeft_apply member before after]
    exact Finset.card_erase_of_mem (mem_namesLeft.mpr ⟨before, rule, member, rfl, found⟩)

/-- A pass takes a name from each line that has names left; a line that comes to be protected
loses all of them. -/
theorem card_namesLeft_newBody_le (body : List Char) :
    (redirector.namesLeft (String.ofList (redirector.newBody body))).card ≤
      (redirector.namesLeft (String.ofList body)).card - 1 := by
  cases after : redirector.isProtected (String.ofList (redirector.newBody body)) with
  | false => exact (leadsAway.card_namesLeft_newBody body fun _ => after).le
  | true =>
    rw [namesLeft, if_pos after]
    exact Nat.zero_le _

end LeadsAway

/-! ## Whole texts -/

theorem card_namesLeft_le_depth {line : Line} (member : line ∈ Line.ofText text.toList) :
    (redirector.namesLeft (String.ofList line.body)).card ≤ redirector.depth text :=
  Finset.le_sup (f := fun line => (redirector.namesLeft (String.ofList line.body)).card)
    (List.mem_toFinset.mpr member)

theorem depth_le_iff {bound : Nat} :
    redirector.depth text ≤ bound ↔ ∀ line ∈ Line.ofText text.toList,
      (redirector.namesLeft (String.ofList line.body)).card ≤ bound := by
  rw [depth, Finset.sup_le_iff]
  simp only [List.mem_toFinset]

/-- A text is settled when no name is left on any line. -/
theorem redirectText_eq_none_iff_depth :
    redirector.redirectText path text = none ↔ redirector.depth text = 0 := by
  rw [redirectText_eq_none_iff, ← Nat.le_zero, depth_le_iff]
  simp only [Nat.le_zero, Finset.card_eq_zero, namesLeft_eq_empty_iff]

namespace LeadsAway

variable (leadsAway : redirector.LeadsAway)
include leadsAway

theorem forall_line_newText_iff {motive : List Char → Prop} :
    (∀ line ∈ Line.ofText (redirector.newText text).toList, motive line.body) ↔
      ∀ line ∈ Line.ofText text.toList, motive (redirector.newBody line.body) := by
  rw [leadsAway.keepsLines.ofText_newText, List.forall_mem_map]
  rfl

/-- A pass lowers the greatest number of names left. -/
theorem depth_newText_le (text : String) :
    redirector.depth (redirector.newText text) ≤ redirector.depth text - 1 := by
  rw [depth_le_iff, leadsAway.forall_line_newText_iff
    (motive := fun body => (redirector.namesLeft (String.ofList body)).card ≤ _)]
  intro line member
  have fewer := leadsAway.card_namesLeft_newBody_le line.body
  have bounded : (redirector.namesLeft (String.ofList line.body)).card ≤ redirector.depth text :=
    card_namesLeft_le_depth member
  omega

/-- A pass lowers the greatest number of names left by one, if a line that is not protected
stays so. -/
theorem depth_newText
    (stays : ∀ rule ∈ redirector.rules, ∀ line, redirector.isProtected line = false →
      redirector.isProtected (rule.apply line) = false) (text : String) :
    redirector.depth (redirector.newText text) = redirector.depth text - 1 := by
  apply Nat.le_antisymm (leadsAway.depth_newText_le text)
  rw [Nat.sub_le_iff_le_add, depth_le_iff]
  intro line member
  have fewer := leadsAway.card_namesLeft_newBody line.body (isProtected_newBody stays)
  have bounded := leadsAway.forall_line_newText_iff
    (motive := fun body => (redirector.namesLeft (String.ofList body)).card ≤
      redirector.depth (redirector.newText text)) |>.mp
    (fun line member => card_namesLeft_le_depth member) line member
  omega

end LeadsAway

/-! ## Passes over a text -/

theorem depth_pos_of_redirectText {found : String × List Hit}
    (affected : redirector.redirectText path text = some found) : 0 < redirector.depth text := by
  apply Nat.pos_of_ne_zero
  intro nothing
  rw [redirectText_eq_none_iff_depth.mpr nothing] at affected
  cases affected

namespace LeadsAway

variable (leadsAway : redirector.LeadsAway)
include leadsAway

theorem passes_le_depth {passes : Nat} {final : String}
    (settles : redirector.SettlesIn path passes text final) :
    passes ≤ redirector.depth text := by
  induction settles with
  | still unaffected => exact Nat.zero_le _
  | @pass passes text next final hits affected rest ih =>
    have positive := depth_pos_of_redirectText affected
    have lower := leadsAway.depth_newText_le text
    rw [← eq_newText_of_redirectText affected] at lower
    omega

theorem passes_eq_depth
    (stays : ∀ rule ∈ redirector.rules, ∀ line, redirector.isProtected line = false →
      redirector.isProtected (rule.apply line) = false) {passes : Nat} {final : String}
    (settles : redirector.SettlesIn path passes text final) :
    passes = redirector.depth text := by
  induction settles with
  | still unaffected => exact (redirectText_eq_none_iff_depth.mp unaffected).symm
  | @pass passes text next final hits affected rest ih =>
    have positive := depth_pos_of_redirectText affected
    have lower := leadsAway.depth_newText stays text
    rw [← eq_newText_of_redirectText affected] at lower
    omega

/-- Redirecting a text over and over comes to an end. -/
theorem exists_settlesIn (path : Path) (text : String) :
    ∃ passes final, redirector.SettlesIn path passes text final := by
  -- The depth bounds the passes still to come, and each pass lowers it.
  induction bound : redirector.depth text using Nat.strong_induction_on generalizing text with
  | _ depth ih =>
    cases redirected : redirector.redirectText path text with
    | none => exact ⟨0, text, .still redirected⟩
    | some found =>
      obtain ⟨next, hits⟩ := found
      have positive := depth_pos_of_redirectText redirected
      have lower := leadsAway.depth_newText_le text
      rw [← eq_newText_of_redirectText redirected] at lower
      obtain ⟨passes, final, settles⟩ := ih _ (by omega) next rfl
      exact ⟨passes + 1, final, .pass redirected settles⟩

end LeadsAway

/-- Whatever lines are protected, redirecting a text over and over comes to an end if the rules
lead away from their names, and takes at most as many passes as there are names left on one
line. With the built-in configuration it takes exactly as many. -/
theorem settles_within_depth (path : Path) (text : String) :
    (∀ redirector : Redirector, redirector.LeadsAway →
      (∃ passes final, redirector.SettlesIn path passes text final) ∧
        ∀ passes final, redirector.SettlesIn path passes text final →
          passes ≤ redirector.depth text) ∧
    ∀ redirector, ofConfiguration .builtin = .ok redirector →
      redirector.LeadsAway ∧
        ∀ passes final, redirector.SettlesIn path passes text final →
          passes = redirector.depth text := by
  constructor
  · intro redirector leadsAway
    exact ⟨leadsAway.exists_settlesIn path text, fun _ _ => leadsAway.passes_le_depth⟩
  · intro redirector isBuiltin
    rw [ofConfiguration_builtin] at isBuiltin
    cases isBuiltin
    exact ⟨leadsAway_builtin, fun _ _ => leadsAway_builtin.passes_eq_depth stays_builtin⟩

/-- One call inside another takes two passes, whatever stands on the protected line. -/
theorem settles_within_depth_of_nested_calls :
    ∃ final, builtin.SettlesIn (.ofText "a.lua") 2
      "x = list(dict(1))\nlocal split = repr(list(dict(2)))\n" final := by
  obtain ⟨within, exactly⟩ := settles_within_depth (.ofText "a.lua")
    "x = list(dict(1))\nlocal split = repr(list(dict(2)))\n"
  obtain ⟨⟨passes, final, settles⟩, -⟩ := within builtin leadsAway_builtin
  have count := (exactly builtin ofConfiguration_builtin).2 passes final settles
  have depth : builtin.depth "x = list(dict(1))\nlocal split = repr(list(dict(2)))\n" = 2 := by
    decide
  rw [count, depth] at settles
  exact ⟨final, settles⟩

end Redirector

end Redirect
