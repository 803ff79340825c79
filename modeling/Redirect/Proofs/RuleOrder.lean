/-
# The order of the rules does not matter in the end

A pass applies one rule to a line, the first one that finds something, so what it makes of a
text depends on the order of the rules. Where the rules have different names, lead away from
them and leave the protection of lines alone, the passes meet in one text: the one in which the
bare names of all rules were replaced at once. A pass changes the text, but not what becomes of
it when all names are replaced at once, and a settled text becomes itself.
-/

import Redirect.Proofs.Settling

namespace Redirect

open Text (Line)

namespace Rule

/-- What a sequence of rules puts in place of a bare word: the new text of the rule that has the
word as its name. -/
def newWords (rules : List Rule) (word : List Char) : List Char :=
  ((rules.find? fun rule => rule.pattern.toList == word).map (·.replacement.toList)).getD word

variable {rules : List Rule} {rule : Rule} {word : List Char}

theorem newWords_of_mem (distinct : (rules.map Rule.pattern).Nodup) (member : rule ∈ rules) :
    newWords rules rule.pattern.toList = rule.replacement.toList := by
  cases found : rules.find? fun other => other.pattern.toList == rule.pattern.toList with
  | none =>
    have missing := List.find?_eq_none.mp found rule member
    exact absurd (beq_self_eq_true _) missing
  | some other =>
    have isFound := List.find?_some found
    have same := List.inj_on_of_nodup_map distinct (List.mem_of_find?_eq_some found) member
      (String.toList_inj.mp (eq_of_beq isFound))
    rw [newWords, found, same]
    rfl

theorem newWords_of_foreign (foreign : ∀ rule ∈ rules, word ≠ rule.pattern.toList) :
    newWords rules word = word := by
  have missing : rules.find? (fun rule => rule.pattern.toList == word) = none := by
    rw [List.find?_eq_none]
    intro rule member same
    exact foreign rule member (eq_of_beq same).symm
  rw [newWords, missing]
  rfl

theorem newWords_perm {others : List Rule} (reordered : others.Perm rules)
    (distinct : (rules.map Rule.pattern).Nodup) : newWords others = newWords rules := by
  funext word
  by_cases named : ∃ rule ∈ rules, word = rule.pattern.toList
  · obtain ⟨rule, member, rfl⟩ := named
    have distinctOthers := (reordered.map Rule.pattern).nodup_iff.mpr distinct
    rw [newWords_of_mem distinct member,
      newWords_of_mem distinctOthers (reordered.mem_iff.mpr member)]
  · have foreign : ∀ rule ∈ rules, word ≠ rule.pattern.toList := fun rule member same =>
      named ⟨rule, member, same⟩
    rw [newWords_of_foreign foreign,
      newWords_of_foreign fun rule member => foreign rule (reordered.mem_iff.mp member)]

end Rule

namespace Redirector

/-- A line in which the bare names of all rules were replaced at once, unless it is
protected. -/
def bodyAtOnce (redirector : Redirector) (body : List Char) : List Char :=
  if redirector.isProtected (String.ofList body) then body
  else Rule.substitute (Rule.newWords redirector.rules) true (Text.tokens body)

/-- A text in which the bare names of all rules were replaced at once on every line that is not
protected. -/
def textAtOnce (redirector : Redirector) (text : String) : String :=
  String.ofList (Line.toText ((Line.ofText text.toList).map (Line.mapBody redirector.bodyAtOnce)))

/-- The redirector with other rules. -/
def withRules (redirector : Redirector) (rules : List Rule) : Redirector :=
  { redirector with rules := rules }

/-- The rules have different names, lead away from them, and leave the protection of every line
as it is. -/
structure Independent (redirector : Redirector) : Prop where
  distinct : (redirector.rules.map Rule.pattern).Nodup
  leadsAway : redirector.LeadsAway
  keeps : ∀ rule ∈ redirector.rules, ∀ line,
    redirector.isProtected (rule.apply line) = redirector.isProtected line

namespace Independent

variable {redirector : Redirector} {path : Path} {text : String}
variable (independent : redirector.Independent)
include independent

/-! ## One line -/

/-- The new text of a rule holds no name that is still to be replaced. -/
theorem substitute_replacement {rule : Rule} (member : rule ∈ redirector.rules) :
    Rule.substitute (Rule.newWords redirector.rules) true
        (Text.tokens rule.replacement.toList) = rule.replacement.toList := by
  obtain ⟨head, leads, apart⟩ := independent.leadsAway.leads rule member
  apply Rule.substitute_eq_self (Text.divides_tokens _)
  rw [leads, List.forall_mem_singleton]
  exact Rule.newWords_of_foreign apart

/-- Applying a rule first makes no difference to a line in which all names are replaced. -/
theorem substitute_apply {rule : Rule} (member : rule ∈ redirector.rules) (line : String) :
    Rule.substitute (Rule.newWords redirector.rules) true (Text.tokens (rule.apply line).toList) =
      Rule.substitute (Rule.newWords redirector.rules) true (Text.tokens line.toList) := by
  have divides := Text.divides_tokens line.toList
  rw [Rule.toList_apply, (Rule.divides_substitute rule.newWord divides true).tokens_eq,
    Rule.substitute_respell _ divides]
  apply Rule.substitute_congr
  intro name bare
  rw [Rule.newWord]
  split
  · rename_i own
    rw [independent.substitute_replacement member, ← own,
      Rule.newWords_of_mem independent.distinct member]
  · rw [Text.tokens_run (Rule.isRun_of_mem_bareNames divides bare)]
    exact List.append_nil _

theorem bodyAtOnce_newBody (body : List Char) :
    redirector.bodyAtOnce (redirector.newBody body) = redirector.bodyAtOnce body := by
  cases redirected : redirector.redirectLine (String.ofList body) with
  | none => rw [newBody_of_none redirected]
  | some new =>
    obtain ⟨unprotected, rule, member, -, rfl⟩ := exists_of_redirectLine redirected
    have same := independent.substitute_apply member (String.ofList body)
    rw [String.toList_ofList] at same
    rw [newBody_of_some redirected, bodyAtOnce, bodyAtOnce, String.ofList_toList,
      independent.keeps rule member, unprotected, if_neg Bool.false_ne_true,
      if_neg Bool.false_ne_true, same]

omit independent in
theorem bodyAtOnce_of_none {body : List Char}
    (unaffected : redirector.redirectLine (String.ofList body) = none) :
    redirector.bodyAtOnce body = body := by
  rw [bodyAtOnce]
  split
  · rfl
  · rename_i unprotected
    have unmatched := ((redirectLine_eq_none_iff _).mp unaffected).resolve_left unprotected
    apply Rule.substitute_eq_self (Text.divides_tokens body)
    intro name bare
    apply Rule.newWords_of_foreign
    rintro rule member rfl
    have found := (rule.isMatch_iff_mem_bareNames (String.ofList body)).mpr
      (by rwa [String.toList_ofList])
    exact Bool.noConfusion ((unmatched rule member).symm.trans found)

/-! ## Whole texts -/

/-- A pass does not change what becomes of a text when all names are replaced at once. -/
theorem textAtOnce_newText (text : String) :
    redirector.textAtOnce (redirector.newText text) = redirector.textAtOnce text := by
  rw [textAtOnce, textAtOnce, independent.leadsAway.keepsLines.ofText_newText, List.map_map]
  congr 2
  apply List.map_congr_left
  intro line member
  show Line.mk (redirector.bodyAtOnce (redirector.newBody line.body)) line.ending = _
  rw [independent.bodyAtOnce_newBody]
  rfl

omit independent in
/-- A settled text has no name left to be replaced. -/
theorem textAtOnce_of_none (unaffected : redirector.redirectText path text = none) :
    redirector.textAtOnce text = text := by
  have same : (Line.ofText text.toList).map (Line.mapBody redirector.bodyAtOnce) =
      Line.ofText text.toList := by
    refine (List.map_congr_left fun line member => ?_).trans (List.map_id _)
    have untouched := (redirectText_eq_none_iff path text).mp unaffected line member
    rw [Line.mapBody, bodyAtOnce_of_none untouched]
    rfl
  rw [textAtOnce, same, Line.toText_ofText, String.ofList_toList]

/-- However many passes it takes, a text settles in the one in which all names were replaced at
once. -/
theorem final_eq_textAtOnce {passes : Nat} {final : String}
    (settles : redirector.SettlesIn path passes text final) :
    final = redirector.textAtOnce text := by
  induction settles with
  | still unaffected => exact (textAtOnce_of_none unaffected).symm
  | pass affected rest ih =>
    rw [ih, eq_newText_of_redirectText affected, independent.textAtOnce_newText]

theorem exists_settlesIn_textAtOnce (path : Path) (text : String) :
    ∃ passes, redirector.SettlesIn path passes text (redirector.textAtOnce text) := by
  obtain ⟨passes, final, settles⟩ := independent.leadsAway.exists_settlesIn path text
  rw [independent.final_eq_textAtOnce settles] at settles
  exact ⟨passes, settles⟩

/-! ## Other orders -/

theorem withRules {rules : List Rule} (reordered : rules.Perm redirector.rules) :
    (redirector.withRules rules).Independent where
  distinct := (reordered.map Rule.pattern).nodup_iff.mpr independent.distinct
  leadsAway rule member := by
    obtain ⟨head, qualified, apart⟩ :=
      independent.leadsAway rule (reordered.mem_iff.mp member)
    exact ⟨head, qualified, fun other isOther => apart other (reordered.mem_iff.mp isOther)⟩
  keeps rule member := independent.keeps rule (reordered.mem_iff.mp member)

theorem textAtOnce_withRules {rules : List Rule} (reordered : rules.Perm redirector.rules)
    (text : String) :
    (redirector.withRules rules).textAtOnce text = redirector.textAtOnce text := by
  have sameWords := Rule.newWords_perm reordered independent.distinct
  have sameBodies : (redirector.withRules rules).bodyAtOnce = redirector.bodyAtOnce := by
    funext body
    rw [bodyAtOnce, bodyAtOnce, ← sameWords]
    rfl
  rw [textAtOnce, textAtOnce, sameBodies]

end Independent

theorem independent_builtin : builtin.Independent where
  distinct := by decide
  leadsAway := leadsAway_builtin
  keeps := isProtected_apply_builtin

/-- The order of the rules does not matter in the end. Whatever order the rules of an independent
redirector are given in, redirecting a text over and over comes to an end, and always ends in the
text in which the bare names of all rules were replaced at once. The built-in redirector is
independent. Single passes and what they tell do depend on the order. -/
theorem settles_in_textAtOnce :
    (∀ redirector : Redirector, redirector.Independent →
      ∀ rules, rules.Perm redirector.rules → ∀ path text,
        (∃ passes, (redirector.withRules rules).SettlesIn path passes text
          (redirector.textAtOnce text)) ∧
        ∀ passes final, (redirector.withRules rules).SettlesIn path passes text final →
          final = redirector.textAtOnce text) ∧
    (∀ redirector, ofConfiguration .builtin = .ok redirector → redirector.Independent) ∧
    ∃ (redirector : Redirector) (rules : List Rule) (path : Path) (text first second : String)
      (firstHits secondHits : List Hit), redirector.Independent ∧ rules.Perm redirector.rules ∧
        redirector.redirectText path text = some (first, firstHits) ∧
        (redirector.withRules rules).redirectText path text = some (second, secondHits) ∧
        first ≠ second ∧
        (redirector.redirectText path first).map Prod.snd ≠
          ((redirector.withRules rules).redirectText path second).map Prod.snd := by
  refine ⟨?_, ?_, ?_⟩
  · intro redirector independent rules reordered path text
    have reorderedIndependent := independent.withRules reordered
    rw [← independent.textAtOnce_withRules reordered]
    exact ⟨reorderedIndependent.exists_settlesIn_textAtOnce path text,
      fun _ _ => reorderedIndependent.final_eq_textAtOnce⟩
  · intro redirector isBuiltin
    rw [ofConfiguration_builtin] at isBuiltin
    cases isBuiltin
    exact independent_builtin
  · have first : builtin.redirectText (.ofText "a.lua") "list(dict(1))" =
        some ("list(utils.dict(1))", [⟨.ofText "a.lua", 1, "list(dict(1))"⟩]) := by decide
    have second : (builtin.withRules builtin.rules.reverse).redirectText (.ofText "a.lua")
        "list(dict(1))" =
          some ("utils.list(dict(1))", [⟨.ofText "a.lua", 1, "list(dict(1))"⟩]) := by decide
    exact ⟨builtin, builtin.rules.reverse, _, _, _, _, _, _, independent_builtin,
      List.reverse_perm _, first, second, by decide, by decide⟩

/-- With the built-in rules from last to first, one call inside another ends up as usual. -/
theorem settles_in_textAtOnce_of_nested_calls :
    ∃ passes, (builtin.withRules builtin.rules.reverse).SettlesIn (.ofText "a.lua") passes
      "list(dict(1))\nlocal dict = list\n" "utils.list(utils.dict(1))\nlocal dict = list\n" := by
  have settles := (settles_in_textAtOnce.1 builtin independent_builtin builtin.rules.reverse
    (List.reverse_perm _) (.ofText "a.lua") "list(dict(1))\nlocal dict = list\n").1
  have atOnce : builtin.textAtOnce "list(dict(1))\nlocal dict = list\n" =
      "utils.list(utils.dict(1))\nlocal dict = list\n" := by decide
  rwa [atOnce] at settles

end Redirector

end Redirect
