/-
# Reported lines and changed lines

A line is reported when a rule finds its name there, and it changes when the new text is another
one. These agree for every rule whose new text is not its own name, whatever the texts have in
common: replacing a name by a text of another length changes the length of the line, and one of
the same length changes what stands in its place. A rule that replaces its name by itself is
idle; the lines on which an idle rule is applied are reported although they stay as they are.
-/

import Redirect.Proofs.Repeated
import Redirect.Proofs.Stages

namespace Redirect

open Text (Line)

namespace Rule

/-- A rule that replaces its name by itself. -/
def IsIdle (rule : Rule) : Prop :=
  rule.replacement = rule.pattern

variable {rule : Rule} {s : List Char} {found : List Text.Token}

/-- Each replaced name lengthens the line by what the new text is longer than the name. -/
theorem length_substitute_newWord (rule : Rule) (divides : Text.Divides s found) (free : Bool) :
    (substitute rule.newWord free found).length +
        (bareNames free found).count rule.pattern.toList * rule.pattern.toList.length =
      s.length +
        (bareNames free found).count rule.pattern.toList * rule.replacement.toList.length := by
  induction divides generalizing free with
  | nil => simp [substitute, bareNames]
  | @gap c s rest between divides ih =>
    rw [substitute, bareNames, List.length_cons, List.length_cons, Nat.add_right_comm, ih,
      Nat.add_right_comm]
  | @word name s rest run ends divides ih =>
    have later := ih false
    rw [substitute, bareNames, List.length_append, List.length_append]
    cases free with
    | false =>
      rw [if_neg Bool.false_ne_true, if_neg Bool.false_ne_true]
      omega
    | true =>
      rw [if_pos rfl, if_pos rfl, newWord]
      by_cases own : rule.pattern.toList = name
      · subst own
        rw [if_pos rfl, List.count_cons_self, Nat.succ_mul, Nat.succ_mul]
        omega
      · rw [if_neg own, List.count_cons_of_ne (Ne.symm own)]
        omega

/-- A new text as long as the name stands in the place of each replaced name. -/
theorem replacement_eq_of_substitute_eq (divides : Text.Divides s found) {free : Bool}
    (asLong : rule.replacement.toList.length = rule.pattern.toList.length)
    (same : substitute rule.newWord free found = s)
    (member : rule.pattern.toList ∈ bareNames free found) :
    rule.replacement.toList = rule.pattern.toList := by
  induction divides generalizing free with
  | nil => cases member
  | gap between rest ih => exact ih (List.cons.inj same).2 member
  | @word name s rest run ends divides ih =>
    cases free with
    | false => exact ih (List.append_cancel_left same) member
    | true =>
      rw [substitute, if_pos rfl, newWord] at same
      by_cases own : rule.pattern.toList = name
      · subst own
        rw [if_pos rfl] at same
        exact List.append_inj_left same asLong
      · rw [if_neg own] at same
        have later := (List.mem_cons.mp member).resolve_left own
        exact ih (List.append_cancel_left same) later

/-- A rule that finds something leaves the line as it is only if it is idle. -/
theorem apply_eq_self_iff {line : String} (found : rule.isMatch line = true) :
    rule.apply line = line ↔ rule.IsIdle := by
  have divides := Text.divides_tokens line.toList
  have member := (rule.isMatch_iff_mem_bareNames line).mp found
  rw [← String.toList_inj, toList_apply]
  constructor
  · intro same
    have lengths := length_substitute_newWord rule divides true
    rw [same, Nat.add_left_cancel_iff] at lengths
    have asLong := Nat.eq_of_mul_eq_mul_left (List.count_pos_iff.mpr member) lengths
    exact String.toList_inj.mp (replacement_eq_of_substitute_eq divides asLong.symm same member)
  · intro idle
    apply substitute_eq_self divides
    intro name _
    rw [newWord, idle]
    split
    · assumption
    · rfl

end Rule

namespace Redirector

/-- The rule that is applied to a line, if any. -/
def ruleFor (redirector : Redirector) (line : String) : Option Rule :=
  if redirector.isProtected line then none
  else redirector.rules.find? fun rule => rule.isMatch line

/-- The numbers of the lines on which something else stands after redirection. -/
def changedLines (redirector : Redirector) (text : String) : List Nat :=
  ((Line.ofText text.toList).zipIdx 1).filterMap fun entry =>
    if redirector.newBody entry.1.body = entry.1.body then none else some entry.2

/-- What is told about a text agrees with what becomes of it: the reported lines are those that
change, and the text changes with them; when nothing is reported, no line changes. -/
def ReportsChanges (redirector : Redirector) (path : Path) (text : String) : Prop :=
  match redirector.redirectText path text with
  | some (newText, hits) =>
    hits.map Hit.line = redirector.changedLines text ∧ newText ≠ text
  | none => redirector.changedLines text = []

variable {redirector : Redirector} {path : Path} {text : String}

/-! ## One line -/

theorem redirectLine_eq_map_ruleFor (line : String) :
    redirector.redirectLine line = (redirector.ruleFor line).map fun rule => rule.apply line := by
  have first : (redirector.rules.zipIdx.find? fun entry => entry.1.isMatch line).map Prod.fst =
      redirector.rules.find? fun rule => rule.isMatch line := by
    conv_rhs => rw [← List.zipIdx_map_fst 0 redirector.rules, List.find?_map]
    rfl
  rw [redirectLine, ruleFor, ← first, Rule.firstMatch]
  split
  · rfl
  · rw [Option.map_map, Option.map_map]
    rfl

theorem ruleFor_spec {line : String} {rule : Rule}
    (applied : redirector.ruleFor line = some rule) :
    rule ∈ redirector.rules ∧ rule.isMatch line = true := by
  rw [ruleFor] at applied
  split at applied
  · cases applied
  · have found := List.find?_some applied
    exact ⟨List.mem_of_find?_eq_some applied, found⟩

theorem newBody_of_ruleFor_none {body : List Char}
    (missing : redirector.ruleFor (String.ofList body) = none) :
    redirector.newBody body = body := by
  apply newBody_of_none
  rw [redirectLine_eq_map_ruleFor, missing]
  rfl

/-- A line to which a rule is applied stays as it is only if the rule is idle. -/
theorem newBody_eq_self_iff {body : List Char} {rule : Rule}
    (applied : redirector.ruleFor (String.ofList body) = some rule) :
    redirector.newBody body = body ↔ rule.IsIdle := by
  have affected : redirector.redirectLine (String.ofList body) =
      some (rule.apply (String.ofList body)) := by
    rw [redirectLine_eq_map_ruleFor, applied]
    rfl
  rw [newBody_of_some affected, ← Rule.apply_eq_self_iff (ruleFor_spec applied).2,
    ← String.toList_inj, String.toList_ofList]

/-! ## Whole texts -/

/-- Only rules that are not idle are applied to some lines. -/
def BusyOn (redirector : Redirector) (lines : List Line) : Prop :=
  ∀ line ∈ lines, ∀ rule, redirector.ruleFor (String.ofList line.body) = some rule →
    ¬rule.IsIdle

theorem changedLines_eq_nil_iff (text : String) :
    redirector.changedLines text = [] ↔
      ∀ line ∈ Line.ofText text.toList, redirector.newBody line.body = line.body := by
  rw [changedLines, List.filterMap_eq_nil_iff]
  constructor
  · intro unchanged line member
    rw [← List.zipIdx_map_fst 1 (Line.ofText text.toList)] at member
    obtain ⟨entry, isEntry, rfl⟩ := List.mem_map.mp member
    by_contra changes
    have listed := unchanged entry isEntry
    rw [if_neg changes] at listed
    cases listed
  · intro unchanged entry isEntry
    exact if_pos (unchanged entry.1 (List.fst_mem_of_mem_zipIdx isEntry))

theorem map_line_hits (path : Path) (lines : List Line) :
    (redirector.hits path lines).map Hit.line = (lines.zipIdx 1).filterMap fun entry =>
      (redirector.ruleFor (String.ofList entry.1.body)).map fun _ => entry.2 := by
  rw [hits, List.map_filterMap]
  apply List.filterMap_congr
  intro entry _
  simp only [redirectLine_eq_map_ruleFor, Option.map_map]
  rfl

theorem eq_of_mem_zipIdx {lines : List Line} {first second : Line} {number : Nat}
    (isFirst : (first, number) ∈ lines.zipIdx 1) (isSecond : (second, number) ∈ lines.zipIdx 1) :
    first = second := by
  rw [List.mem_zipIdx_iff_le_and_getElem?_sub] at isFirst isSecond
  exact Option.some.inj (isFirst.2.symm.trans isSecond.2)

/-- The reported lines are those that change just when no idle rule is applied to any. -/
theorem map_line_hits_eq_iff (path : Path) (text : String) :
    (redirector.hits path (Line.ofText text.toList)).map Hit.line =
        redirector.changedLines text ↔
      redirector.BusyOn (Line.ofText text.toList) := by
  rw [map_line_hits, changedLines]
  constructor
  · intro same line member rule applied idle
    obtain ⟨⟨line, number⟩, isEntry, rfl⟩ : ∃ entry ∈ (Line.ofText text.toList).zipIdx 1,
        entry.1 = line := by
      rwa [← List.mem_map, List.zipIdx_map_fst]
    have reported : number ∈ ((Line.ofText text.toList).zipIdx 1).filterMap fun entry =>
        (redirector.ruleFor (String.ofList entry.1.body)).map fun _ => entry.2 :=
      List.mem_filterMap.mpr ⟨(line, number), isEntry, by rw [applied]; rfl⟩
    rw [same, List.mem_filterMap] at reported
    obtain ⟨⟨other, sameNumber⟩, isOther, changed⟩ := reported
    split at changed
    · cases changed
    · rename_i changes
      cases changed
      rw [eq_of_mem_zipIdx isOther isEntry] at changes
      exact changes ((newBody_eq_self_iff applied).mpr idle)
  · intro busy
    apply List.filterMap_congr
    intro entry isEntry
    cases applied : redirector.ruleFor (String.ofList entry.1.body) with
    | none => rw [newBody_of_ruleFor_none applied, if_pos rfl]; rfl
    | some rule =>
      have notIdle := busy entry.1 (List.fst_mem_of_mem_zipIdx isEntry) rule applied
      rw [if_neg (mt (newBody_eq_self_iff applied).mp notIdle)]
      rfl

theorem exists_ruleFor_of_redirectText {found : String × List Hit}
    (affected : redirector.redirectText path text = some found) :
    ∃ line ∈ Line.ofText text.toList, ∃ rule,
      redirector.ruleFor (String.ofList line.body) = some rule := by
  by_contra missing
  have unaffected : redirector.redirectText path text = none := by
    rw [redirectText_eq_none_iff]
    intro line member
    rw [redirectLine_eq_map_ruleFor, Option.map_eq_none_iff, Option.eq_none_iff_forall_ne_some]
    intro rule applied
    exact missing ⟨line, member, rule, applied⟩
  rw [affected] at unaffected
  cases unaffected

theorem newText_ne_of_busyOn (busy : redirector.BusyOn (Line.ofText text.toList))
    {found : String × List Hit} (affected : redirector.redirectText path text = some found) :
    redirector.newText text ≠ text := by
  obtain ⟨line, member, rule, applied⟩ := exists_ruleFor_of_redirectText affected
  intro same
  have spelled : Line.toText ((Line.ofText text.toList).map (Line.mapBody redirector.newBody)) =
      Line.toText (Line.ofText text.toList) := by
    rw [Line.toText_ofText]
    conv_rhs => rw [← same, newText, String.toList_ofList]
  have unchanged := Line.forall_body_eq (Line.properLines_ofText text.toList) spelled line member
  exact busy line member rule applied ((newBody_eq_self_iff applied).mp unchanged)

theorem reportsChanges_iff (path : Path) (text : String) :
    redirector.ReportsChanges path text ↔ redirector.BusyOn (Line.ofText text.toList) := by
  cases redirected : redirector.redirectText path text with
  | none =>
    have missing : ∀ line ∈ Line.ofText text.toList,
        redirector.ruleFor (String.ofList line.body) = none := by
      intro line member
      have unaffected := (redirectText_eq_none_iff path text).mp redirected line member
      rwa [redirectLine_eq_map_ruleFor, Option.map_eq_none_iff] at unaffected
    rw [ReportsChanges, redirected]
    refine iff_of_true ?_ ?_
    · show redirector.changedLines text = []
      rw [changedLines_eq_nil_iff]
      exact fun line member => newBody_of_ruleFor_none (missing line member)
    · intro line member rule applied
      rw [missing line member] at applied
      cases applied
  | some found =>
    obtain ⟨next, hits⟩ := found
    obtain rfl := eq_newText_of_redirectText redirected
    obtain rfl := eq_hits_of_redirectText redirected
    rw [ReportsChanges, redirected]
    show (redirector.hits path _).map Hit.line = _ ∧ redirector.newText text ≠ text ↔ _
    rw [map_line_hits_eq_iff, and_iff_left_iff_imp]
    exact fun busy => newText_ne_of_busyOn busy redirected

/-- Without idle rules, a step of a run that tells about a file or changes the world has read a
text from the file on which some line changes. -/
theorem exists_changedLines_of_advances (busy : ∀ rule ∈ redirector.rules, ¬rule.IsIdle)
    {μ : Type} {root : Path} {mode : Mode} {onFile : FileHits → Action μ Unit}
    {stage next : Stage μ} (advances : redirector.Advances root mode onFile stage next) :
    next.told = stage.told ∧ next.world = stage.world ∨
      ∃ path rest text, stage.pending = path :: rest ∧
        stage.world.disk.readText path = .ok text ∧ redirector.changedLines text ≠ [] := by
  have changes : ∀ {path : Path} {text newText : String} {hits : List Hit},
      redirector.redirectText path text = some (newText, hits) →
        redirector.changedLines text ≠ [] := by
    intro path text newText hits affected
    obtain ⟨line, member, rule, applied⟩ := exists_ruleFor_of_redirectText affected
    intro unchanged
    have same := (changedLines_eq_nil_iff text).mp unchanged line member
    exact busy rule (ruleFor_spec applied).1 ((newBody_eq_self_iff applied).mp same)
  cases advances with
  | unselected => exact .inl ⟨rfl, rfl⟩
  | unaffected => exact .inl ⟨rfl, rfl⟩
  | shown selected held affected => exact .inr ⟨_, _, _, rfl, held, changes affected⟩
  | written selected held affected => exact .inr ⟨_, _, _, rfl, held, changes affected⟩

/-- What is told about a text agrees with what becomes of it just when no idle rule is applied to
a line of it. Without idle rules it always does, and then a run neither tells about a file nor
writes one unless a line of the text that it has read there changes. -/
theorem reportsChanges_iff_busyOn (redirector : Redirector) :
    (∀ path text, redirector.ReportsChanges path text ↔
      redirector.BusyOn (Line.ofText text.toList)) ∧
    ((∀ rule ∈ redirector.rules, ¬rule.IsIdle) →
      (∀ path text, redirector.ReportsChanges path text) ∧
      ∀ {μ : Type} {root : Path} {mode : Mode} {onFile : FileHits → Action μ Unit}
        {stage next : Stage μ}, redirector.Advances root mode onFile stage next →
        next.told = stage.told ∧ next.world = stage.world ∨
          ∃ path rest text, stage.pending = path :: rest ∧
            stage.world.disk.readText path = .ok text ∧ redirector.changedLines text ≠ []) := by
  refine ⟨reportsChanges_iff, fun busy => ⟨?_, exists_changedLines_of_advances busy⟩⟩
  intro path text
  rw [reportsChanges_iff]
  intro line _ rule applied
  exact busy rule (ruleFor_spec applied).1

/-- The redirection of one name. -/
def redirecting (rule : Rule) : Redirector where
  rules := [rule]
  selector := ⟨["lua"], [], []⟩
  isProtected := fun _ => false

/-- A new text as long as the name and much like it makes another line. -/
theorem reportsChanges_of_similar_name :
    (redirecting ⟨"dict", "dicp", by decide⟩).ReportsChanges (.ofText "a.lua")
      "x = dict(dict.dict)\n" :=
  ((reportsChanges_iff_busyOn _).2 (by
    intro rule member
    cases List.mem_singleton.mp member
    rw [Rule.IsIdle]
    decide)).1 _ _

/-- A rule that replaces its name by itself is accepted, and what it finds is reported although
nothing changes. -/
theorem idle_rule_reports_unchanged_line :
    ∃ rule hits, Rule.ofPairs [("dict", "dict")] = .ok [rule] ∧
      (redirecting rule).redirectText (.ofText "a.lua") "x = dict(1)\n" =
        some ("x = dict(1)\n", hits) ∧
      hits.map Hit.line = [1] ∧ (redirecting rule).changedLines "x = dict(1)\n" = [] ∧
      ¬(redirecting rule).ReportsChanges (.ofText "a.lua") "x = dict(1)\n" := by
  refine ⟨⟨"dict", "dict", by decide⟩, [⟨.ofText "a.lua", 1, "x = dict(1)"⟩], rfl, by decide, rfl,
    by decide, ?_⟩
  intro reports
  have busy := (reportsChanges_iff _ _).mp reports ⟨"x = dict(1)".toList, .feed⟩ (by decide)
  exact busy ⟨"dict", "dict", by decide⟩ (by decide) rfl

end Redirector

end Redirect
