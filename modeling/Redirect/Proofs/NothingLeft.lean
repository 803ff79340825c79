/-
# Nothing is left to replace

A pass that applies changes and ends well has read every file with one of the extensions as a
text. If the two texts of its substitution keep apart, none of these files holds the old text
afterwards: a search for it finds no file, and the same pass made again finds none either and
leaves the world as it is.
-/

import Redirect.Proofs.Passes
import Redirect.Proofs.Seams

namespace Redirect

/-! ## Searching files that hold texts -/

namespace Disk

variable {disk : Disk} {extensions : List String} {root : Path} {files : List FoundFile}

theorem HoldsTexts.tail {file : FoundFile} (texts : disk.HoldsTexts (file :: files)) :
    disk.HoldsTexts files :=
  fun other member => texts other (List.mem_cons_of_mem _ member)

/-- A search among files that hold texts finds those that a pass would rewrite. -/
theorem holding_eq_found (substitution : Substitution) (finds : disk.Finds files)
    (texts : disk.HoldsTexts files) :
    disk.holding substitution.old (files.map FoundFile.path) = .ok (substitution.found files) := by
  induction files with
  | nil => rfl
  | cons file files ih =>
    obtain ⟨text, held, decoded⟩ := texts.readText_eq finds List.mem_cons_self
      List.mem_cons_self
    have others := ih (finds.sublist (List.sublist_cons_self file files)) texts.tail
    rw [List.map_cons, holding, held, others]
    by_cases present : holds text substitution.old
    · rw [Substitution.found_cons_of_some (Substitution.newData_eq_some decoded present)]
      exact congrArg Except.ok (if_pos present)
    · rw [Substitution.found_cons_of_none (Substitution.newData_eq_none decoded present)]
      exact congrArg Except.ok (if_neg present)

theorem search_singleton (searchable : disk.Searchable extensions root)
    (substitution : Substitution) :
    disk.search root extensions [substitution.old] =
      .ok [⟨substitution.old, substitution.found (disk.candidateFiles extensions root)⟩] := by
  rw [search, candidates_eq searchable.listed]
  show (disk.holding _ _ >>= _) = _
  rw [holding_eq_found substitution (finds_candidateFiles searchable.proper extensions root)
    searchable.texts]
  rfl

end Disk

namespace Substitution

variable {μ : Type} {onFile : Path → Action μ Unit} {substitution : Substitution}
variable {disk : Disk} {extensions : List String} {root : Path} {mode : Mode}

/-! ## A pass that ends well -/

/-- Telling about files, if it goes well, leaves the disk alone. -/
def LeavesDisk (onFile : Path → Action μ Unit) : Prop :=
  ∀ path world after, onFile path world = .ok () after → after.disk = world.disk

/-- Found files whose visits end well hold texts, and those with the old text have got their
new data. -/
theorem of_visit_apply_eq_ok (leaves : LeavesDisk onFile) {changed : List (Location × Bytes)}
    {files : List FoundFile} (pending : disk.Pending changed files) {memory : μ}
    {found : List Path} {after : World μ}
    (went : substitution.visit .apply onFile (files.map FoundFile.path)
      ⟨disk.overwrite changed, memory⟩ = .ok found after) :
    disk.HoldsTexts files ∧ found = substitution.found files ∧
      after.disk = disk.overwrite (changed ++ changesBy substitution.newData files) := by
  induction files generalizing changed memory found with
  | nil =>
    cases went
    exact ⟨List.forall_mem_nil _, rfl, by rw [changesBy_nil, List.append_nil]⟩
  | cons file files ih =>
    rw [List.map_cons] at went
    cases heldNow : (disk.overwrite changed).readText file.path with
    | error fault =>
      rw [visit_unread heldNow] at went
      cases went
    | ok text =>
      have held := pending.readText_eq.symm.trans heldNow
      have decoded := pending.finds.decode_of_readText List.mem_cons_self held
      have isText := pending.finds.isText_of_readText List.mem_cons_self held
      by_cases present : holds text substitution.old
      · cases told : onFile file.path ⟨disk.overwrite changed, memory⟩ with
        | error fault left =>
          rw [visit_refused heldNow present told] at went
          cases went
        | ok accepted middle =>
          obtain ⟨now, remembered⟩ := middle
          obtain rfl : now = disk.overwrite changed := leaves _ _ _ told
          obtain ⟨written, pendingAfter⟩ := pending.writeText_eq held (substitution.apply text)
          rw [visit_written heldNow present told written] at went
          obtain ⟨others, wentOn, rfl⟩ := Action.exists_of_map_eq_ok went
          obtain ⟨texts, rfl, left⟩ := ih pendingAfter wentOn
          have made := newData_eq_some decoded present
          refine ⟨List.forall_mem_cons.mpr ⟨isText, texts⟩, (found_cons_of_some made _).symm, ?_⟩
          rw [left, changesBy_cons_of_some made, List.append_assoc, List.singleton_append]
      · rw [visit_absent heldNow present] at went
        obtain ⟨texts, rfl, left⟩ := ih pending.tail went
        have nothing := newData_eq_none decoded present
        refine ⟨List.forall_mem_cons.mpr ⟨isText, texts⟩, (found_cons_of_none nothing _).symm, ?_⟩
        rw [left, changesBy_cons_of_none nothing]

theorem of_pass_apply_eq_ok (leaves : LeavesDisk onFile) (proper : disk.tree.Proper)
    {memory : μ} {outcome : SubstitutionOutcome} {after : World μ}
    (went : substitution.pass root extensions .apply onFile ⟨disk, memory⟩ =
      .ok outcome after) :
    disk.Searchable extensions root ∧ after.disk = passed root extensions disk substitution := by
  cases listed : disk.filesBelowRoot root with
  | error fault =>
    have unlisted : disk.candidates extensions root = .error fault :=
      Disk.candidates_of_unlisted listed
    rw [pass, Action.bind_of_error (Action.look_of_error unlisted)] at went
    cases went
  | ok paths =>
    rw [Disk.eq_map_path_of_filesBelowRoot proper listed] at listed
    rw [pass_listed (Disk.candidates_eq listed)] at went
    obtain ⟨found, visited, -⟩ := Action.exists_of_map_eq_ok went
    have pending := (Disk.finds_candidateFiles proper extensions root).pending proper
    have visitedNow : substitution.visit .apply onFile
        ((disk.candidateFiles extensions root).map FoundFile.path)
        ⟨disk.overwrite [], memory⟩ = .ok found after := by
      rw [Disk.overwrite_nil proper]
      exact visited
    obtain ⟨texts, -, left⟩ := of_visit_apply_eq_ok leaves pending visitedNow
    exact ⟨⟨proper, listed, texts⟩, left⟩

/-! ## The same pass made again -/

theorem found_eq_nil {files : List FoundFile}
    (nothing : ∀ file ∈ files, substitution.newData file = none) :
    substitution.found files = [] := by
  have noFile : files.filter (fun file => (substitution.newData file).isSome) = [] := by
    rw [List.filter_eq_nil_iff]
    intro file member
    rw [nothing file member]
    decide
  rw [found, noFile, List.map_nil]

/-- Where no file holds the old text, a pass finds no file and leaves the world as it is. -/
theorem visit_of_nothing {files : List FoundFile} {world : World μ}
    (finds : world.disk.Finds files) (texts : world.disk.HoldsTexts files)
    (nothing : ∀ file ∈ files, substitution.newData file = none) :
    substitution.visit mode onFile (files.map FoundFile.path) world = .ok [] world := by
  induction files with
  | nil => rfl
  | cons file files ih =>
    obtain ⟨text, held, decoded⟩ := texts.readText_eq finds List.mem_cons_self
      List.mem_cons_self
    have absent : ¬holds text substitution.old := by
      intro present
      have made := newData_eq_some decoded present
      rw [nothing file List.mem_cons_self] at made
      cases made
    rw [List.map_cons, visit_absent held absent]
    exact ih (finds.sublist (List.sublist_cons_self file files)) texts.tail
      fun other member => nothing other (List.mem_cons_of_mem _ member)

/-- What is written in place of a text that keeps apart from its replacement does not hold it. -/
theorem not_holds_apply (apart : Text.KeepApart substitution.old.toList substitution.new.toList)
    (text : String) : ¬holds (substitution.apply text) substitution.old := by
  rw [holds_iff, apply, String.toList_ofList]
  exact apart.not_isInfix_replaceAll text.toList

/-- No file holds the old text after a pass. -/
theorem newData_candidateFiles_passed
    (apart : Text.KeepApart substitution.old.toList substitution.new.toList)
    (proper : disk.tree.Proper) (extensions : List String) (root : Path) :
    ∀ file ∈ (passed root extensions disk substitution).candidateFiles extensions root,
      substitution.newData file = none := by
  intro file member
  rw [passed, Disk.candidateFiles_overwrite proper] at member
  obtain ⟨before, isBefore, rfl⟩ := List.mem_map.mp member
  have standApart := (Disk.finds_candidateFiles proper extensions root).apart
  cases made : substitution.newData before with
  | none =>
    rw [FoundFile.overwrite, lookup_changesBy _ standApart isBefore, made]
    exact made
  | some data =>
    obtain ⟨text, -, given⟩ := Option.bind_eq_some_iff.mp made
    split at given
    · cases given
      refine newData_eq_none ?_ (not_holds_apply apart text)
      rw [FoundFile.overwrite, lookup_changesBy _ standApart isBefore, made, Option.getD_some,
        Utf8.decode_encode]
    · cases given

/-- If the two texts of a substitution keep apart, as those of the default ones do, then one pass
is enough: after a pass that applies changes and ends well, a search for the old text with the
same root and extensions finds no file, and another pass finds no file and changes nothing. -/
theorem one_pass_is_enough
    (apart : Text.KeepApart substitution.old.toList substitution.new.toList)
    (proper : disk.tree.Proper) (leaves : LeavesDisk onFile) {memory : μ}
    {outcomes : List SubstitutionOutcome} {after : World μ}
    (went : passes root extensions .apply onFile [substitution] ⟨disk, memory⟩ =
      .ok outcomes after) :
    after.disk.search root extensions [substitution.old] = .ok [⟨substitution.old, []⟩] ∧
    (∀ {ν : Type} (other : Path → Action ν Unit) (remembered : ν),
      passes root extensions .apply other [substitution] ⟨after.disk, remembered⟩ =
        .ok [⟨substitution, [], true⟩] ⟨after.disk, remembered⟩) ∧
    ∀ pair ∈ defaultPairs, Text.KeepApart pair.1.toList pair.2.toList := by
  obtain ⟨outcome, middle, passedOnce, rest⟩ := Action.exists_of_bind_eq_ok went
  cases rest
  obtain ⟨searchable, left⟩ := of_pass_apply_eq_ok leaves proper passedOnce
  have searchableAfter := searchable.passed substitution
  have nothing := newData_candidateFiles_passed apart proper extensions root
  rw [left]
  refine ⟨?_, ?_, ?_⟩
  · rw [Disk.search_singleton searchableAfter, found_eq_nil nothing]
  · intro ν other remembered
    have finds := Disk.finds_candidateFiles searchableAfter.proper extensions root
    have again : substitution.pass root extensions .apply other
        ⟨passed root extensions disk substitution, remembered⟩ =
        .ok ⟨substitution, [], true⟩ ⟨passed root extensions disk substitution, remembered⟩ := by
      rw [pass_listed (Disk.candidates_eq searchableAfter.listed)]
      exact Action.map_of_ok (visit_of_nothing finds searchableAfter.texts nothing) _
    rw [passes, Action.bind_of_ok again]
    rfl
  · decide

/-- The old text is gone although its halves stand around the place where it stood. -/
theorem one_pass_is_enough_for_split_name :
    ∃ outcomes after,
      passes (.ofText ".") ["lua", "tml"] .apply (fun _ => pure ())
          [⟨"resty.model", "resty.mvc"⟩]
          ⟨threeFiles (Utf8.encode "resty.resty.modelmodel") (Utf8.encode "b"), ()⟩ =
        .ok outcomes after ∧
      after.disk.search (.ofText ".") ["lua", "tml"] ["resty.model"] =
        .ok [⟨"resty.model", []⟩] := by
  have searchable : (threeFiles (Utf8.encode "resty.resty.modelmodel")
      (Utf8.encode "b")).Searchable ["lua", "tml"] (.ofText ".") := by
    refine ⟨proper_threeFiles _ _, by cbv, ?_⟩
    rw [candidateFiles_threeFiles]
    simp only [Disk.HoldsTexts, List.forall_mem_cons]
    decide_cbv
  obtain ⟨left, went⟩ := passes_apply quiet_pure searchable [⟨"resty.model", "resty.mvc"⟩] ()
  have leaves : LeavesDisk (fun _ => pure () : Path → Action Unit Unit) := by
    intro path world after accepted
    cases accepted
    rfl
  exact ⟨_, _, went, (one_pass_is_enough (by decide) (proper_threeFiles _ _) leaves went).1⟩

end Substitution

end Redirect
