/-
# A search finds what a pass finds

A search for some texts and passes that only show what they would replace visit the same files in
the same order: they end in the same fault, or each text is found in the same files. One pass that
applies its changes finds these files, too, although it reads each file from a disk on which it
has already written others.
-/

import Redirect.Proofs.Alike
import Redirect.Proofs.NothingLeft

namespace Redirect

open Redirect.Action (Alike Anything alike_pure alike_look)

/-- The match that a search reports where a pass reports this outcome. -/
def SubstitutionOutcome.searchMatch (outcome : SubstitutionOutcome) : SearchMatch :=
  ⟨outcome.substitution.old, outcome.files⟩

/-! ## Passes that show their changes -/

section Look

variable {ν : Type}

theorem look_holding_cons (needle : String) (path : Path) (rest : List Path) :
    (Action.look (·.holding needle (path :: rest)) : Action ν (List Path)) =
      (do
        let text ← Action.look (·.readText path)
        let others ← Action.look (·.holding needle rest)
        pure (if holds text needle then path :: others else others)) := by
  refine (Action.look_bind _ _).trans (congrArg _ ?_)
  funext text
  exact Action.look_bind _ fun others _ =>
    .ok (if holds text needle then path :: others else others)

theorem look_search_cons (root : Path) (extensions : List String) (needle : String)
    (rest : List String) :
    (Action.look (·.search root extensions (needle :: rest)) : Action ν (List SearchMatch)) =
      (do
        let paths ← Action.look (·.candidates extensions root)
        let files ← Action.look (·.holding needle paths)
        let others ← Action.look (·.search root extensions rest)
        pure (⟨needle, files⟩ :: others)) := by
  refine (Action.look_bind _ _).trans (congrArg _ ?_)
  funext paths
  refine (Action.look_bind _ _).trans (congrArg _ ?_)
  funext files
  exact Action.look_bind _ fun others _ => .ok ((⟨needle, files⟩ : SearchMatch) :: others)

end Look

namespace Substitution

variable {μ : Type} {onFile : Path → Action μ Unit} {substitution : Substitution}
variable {disk : Disk} {extensions : List String} {root : Path}

theorem Quiet.silent {ν : Type} (quiet : Quiet onFile) (path : Path) :
    Alike Anything Anything (onFile path) (pure () : Action ν Unit) := by
  intro disk memory otherMemory _
  obtain ⟨left, accepted⟩ := quiet path ⟨disk, memory⟩
  rw [accepted]
  exact .ok disk trivial trivial

theorem alike_visit_holding {ν : Type} (quiet : Quiet onFile) (paths : List Path) :
    Alike Eq Anything (substitution.visit .dryRun onFile paths)
      (Action.look (·.holding substitution.old paths) : Action ν (List Path)) := by
  induction paths with
  | nil => exact alike_pure rfl
  | cons path rest ih =>
    rw [visit, look_holding_cons]
    refine (alike_look _).bind fun text _ same => ?_
    subst same
    split
    · refine (quiet.silent path).after_silent fun _ => ?_
      refine (Action.silent_writeIf_dryRun path _).after_silent fun _ => ?_
      exact ih.bind fun found _ same => alike_pure (congrArg (List.cons path) same)
    · rw [bind_pure]
      exact ih

theorem alike_passes_search (ν : Type) (quiet : Quiet onFile) (root : Path)
    (extensions : List String) (substitutions : List Substitution) :
    Alike (fun outcomes found => found = outcomes.map SubstitutionOutcome.searchMatch ∧
        outcomes.map SubstitutionOutcome.substitution = substitutions) Anything
      (passes root extensions .dryRun onFile substitutions)
      (Action.look (·.search root extensions (substitutions.map old)) :
        Action ν (List SearchMatch)) := by
  induction substitutions with
  | nil => exact alike_pure ⟨rfl, rfl⟩
  | cons substitution rest ih =>
    rw [List.map_cons, look_search_cons, passes, pass]
    simp only [bind_assoc, pure_bind]
    refine (alike_look _).bind fun paths _ same => ?_
    subst same
    refine (alike_visit_holding quiet paths).bind fun files _ same => ?_
    subst same
    refine ih.bind fun outcomes found same => alike_pure ⟨?_, ?_⟩
    · rw [same.1]
      rfl
    · rw [List.map_cons, same.2]

end Substitution

/-! ## A pass that applies its changes -/

namespace Disk

variable {disk : Disk} {files : List FoundFile}

/-- Some found files all hold texts, or there is a first one that cannot be read as a text. -/
theorem Finds.holdsTexts_or_unread (finds : disk.Finds files) :
    disk.HoldsTexts files ∨ ∃ before file after fault, files = before ++ file :: after ∧
      disk.HoldsTexts before ∧ disk.readText file.path = .error fault := by
  induction files with
  | nil => exact .inl (List.forall_mem_nil _)
  | cons file rest ih =>
    cases held : disk.readText file.path with
    | error fault => exact .inr ⟨[], file, rest, fault, rfl, List.forall_mem_nil _, held⟩
    | ok text =>
      have isText := finds.isText_of_readText List.mem_cons_self held
      rcases ih (finds.sublist (List.sublist_cons_self file rest)) with
        texts | ⟨before, other, after, fault, rfl, texts, failed⟩
      · exact .inl (List.forall_mem_cons.mpr ⟨isText, texts⟩)
      · exact .inr ⟨file :: before, other, after, fault, rfl,
          List.forall_mem_cons.mpr ⟨isText, texts⟩, failed⟩

/-- The first file that cannot be read as a text ends a search. -/
theorem holding_of_unread (needle : String) {before after : List FoundFile} {file : FoundFile}
    (finds : disk.Finds before) (texts : disk.HoldsTexts before) {fault : Fault}
    (failed : disk.readText file.path = .error fault) :
    disk.holding needle ((before ++ file :: after).map FoundFile.path) = .error fault := by
  induction before with
  | nil =>
    rw [List.nil_append, List.map_cons, holding, failed]
    rfl
  | cons first before ih =>
    obtain ⟨text, held, -⟩ := texts.readText_eq finds List.mem_cons_self List.mem_cons_self
    have others := ih (finds.sublist (List.sublist_cons_self first before)) texts.tail
    rw [List.cons_append, List.map_cons, holding, held, others]
    rfl

end Disk

namespace Substitution

variable {μ : Type} {onFile : Path → Action μ Unit} {disk : Disk}
variable {extensions : List String} {root : Path}

/-- One pass that applies its changes ends in the fault of a search for its old text, or finds
the files that the search finds. -/
theorem passes_apply_singleton (substitution : Substitution) (quiet : Quiet onFile)
    (proper : disk.tree.Proper) (extensions : List String) (root : Path) (memory : μ) :
    ∃ after,
      (∃ fault, disk.search root extensions [substitution.old] = .error fault ∧
        passes root extensions .apply onFile [substitution] ⟨disk, memory⟩ =
          .error fault after) ∨
      ∃ files, disk.search root extensions [substitution.old] = .ok [⟨substitution.old, files⟩] ∧
        passes root extensions .apply onFile [substitution] ⟨disk, memory⟩ =
          .ok [⟨substitution, files, true⟩] after := by
  cases listed : disk.filesBelowRoot root with
  | error fault =>
    have unlisted : disk.candidates extensions root = .error fault :=
      Disk.candidates_of_unlisted listed
    refine ⟨⟨disk, memory⟩, .inl ⟨fault, ?_, ?_⟩⟩
    · rw [Disk.search, unlisted]
      rfl
    · exact Action.bind_of_error (Action.bind_of_error (Action.look_of_error unlisted) _) _
  | ok paths =>
    rw [Disk.eq_map_path_of_filesBelowRoot proper listed] at listed
    have finds := Disk.finds_candidateFiles proper extensions root
    rcases finds.holdsTexts_or_unread with
      texts | ⟨before, file, rest, fault, split, texts, failed⟩
    · have searchable : disk.Searchable extensions root := ⟨proper, listed, texts⟩
      obtain ⟨left, went⟩ := passes_apply quiet searchable [substitution] memory
      exact ⟨_, .inr ⟨_, Disk.search_singleton searchable substitution, went⟩⟩
    · obtain ⟨left, ended⟩ :=
        pass_apply_of_unread substitution quiet proper listed split texts failed memory
      have findsBefore : disk.Finds before := by
        rw [split] at finds
        exact finds.sublist (List.sublist_append_left before _)
      have fails : disk.holding substitution.old
          ((disk.candidateFiles extensions root).map FoundFile.path) = .error fault := by
        rw [split]
        exact Disk.holding_of_unread substitution.old findsBefore texts failed
      refine ⟨_, .inl ⟨fault, ?_, Action.bind_of_error ended _⟩⟩
      rw [Disk.search, Disk.candidates_eq listed]
      show (disk.holding _ _ >>= _) = _
      rw [fails]
      rfl

/-- Passes that only show what they would replace end in the fault of a search for their old
texts, or each of them finds the files that the search finds for its text. -/
theorem passes_dryRun (disk : Disk) (quiet : Quiet onFile) (root : Path) (extensions : List String)
    (substitutions : List Substitution) (memory : μ) :
    ∃ left,
      (∃ fault, disk.search root extensions (substitutions.map old) = .error fault ∧
        passes root extensions .dryRun onFile substitutions ⟨disk, memory⟩ =
          .error fault ⟨disk, left⟩) ∨
      ∃ outcomes, outcomes.map SubstitutionOutcome.substitution = substitutions ∧
        disk.search root extensions (substitutions.map old) =
          .ok (outcomes.map SubstitutionOutcome.searchMatch) ∧
        passes root extensions .dryRun onFile substitutions ⟨disk, memory⟩ =
          .ok outcomes ⟨disk, left⟩ := by
  have agrees := alike_passes_search Unit quiet root extensions substitutions disk memory ()
    trivial
  generalize ended :
    passes root extensions .dryRun onFile substitutions ⟨disk, memory⟩ = result at agrees ⊢
  cases searched : disk.search root extensions (substitutions.map old) with
  | error fault =>
    rw [Action.look_of_error searched] at agrees
    cases agrees with
    | error fault disk _ => exact ⟨_, .inl ⟨fault, rfl, rfl⟩⟩
  | ok found =>
    rw [Action.look_of_ok searched] at agrees
    cases agrees with
    | ok disk together _ =>
      obtain ⟨rfl, made⟩ := together
      exact ⟨_, .inr ⟨_, made, rfl, rfl⟩⟩

/-- Searching for texts, showing what passes would replace and applying one of them agree, when
telling about files goes well and leaves the disk alone. A search for the old texts of some
substitutions and their passes end in the same fault, or each text is found in the same files in
the same order, and the disk stays as it is. One pass that applies its changes ends in the same
fault as one that only shows them, or finds the same files. -/
theorem searching_agrees_with_passes (proper : disk.tree.Proper) (root : Path)
    (extensions : List String) (quiet : Quiet onFile) (memory : μ) :
    (∀ substitutions, ∃ left,
      (∃ fault, disk.search root extensions (substitutions.map old) = .error fault ∧
        passes root extensions .dryRun onFile substitutions ⟨disk, memory⟩ =
          .error fault ⟨disk, left⟩) ∨
      ∃ outcomes, outcomes.map SubstitutionOutcome.substitution = substitutions ∧
        disk.search root extensions (substitutions.map old) =
          .ok (outcomes.map SubstitutionOutcome.searchMatch) ∧
        passes root extensions .dryRun onFile substitutions ⟨disk, memory⟩ =
          .ok outcomes ⟨disk, left⟩) ∧
    ∀ substitution, ∃ left after,
      (∃ fault,
        passes root extensions .dryRun onFile [substitution] ⟨disk, memory⟩ =
          .error fault ⟨disk, left⟩ ∧
        passes root extensions .apply onFile [substitution] ⟨disk, memory⟩ =
          .error fault after) ∨
      ∃ shown applied,
        passes root extensions .dryRun onFile [substitution] ⟨disk, memory⟩ =
          .ok shown ⟨disk, left⟩ ∧
        passes root extensions .apply onFile [substitution] ⟨disk, memory⟩ =
          .ok applied after ∧
        shown.map SubstitutionOutcome.searchMatch =
          applied.map SubstitutionOutcome.searchMatch := by
  refine ⟨fun substitutions => passes_dryRun disk quiet root extensions substitutions memory, ?_⟩
  intro substitution
  obtain ⟨left, shows⟩ := passes_dryRun disk quiet root extensions [substitution] memory
  obtain ⟨after, applies⟩ := passes_apply_singleton substitution quiet proper
    extensions root memory
  refine ⟨left, after, ?_⟩
  rcases shows with ⟨fault, searched, shown⟩ | ⟨outcomes, -, searched, shown⟩
  · rcases applies with ⟨same, searchedAgain, applied⟩ | ⟨files, searchedAgain, -⟩
    · rw [List.map_singleton, searchedAgain] at searched
      cases searched
      exact .inl ⟨fault, shown, applied⟩
    · rw [List.map_singleton, searchedAgain] at searched
      cases searched
  · rcases applies with ⟨same, searchedAgain, -⟩ | ⟨files, searchedAgain, applied⟩
    · rw [List.map_singleton, searchedAgain] at searched
      cases searched
    · rw [List.map_singleton, searchedAgain] at searched
      exact .inr ⟨outcomes, _, shown, applied, (Except.ok.inj searched).symm⟩

/-- The empty text is found in every file, by a search and by a pass. -/
theorem searching_agrees_with_passes_threeFiles :
    ∃ outcomes left,
      passes (.ofText ".") ["lua", "tml"] .dryRun (fun _ => pure ()) [⟨"aa", "b"⟩, ⟨"", "c"⟩]
          ⟨threeFiles (Utf8.encode "aaa") (Utf8.encode "b"), ()⟩ =
        .ok outcomes ⟨threeFiles (Utf8.encode "aaa") (Utf8.encode "b"), left⟩ ∧
      outcomes.map SubstitutionOutcome.searchMatch =
        [⟨"aa", [.ofText "./a.lua"]⟩, ⟨"", [.ofText "./a.lua", .ofText "./b.tml"]⟩] := by
  have searched : (threeFiles (Utf8.encode "aaa") (Utf8.encode "b")).search (.ofText ".")
      ["lua", "tml"] ["aa", ""] =
      .ok [⟨"aa", [.ofText "./a.lua"]⟩, ⟨"", [.ofText "./a.lua", .ofText "./b.tml"]⟩] := by
    cbv
  obtain ⟨left, ⟨fault, failed, -⟩ | ⟨outcomes, -, found, went⟩⟩ :=
    (searching_agrees_with_passes (proper_threeFiles (Utf8.encode "aaa") (Utf8.encode "b"))
      (.ofText ".") ["lua", "tml"] quiet_pure ()).1 [⟨"aa", "b"⟩, ⟨"", "c"⟩]
  · cases searched.symm.trans failed
  · exact ⟨outcomes, left, went, Except.ok.inj (found.symm.trans searched)⟩

end Substitution

end Redirect
