/-
# A second run

A run that applies changes and went well can be repeated: the same files are found, each with
the text that the first run made of it. The second run finds something exactly on the lines
that held two names or more, because a run redirects one name on each line. With the built-in
rules such lines can come up, so a second run need not be an idle one.
-/

import Redirect.Proofs.Applied
import Redirect.Proofs.Builtin
import Redirect.Proofs.Encoding

namespace Redirect

open Text (Line)

namespace Redirector

variable {redirector : Redirector}

/-! ## Overwritten files -/

/-- Where files stand apart, each of them gets its own new data. -/
theorem lookup_changes {files : List FoundFile}
    (apart : (files.map FoundFile.location).Nodup) {file : FoundFile} (member : file ∈ files) :
    (redirector.changes files).lookup file.location =
      (redirector.redirectFile file).map Prod.fst :=
  lookup_changesBy _ apart member

theorem selected_map_overwrite (root : Path) (files : List FoundFile)
    (changed : List (Location × Bytes)) :
    redirector.selected root (files.map (FoundFile.overwrite changed)) =
      (redirector.selected root files).map (FoundFile.overwrite changed) := by
  rw [selected, selected, List.filter_map]
  rfl

/-- An overwritten file holds the redirected text. -/
theorem decode_overwrite {files : List FoundFile}
    (apart : (files.map FoundFile.location).Nodup) {file : FoundFile} (member : file ∈ files)
    {text : String} (held : Utf8.decode file.data = .ok text) :
    Utf8.decode (file.overwrite (redirector.changes files)).data =
      .ok (redirector.newText text) := by
  rw [FoundFile.overwrite, lookup_changes apart member, ← fst_redirectText file.path text]
  cases redirected : redirector.redirectText file.path text with
  | none =>
    rw [redirectFile_eq_none held redirected]
    exact held
  | some found =>
    rw [redirectFile_eq_some held redirected]
    exact Utf8.decode_encode found.1

theorem isOk_decode_of_redirectFile {file : FoundFile} {found : Bytes × FileHits}
    (redirects : redirector.redirectFile file = some found) : (Utf8.decode found.1).isOk := by
  obtain ⟨text, -, affected⟩ := Option.bind_eq_some_iff.mp redirects
  obtain ⟨redirected, -, rfl⟩ := Option.map_eq_some_iff.mp affected
  rw [Utf8.decode_encode]
  rfl

theorem fileHits_eq_nil_iff (files : List FoundFile) :
    redirector.fileHits files = [] ↔ ∀ file ∈ files, redirector.redirectFile file = none := by
  rw [fileHits, List.filterMap_eq_nil_iff]
  constructor
  · intro unaffected file member
    exact Option.map_eq_none_iff.mp (unaffected file member)
  · intro unaffected file member
    exact Option.map_eq_none_iff.mpr (unaffected file member)

theorem changes_eq_nil {files : List FoundFile} (idle : redirector.fileHits files = []) :
    redirector.changes files = [] := by
  rw [changes, changesBy_eq_nil_iff]
  intro file member
  exact Option.map_eq_none_iff.mpr ((fileHits_eq_nil_iff files).mp idle file member)

/-! ## Running twice -/

/-- Every line of some files is settled. -/
def SettledFiles (redirector : Redirector) (files : List FoundFile) : Prop :=
  ∀ file ∈ files, ∀ text, Utf8.decode file.data = .ok text →
    ∀ line ∈ Line.ofText text.toList, redirector.Settled (String.ofList line.body)

theorem Qualifies.fileHits_overwrite (qualifies : redirector.Qualifies)
    {files : List FoundFile} (apart : (files.map FoundFile.location).Nodup)
    (decodes : ∀ file ∈ files, (Utf8.decode file.data).isOk) :
    redirector.fileHits (files.map (FoundFile.overwrite (redirector.changes files))) = [] ↔
      redirector.SettledFiles files := by
  have each : ∀ file ∈ files, ∀ text, Utf8.decode file.data = .ok text →
      (redirector.redirectFile (file.overwrite (redirector.changes files)) = none ↔
        ∀ line ∈ Line.ofText text.toList, redirector.Settled (String.ofList line.body)) := by
    intro file member text held
    have heldNow : Utf8.decode (file.overwrite (redirector.changes files)).data =
        .ok (redirector.newText text) := decode_overwrite apart member held
    rw [← qualifies.redirectText_newText file.path text]
    cases redirected : redirector.redirectText file.path (redirector.newText text) with
    | none => exact iff_of_true (redirectFile_eq_none heldNow redirected) rfl
    | some found =>
      have redirects := redirectFile_eq_some heldNow redirected
      rw [redirects]
      exact iff_of_false (Option.some_ne_none _) (Option.some_ne_none _)
  rw [fileHits_eq_nil_iff, List.forall_mem_map]
  constructor
  · intro idle file member text held
    exact (each file member text held).mp (idle file member)
  · intro settled file member
    cases held : Utf8.decode file.data with
    | error defect =>
      have refused := decodes file member
      rw [held] at refused
      cases refused
    | ok text => exact (each file member text held).mpr (settled file member text held)

/-- A run that went well can be repeated. The second run reports nothing exactly when every
line of the selected files was settled at first, and then it leaves the disk alone. -/
theorem Qualifies.run_again (qualifies : redirector.Qualifies) {μ : Type} {disk : Disk}
    (proper : disk.tree.Proper) {root : Path} {memory : μ} {report : Report} {after : World μ}
    (went : redirector.run root .apply ⟨disk, memory⟩ = .ok report after) :
    ∃ second left, redirector.run root .apply after = .ok second left ∧
      (second.isEmpty = true ↔
        redirector.SettledFiles (redirector.selected root (disk.regularFiles root))) ∧
      (second.isEmpty = true → left = after) := by
  obtain ⟨listed, texts⟩ := holdsTexts_of_run_apply proper went
  rw [run_apply_of_texts proper listed texts] at went
  obtain ⟨-, rfl⟩ := EStateM.Result.ok.inj went
  have apart : ((redirector.selected root (disk.regularFiles root)).map
      FoundFile.location).Nodup :=
    (Disk.finds_regularFiles proper root).apart.sublist (List.filter_sublist.map _)
  generalize isSelected : redirector.selected root (disk.regularFiles root) = files at texts apart ⊢
  have found : redirector.selected root
      ((disk.overwrite (redirector.changes files)).regularFiles root) =
        files.map (FoundFile.overwrite (redirector.changes files)) := by
    rw [Disk.regularFiles_overwrite proper, selected_map_overwrite, isSelected]
  have properAfter : (disk.overwrite (redirector.changes files)).tree.Proper :=
    proper.overwrite _
  have listedAfter : (disk.overwrite (redirector.changes files)).filesBelowRoot root =
      .ok (((disk.overwrite (redirector.changes files)).regularFiles root).map
        FoundFile.path) := by
    rw [Disk.filesBelowRoot_overwrite, listed, Disk.regularFiles_overwrite proper,
      List.map_map]
    rfl
  have textsAfter : (disk.overwrite (redirector.changes files)).HoldsTexts
      (files.map (FoundFile.overwrite (redirector.changes files))) := by
    apply texts.overwrite apart
    intro file member data made
    obtain ⟨found, redirects, rfl⟩ := Option.map_eq_some_iff.mp made
    exact isOk_decode_of_redirectFile redirects
  have again := run_apply_of_texts properAfter listedAfter (found ▸ textsAfter) memory
  rw [found] at again
  refine ⟨_, _, again, ?_, ?_⟩
  · rw [Report.isEmpty, List.isEmpty_iff]
    exact qualifies.fileHits_overwrite apart fun file member => (texts file member).2
  · intro idle
    rw [Report.isEmpty, List.isEmpty_iff] at idle
    rw [changes_eq_nil idle, Disk.overwrite_nil properAfter]

/-! ## The built-in redirector -/

/-- With the built-in configuration, a run that applies changes and goes well can be repeated,
and goes well again. The second run reports nothing, and leaves the disk alone, exactly when
no unprotected line of a selected file held two of the names at first. -/
theorem builtin_run_again {redirector : Redirector}
    (isBuiltin : ofConfiguration .builtin = .ok redirector) {μ : Type} {disk : Disk}
    (proper : disk.tree.Proper) {root : Path} {memory : μ} {report : Report} {after : World μ}
    (went : redirector.run root .apply ⟨disk, memory⟩ = .ok report after) :
    ∃ second left, redirector.run root .apply after = .ok second left ∧
      (second.isEmpty = true ↔
        redirector.SettledFiles (redirector.selected root (disk.regularFiles root))) ∧
      (second.isEmpty = true → left = after) := by
  rw [ofConfiguration_builtin] at isBuiltin
  cases isBuiltin
  exact qualifies_builtin.run_again proper went

/-- A directory with one script. -/
def oneScript (data : Bytes) : Disk where
  tree := .directory [(Utf8.encode "a.lua", .file data)]
  workingLocation := []

/-- The script, found below the working directory. -/
def theScript (data : Bytes) : FoundFile :=
  ⟨.ofText "./a.lua", [Utf8.encode "a.lua"], data⟩

theorem proper_oneScript (data : Bytes) : (oneScript data).tree.Proper := by
  rw [oneScript]
  exact Node.Proper.cons (by decide) (by decide) (.file data) .empty

theorem regularFiles_oneScript (data : Bytes) :
    (oneScript data).regularFiles (.ofText ".") = [theScript data] := by
  cbv

theorem selected_oneScript (data : Bytes) :
    builtin.selected (.ofText ".") [theScript data] = [theScript data] := by
  have selects : builtin.selector.selects (.ofText ".") (.ofText "./a.lua") = true := by decide
  exact selected_singleton selects

theorem exists_run_oneScript (text : String) :
    ∃ report after,
      builtin.run (.ofText ".") .apply ⟨oneScript (Utf8.encode text), ()⟩ =
        .ok report after := by
  have listed (data : Bytes) : (oneScript data).filesBelowRoot (.ofText ".") =
      .ok (((oneScript data).regularFiles (.ofText ".")).map FoundFile.path) := by
    cbv
  have read (data : Bytes) : (oneScript data).read (.ofText "./a.lua") = .ok data := by
    cbv
  refine ⟨_, _, run_apply_of_texts (proper_oneScript _) (listed _) ?_ ()⟩
  rw [regularFiles_oneScript, selected_oneScript]
  intro file member
  cases List.mem_singleton.mp member
  rw [theScript, read, Utf8.decode_encode]
  exact ⟨rfl, rfl⟩

/-- With one call on the line, the second run is an idle one. -/
theorem builtin_run_again_oneScript :
    ∃ first second after,
      builtin.run (.ofText ".") .apply ⟨oneScript (Utf8.encode "x = dict(1)\n"), ()⟩ =
          .ok first after ∧
        builtin.run (.ofText ".") .apply after = .ok second after ∧ second.isEmpty = true := by
  obtain ⟨first, after, went⟩ := exists_run_oneScript "x = dict(1)\n"
  obtain ⟨second, left, again, idle_iff, idle⟩ :=
    builtin_run_again ofConfiguration_builtin (proper_oneScript _) went
  have settled : builtin.SettledFiles [theScript (Utf8.encode "x = dict(1)\n")] := by
    intro file member text held line isLine
    cases List.mem_singleton.mp member
    rw [theScript, Utf8.decode_encode] at held
    cases held
    have lines : Line.ofText "x = dict(1)\n".toList = [⟨"x = dict(1)".toList, .feed⟩] := by decide
    rw [lines] at isLine
    cases List.mem_singleton.mp isLine
    right
    decide
  rw [regularFiles_oneScript, selected_oneScript] at idle_iff
  have isIdle := idle_iff.mpr settled
  rw [idle isIdle] at again
  exact ⟨first, second, after, went, again, isIdle⟩

/-- With one call inside another, the second run redirects the other name. -/
theorem second_run_of_nested_calls :
    ∃ redirector first second middle after,
      ofConfiguration .builtin = .ok redirector ∧
        redirector.run (.ofText ".") .apply ⟨oneScript (Utf8.encode "x = list(dict(1))\n"), ()⟩ =
          .ok first middle ∧
        redirector.run (.ofText ".") .apply middle = .ok second after ∧
        second.isEmpty = false := by
  obtain ⟨first, middle, went⟩ := exists_run_oneScript "x = list(dict(1))\n"
  obtain ⟨second, after, again, idle_iff, -⟩ :=
    qualifies_builtin.run_again (proper_oneScript _) went
  refine ⟨builtin, first, second, middle, after, ofConfiguration_builtin, went, again, ?_⟩
  rw [← Bool.not_eq_true, idle_iff, regularFiles_oneScript, selected_oneScript]
  intro settled
  have line : (⟨"x = list(dict(1))".toList, .feed⟩ : Line) ∈
      Line.ofText "x = list(dict(1))\n".toList := by decide
  rcases settled _ List.mem_cons_self _ (Utf8.decode_encode _) _ line with isProtected | single
  · revert isProtected
    decide
  · have same := single (toModule "dict" (by decide)) (by decide) (toModule "list" (by decide))
      (by decide) (by decide) (by decide)
    revert same
    decide

end Redirector

end Redirect
