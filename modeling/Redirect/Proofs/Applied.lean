/-
# What applying changes leaves on the disk

Applied changes overwrite the selected files with redirected lines, each with the text made
of what it held at first, and leave everything else as it is. A file that holds no text ends
the run, and the files before it stay overwritten. The reference is the list of regular
files below the root as the first disk holds them.
-/

import Mathlib
import Redirect.Proofs.HeldTexts
import Redirect.Proofs.Stages

namespace Redirect

open Relation (ReflTransGen)

namespace Redirector

/-- The selected ones of the files found below a root, in their order. -/
def selected (redirector : Redirector) (root : Path) (files : List FoundFile) :
    List FoundFile :=
  files.filter fun file => redirector.selector.selects root file.path

/-- The data that a file gets and what is told about it, if it holds a text with lines to be
redirected. -/
def redirectFile (redirector : Redirector) (file : FoundFile) : Option (Bytes × FileHits) :=
  (Utf8.decode? file.data).bind fun text =>
    (redirector.redirectText file.path text).map fun redirected =>
      (Utf8.encode redirected.1, ⟨file.path, redirected.2⟩)

/-- The data that files get, by their locations. -/
def changes (redirector : Redirector) : List FoundFile → List (Location × Bytes) :=
  changesBy fun file => (redirector.redirectFile file).map Prod.fst

/-- What is told about files, in their order. -/
def fileHits (redirector : Redirector) (files : List FoundFile) : List FileHits :=
  files.filterMap fun file => (redirector.redirectFile file).map Prod.snd

section Redirected

variable {redirector : Redirector} {root : Path} {file : FoundFile}
variable {text newText : String} {hits : List Hit}

theorem selected_append (redirector : Redirector) (root : Path) (files others : List FoundFile) :
    redirector.selected root (files ++ others) =
      redirector.selected root files ++ redirector.selected root others :=
  List.filter_append files others

theorem selected_singleton (isSelected : redirector.selector.selects root file.path = true) :
    redirector.selected root [file] = [file] :=
  List.filter_cons_of_pos isSelected

theorem selected_singleton_of_false
    (unselected : redirector.selector.selects root file.path = false) :
    redirector.selected root [file] = [] := by
  apply List.filter_cons_of_neg
  rw [unselected]
  decide

@[simp]
theorem changes_nil (redirector : Redirector) : redirector.changes [] = [] :=
  rfl

@[simp]
theorem fileHits_nil (redirector : Redirector) : redirector.fileHits [] = [] :=
  rfl

@[simp]
theorem changes_append (redirector : Redirector) (files others : List FoundFile) :
    redirector.changes (files ++ others) = redirector.changes files ++ redirector.changes others :=
  changesBy_append _ files others

@[simp]
theorem fileHits_append (redirector : Redirector) (files others : List FoundFile) :
    redirector.fileHits (files ++ others) =
      redirector.fileHits files ++ redirector.fileHits others :=
  List.filterMap_append

theorem redirectFile_eq_none (held : Utf8.decode file.data = .ok text)
    (unaffected : redirector.redirectText file.path text = none) :
    redirector.redirectFile file = none := by
  rw [redirectFile, Utf8.decode?, held, Except.toOption, Option.bind_some, unaffected]
  rfl

theorem redirectFile_eq_some (held : Utf8.decode file.data = .ok text)
    (affected : redirector.redirectText file.path text = some (newText, hits)) :
    redirector.redirectFile file = some (Utf8.encode newText, ⟨file.path, hits⟩) := by
  rw [redirectFile, Utf8.decode?, held, Except.toOption, Option.bind_some, affected]
  rfl

theorem changes_singleton_of_none (unaffected : redirector.redirectFile file = none) :
    redirector.changes [file] = [] :=
  changesBy_cons_of_none (Option.map_eq_none_iff.mpr unaffected) []

theorem changes_singleton_of_some {data : Bytes} {told : FileHits}
    (affected : redirector.redirectFile file = some (data, told)) :
    redirector.changes [file] = [(file.location, data)] :=
  changesBy_cons_of_some (Option.map_eq_some_iff.mpr ⟨_, affected, rfl⟩) []

theorem fileHits_singleton_of_none (unaffected : redirector.redirectFile file = none) :
    redirector.fileHits [file] = [] := by
  rw [fileHits, List.filterMap_cons, unaffected]
  rfl

theorem fileHits_singleton_of_some {data : Bytes} {told : FileHits}
    (affected : redirector.redirectFile file = some (data, told)) :
    redirector.fileHits [file] = [told] := by
  rw [fileHits, List.filterMap_cons, affected]
  rfl

end Redirected

end Redirector

namespace Redirector

section Apply

variable {μ : Type} {redirector : Redirector} {root : Path} {disk : Disk}
variable {changed : List (Location × Bytes)}

/-- One found file of a run that applies changes: the disk is overwritten with its new data,
if it gets any, and the files after it are still to be visited. -/
theorem advances_apply {file : FoundFile} {rest : List FoundFile}
    (pending : disk.Pending changed (file :: rest))
    (texts : disk.HoldsTexts (redirector.selected root [file])) (memory : μ)
    (told : List FileHits) :
    redirector.Advances root .apply (fun _ => pure ())
        ⟨(file :: rest).map FoundFile.path, ⟨disk.overwrite changed, memory⟩, told⟩
        ⟨rest.map FoundFile.path,
          ⟨disk.overwrite (changed ++ redirector.changes (redirector.selected root [file])),
            memory⟩,
          told ++ redirector.fileHits (redirector.selected root [file])⟩ ∧
      disk.Pending (changed ++ redirector.changes (redirector.selected root [file])) rest := by
  cases selects : redirector.selector.selects root file.path with
  | false =>
    rw [selected_singleton_of_false selects, changes_nil, fileHits_nil, List.append_nil,
      List.append_nil]
    exact ⟨.unselected selects, pending.tail⟩
  | true =>
    rw [selected_singleton selects] at texts ⊢
    obtain ⟨text, held, decoded⟩ := texts.readText_eq pending.finds
      (List.mem_singleton_self file) List.mem_cons_self
    have heldNow : (disk.overwrite changed).readText file.path = .ok text := by
      rw [pending.readText_eq, held]
    cases affected : redirector.redirectText file.path text with
    | none =>
      have unaffected := redirectFile_eq_none decoded affected
      rw [changes_singleton_of_none unaffected, fileHits_singleton_of_none unaffected,
        List.append_nil, List.append_nil]
      exact ⟨.unaffected selects heldNow affected, pending.tail⟩
    | some redirected =>
      obtain ⟨newText, hits⟩ := redirected
      have redirects := redirectFile_eq_some decoded affected
      obtain ⟨written, pendingAfter⟩ := pending.writeText_eq held newText
      rw [changes_singleton_of_some redirects, fileHits_singleton_of_some redirects]
      exact ⟨.written selects heldNow affected rfl rfl written, pendingAfter⟩

/-- Found files that hold texts are passed one after the other. -/
theorem reaches_apply {files rest : List FoundFile}
    (pending : disk.Pending changed (files ++ rest))
    (texts : disk.HoldsTexts (redirector.selected root files)) (memory : μ)
    (told : List FileHits) :
    ReflTransGen (redirector.Advances root .apply fun _ => pure ())
        ⟨(files ++ rest).map FoundFile.path, ⟨disk.overwrite changed, memory⟩, told⟩
        ⟨rest.map FoundFile.path,
          ⟨disk.overwrite (changed ++ redirector.changes (redirector.selected root files)),
            memory⟩,
          told ++ redirector.fileHits (redirector.selected root files)⟩ ∧
      disk.Pending (changed ++ redirector.changes (redirector.selected root files)) rest := by
  induction files generalizing changed told with
  | nil =>
    simp only [selected, List.filter_nil, changes_nil, fileHits_nil, List.append_nil]
    exact ⟨.refl, pending⟩
  | cons file others ih =>
    rw [← List.singleton_append, selected_append] at texts
    obtain ⟨advances, pendingAfter⟩ := advances_apply pending
      (fun found member => texts found (List.mem_append_left _ member)) memory told
    obtain ⟨reaches, pendingEnd⟩ := ih pendingAfter
      (fun found member => texts found (List.mem_append_right _ member)) _
    rw [← List.singleton_append (l := others), selected_append, changes_append, fileHits_append,
      ← List.append_assoc, ← List.append_assoc]
    exact ⟨.head advances reaches, pendingEnd⟩

end Apply

/-! ## The effect of applying -/

theorem mem_of_selected_eq {redirector : Redirector} {root : Path}
    {files before after : List FoundFile} {file : FoundFile}
    (split : redirector.selected root files = before ++ file :: after) : file ∈ files := by
  apply List.mem_of_mem_filter
  rw [← selected, split]
  exact List.mem_append_right before List.mem_cons_self

theorem exists_of_selected_eq {redirector : Redirector} {root : Path}
    {files before after : List FoundFile} {file : FoundFile}
    (split : redirector.selected root files = before ++ file :: after) :
    ∃ front back, files = front ++ file :: back ∧ redirector.selected root front = before ∧
      redirector.selector.selects root file.path = true := by
  obtain ⟨first, second, rfl, firstSelected, secondSelected⟩ :=
    List.filter_eq_append_iff.mp split
  obtain ⟨skipped, back, rfl, unselected, selects, -⟩ :=
    List.filter_eq_cons_iff.mp secondSelected
  have nothing : redirector.selected root skipped = [] := List.filter_eq_nil_iff.mpr unselected
  refine ⟨first ++ skipped, back, (List.append_assoc _ _ _).symm, ?_, selects⟩
  rw [selected_append, nothing, List.append_nil]
  exact firstSelected

section Effect

variable {μ : Type} {redirector : Redirector} {disk : Disk} {root : Path}

/-- When every selected file holds a text, a run that applies changes goes well: it reports
the files with redirected lines, and the disk is overwritten with their new data. -/
theorem run_apply_of_texts (proper : disk.tree.Proper)
    (listed : disk.filesBelowRoot root = .ok ((disk.regularFiles root).map FoundFile.path))
    (texts : disk.HoldsTexts (redirector.selected root (disk.regularFiles root)))
    (memory : μ) :
    redirector.run root .apply ⟨disk, memory⟩ =
      .ok ⟨redirector.fileHits (redirector.selected root (disk.regularFiles root)), true⟩
        ⟨disk.overwrite (redirector.changes (redirector.selected root (disk.regularFiles root))),
          memory⟩ := by
  have pending := (Disk.finds_regularFiles proper root).pending proper
  rw [← List.append_nil (disk.regularFiles root)] at pending
  obtain ⟨reaches, -⟩ := reaches_apply pending texts memory []
  rw [Disk.overwrite_nil proper, List.append_nil] at reaches
  rw [run, runWith_eq_ok_iff listed]
  exact ⟨reaches, rfl⟩

/-- The first selected file that cannot be read as a text ends a run that applies changes, and
the disk is overwritten with the new data of the files before it. -/
theorem run_apply_of_unread (proper : disk.tree.Proper)
    (listed : disk.filesBelowRoot root = .ok ((disk.regularFiles root).map FoundFile.path))
    {before after : List FoundFile} {file : FoundFile}
    (split : redirector.selected root (disk.regularFiles root) = before ++ file :: after)
    (texts : disk.HoldsTexts before) {fault : Fault}
    (failed : disk.readText file.path = .error fault) (memory : μ) :
    redirector.run root .apply ⟨disk, memory⟩ =
      .error fault ⟨disk.overwrite (redirector.changes before), memory⟩ := by
  obtain ⟨front, back, files, rfl, selects⟩ := exists_of_selected_eq split
  have pending := (Disk.finds_regularFiles proper root).pending proper
  rw [files] at pending
  obtain ⟨reaches, pendingHere⟩ := reaches_apply pending texts memory []
  rw [Disk.overwrite_nil proper, ← files] at reaches
  have fails := pendingHere.readText_eq.trans failed
  rw [run, runWith_eq_error_iff listed]
  exact ⟨_, reaches, .unread selects fails⟩

/-- Only if every selected file holds a text, a run that applies changes goes well. -/
theorem holdsTexts_of_run_apply (proper : disk.tree.Proper) {memory : μ} {report : Report}
    {after : World μ}
    (went : redirector.run root .apply ⟨disk, memory⟩ = .ok report after) :
    disk.filesBelowRoot root = .ok ((disk.regularFiles root).map FoundFile.path) ∧
      disk.HoldsTexts (redirector.selected root (disk.regularFiles root)) := by
  cases listed : disk.filesBelowRoot root with
  | error fault =>
    rw [run, runWith_unlisted listed] at went
    cases went
  | ok paths =>
    have named := Disk.eq_map_path_of_filesBelowRoot proper listed
    subst named
    refine ⟨rfl, ?_⟩
    cases first : (redirector.selected root (disk.regularFiles root)).find? fun file =>
        !((disk.read file.path).isOk && (Utf8.decode file.data).isOk) with
    | none =>
      intro file member
      simpa using List.find?_eq_none.mp first file member
    | some file =>
      obtain ⟨fails, before, others, split, texts⟩ := List.find?_eq_some_iff_append.mp first
      obtain ⟨fault, failed⟩ := (Disk.finds_regularFiles proper root).exists_readText_error
        (mem_of_selected_eq split) ((Bool.not_eq_true' _).mp fails)
      have ended := run_apply_of_unread proper listed split (fun earlier member => by
        simpa using texts earlier member) failed memory
      rw [went] at ended
      cases ended

/-- What a run that applies changes leaves, when its root is a directory that can be walked
and the selected files can be read as far as they are needed. If all of them hold texts, the
run reports the files with redirected lines and overwrites exactly these. The first one that
holds no text ends the run and is named, and the files before it are overwritten. -/
theorem run_apply_effect (redirector : Redirector) (proper : disk.tree.Proper)
    (isDirectory : disk.isDirectory root = true) (walked : (disk.files root).isOk)
    (memory : μ) :
    (disk.HoldsTexts (redirector.selected root (disk.regularFiles root)) →
      redirector.run root .apply ⟨disk, memory⟩ =
        .ok ⟨redirector.fileHits (redirector.selected root (disk.regularFiles root)), true⟩
          ⟨disk.overwrite
            (redirector.changes (redirector.selected root (disk.regularFiles root))),
            memory⟩) ∧
    ∀ before file after defect,
      redirector.selected root (disk.regularFiles root) = before ++ file :: after →
      disk.HoldsTexts before → (disk.read file.path).isOk →
      Utf8.decode file.data = .error defect →
      redirector.run root .apply ⟨disk, memory⟩ =
          .error (.notText file.path defect)
            ⟨disk.overwrite (redirector.changes before), memory⟩ ∧
        (Fault.notText file.path defect).notice.code.name = "internal.encoding_error" := by
  have listed := Disk.filesBelowRoot_eq proper isDirectory walked
  constructor
  · intro texts
    exact run_apply_of_texts proper listed texts memory
  · intro before file after defect split texts readable broken
    have got := (Disk.finds_regularFiles proper root).read_eq (mem_of_selected_eq split)
      readable
    have failed := Disk.readText_of_decode_error got broken
    exact ⟨run_apply_of_unread proper listed split texts failed memory, rfl⟩

end Effect

/-- A directory with a script, a link to it, and a script that holds no text. -/
def sampleDisk : Disk where
  tree := .directory
    [(Utf8.encode "a.lua", .file (Utf8.encode "x = dict(1)\n")),
      (Utf8.encode "b.lua", .link (.ofText "a.lua")),
      (Utf8.encode "c.lua", .file [0xFF])]
  workingLocation := []

/-- The redirection of one name in every script. -/
def sampleRedirector : Redirector where
  rules := [⟨"dict", "utils.dict", Eq.refl true⟩]
  selector := ⟨["lua"], [], []⟩
  isProtected := fun _ => false

theorem proper_sampleDisk : sampleDisk.tree.Proper := by
  rw [sampleDisk]
  apply Node.Proper.cons (by decide) (by decide) (.file _)
  apply Node.Proper.cons (by decide) (by decide) (.link _)
  exact Node.Proper.cons (by decide) (by decide) (.file _) .empty

/-- The script before the broken one is redirected, and the broken one ends the run. -/
theorem run_apply_effect_sampleDisk :
    sampleRedirector.run (.ofText ".") .apply ⟨sampleDisk, ()⟩ =
      .error (.notText (.ofText "./c.lua") (.invalid 0 1))
        ⟨sampleDisk.overwrite [([Utf8.encode "a.lua"], Utf8.encode "x = utils.dict(1)\n")],
          ()⟩ := by
  have split : sampleRedirector.selected (.ofText ".") (sampleDisk.regularFiles (.ofText ".")) =
      [⟨.ofText "./a.lua", [Utf8.encode "a.lua"], Utf8.encode "x = dict(1)\n"⟩] ++
        ⟨.ofText "./c.lua", [Utf8.encode "c.lua"], [0xFF]⟩ :: [] := by
    cbv
  have texts : sampleDisk.HoldsTexts
      [⟨.ofText "./a.lua", [Utf8.encode "a.lua"], Utf8.encode "x = dict(1)\n"⟩] := by
    simp only [Disk.HoldsTexts, List.forall_mem_singleton]
    decide_cbv
  have isDirectory : sampleDisk.isDirectory (.ofText ".") = true := by cbv
  have walked : (sampleDisk.files (.ofText ".")).isOk = true := by cbv
  have effect := run_apply_effect sampleRedirector proper_sampleDisk isDirectory walked ()
  exact (effect.2 _ _ _ _ split texts (by cbv) (by cbv)).1

end Redirector

end Redirect
