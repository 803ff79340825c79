/-
# One pass after the other

Each substitution makes a pass over the files below the root that have one of the extensions.
Where these hold texts, a pass rewrites exactly those that hold the old text when it begins,
and what it leaves holds texts again, so that the next pass can begin. A file that holds no
text ends the first pass, when the files before it have been visited.
-/

import Mathlib
import Redirect.Proofs.Encoding
import Redirect.Proofs.HeldTexts
import Redirect.Proofs.Occurrences
import Redirect.Proofs.Visits

namespace Redirect

/-- The regular files below a root that have one of the extensions, in the order of the walk. -/
def Disk.candidateFiles (disk : Disk) (extensions : List String) (root : Path) :
    List FoundFile :=
  (disk.regularFiles root).filter fun file => Selector.hasExtension extensions file.path

namespace Substitution

/-- The data that a file gets in a pass, if it holds the old text. -/
def newData (substitution : Substitution) (file : FoundFile) : Option Bytes :=
  (Utf8.decode? file.data).bind fun text =>
    if substitution.old.toList <:+: text.toList then
      some (Utf8.encode (substitution.apply text))
    else none

/-- The paths of the files that hold the old text. -/
def found (substitution : Substitution) (files : List FoundFile) : List Path :=
  (files.filter fun file => (substitution.newData file).isSome).map FoundFile.path

/-- The disk that a pass leaves. -/
def passed (root : Path) (extensions : List String) (disk : Disk)
    (substitution : Substitution) : Disk :=
  disk.overwrite (changesBy substitution.newData (disk.candidateFiles extensions root))

/-- The outcomes of passes one after the other. Each finds what the ones before it have left. -/
def outcomes (root : Path) (extensions : List String) (disk : Disk) :
    List Substitution → List SubstitutionOutcome
  | [] => []
  | substitution :: rest =>
    ⟨substitution, substitution.found (disk.candidateFiles extensions root), true⟩ ::
      outcomes root extensions (passed root extensions disk substitution) rest

end Substitution

/-! ## The files of a pass -/

namespace Disk

variable {disk : Disk} {extensions : List String} {root : Path}

theorem candidates_eq
    (listed : disk.filesBelowRoot root = .ok ((disk.regularFiles root).map FoundFile.path)) :
    disk.candidates extensions root =
      .ok ((disk.candidateFiles extensions root).map FoundFile.path) := by
  rw [candidates, listed, candidateFiles]
  show Except.ok (((disk.regularFiles root).map FoundFile.path).filter
    (Selector.hasExtension extensions)) = _
  rw [List.filter_map]
  rfl

theorem candidates_of_unlisted {fault : Fault} (failed : disk.filesBelowRoot root = .error fault) :
    disk.candidates extensions root = .error fault := by
  rw [candidates, failed]
  rfl

theorem finds_candidateFiles (proper : disk.tree.Proper) (extensions : List String)
    (root : Path) : disk.Finds (disk.candidateFiles extensions root) :=
  (finds_regularFiles proper root).sublist List.filter_sublist

theorem candidateFiles_overwrite (proper : disk.tree.Proper)
    (changes : List (Location × Bytes)) :
    (disk.overwrite changes).candidateFiles extensions root =
      (disk.candidateFiles extensions root).map (FoundFile.overwrite changes) := by
  rw [candidateFiles, candidateFiles, regularFiles_overwrite proper, List.filter_map]
  rfl

/-- Passes can be made below a root: it can be walked, and the files to be visited hold
texts. -/
structure Searchable (disk : Disk) (extensions : List String) (root : Path) : Prop where
  proper : disk.tree.Proper
  listed : disk.filesBelowRoot root = .ok ((disk.regularFiles root).map FoundFile.path)
  texts : disk.HoldsTexts (disk.candidateFiles extensions root)

end Disk

namespace Substitution

variable {substitution : Substitution} {file : FoundFile} {text : String}

theorem holds_iff (text needle : String) : holds text needle ↔ needle.toList <:+: text.toList :=
  Text.occurs_iff_isInfix

theorem newData_eq_none (held : Utf8.decode file.data = .ok text)
    (absent : ¬holds text substitution.old) : substitution.newData file = none := by
  rw [newData, Utf8.decode?, held, Except.toOption, Option.bind_some,
    if_neg ((holds_iff _ _).not.mp absent)]

theorem newData_eq_some (held : Utf8.decode file.data = .ok text)
    (present : holds text substitution.old) :
    substitution.newData file = some (Utf8.encode (substitution.apply text)) := by
  rw [newData, Utf8.decode?, held, Except.toOption, Option.bind_some,
    if_pos ((holds_iff _ _).mp present)]

/-- What a pass writes is a text. -/
theorem isOk_decode_of_newData {data : Bytes} (made : data ∈ substitution.newData file) :
    (Utf8.decode data).isOk := by
  obtain ⟨text, -, given⟩ := Option.bind_eq_some_iff.mp made
  split at given
  · cases given
    rw [Utf8.decode_encode]
    rfl
  · cases given

theorem found_cons_of_none (nothing : substitution.newData file = none)
    (files : List FoundFile) : substitution.found (file :: files) = substitution.found files := by
  rw [found, List.filter_cons, nothing]
  rfl

theorem found_cons_of_some {data : Bytes} (made : substitution.newData file = some data)
    (files : List FoundFile) :
    substitution.found (file :: files) = file.path :: substitution.found files := by
  rw [found, List.filter_cons, made]
  rfl

end Substitution

/-- After a pass another one can be made. -/
theorem Disk.Searchable.passed {disk : Disk} {extensions : List String} {root : Path}
    (searchable : disk.Searchable extensions root) (substitution : Substitution) :
    (Substitution.passed root extensions disk substitution).Searchable extensions root := by
  have apart := (finds_candidateFiles searchable.proper extensions root).apart
  constructor
  · exact searchable.proper.overwrite _
  · rw [Substitution.passed, filesBelowRoot_overwrite, searchable.listed,
      regularFiles_overwrite searchable.proper, List.map_map]
    rfl
  · rw [Substitution.passed, candidateFiles_overwrite searchable.proper]
    exact searchable.texts.overwrite apart fun _ _ _ made =>
      Substitution.isOk_decode_of_newData made

/-! ## One pass -/

namespace Substitution

variable {μ : Type} {onFile : Path → Action μ Unit} {disk : Disk}
variable {changed : List (Location × Bytes)} {files rest : List FoundFile}

/-- Telling about files goes well and leaves the disk alone. -/
def Quiet (onFile : Path → Action μ Unit) : Prop :=
  ∀ path world, ∃ memory, onFile path world = .ok () ⟨world.disk, memory⟩

/-- Found files that hold texts are visited one after the other: those that hold the old text
get their new data. -/
theorem visit_apply (substitution : Substitution) (quiet : Quiet onFile)
    (pending : disk.Pending changed (files ++ rest)) (texts : disk.HoldsTexts files)
    (memory : μ) :
    ∃ left,
      substitution.visit .apply onFile ((files ++ rest).map FoundFile.path)
          ⟨disk.overwrite changed, memory⟩ =
        ((substitution.found files ++ ·) <$>
            substitution.visit .apply onFile (rest.map FoundFile.path))
          ⟨disk.overwrite (changed ++ changesBy substitution.newData files), left⟩ ∧
      disk.Pending (changed ++ changesBy substitution.newData files) rest := by
  -- What was written so far has left the files alone that are still to be visited.
  induction files generalizing changed memory with
  | nil =>
    rw [changesBy_nil, List.append_nil]
    exact ⟨memory, (congrFun (id_map _) _).symm, pending⟩
  | cons file files ih =>
    have others : disk.HoldsTexts files := fun other member =>
      texts other (List.mem_cons_of_mem _ member)
    obtain ⟨text, held, decoded⟩ := texts.readText_eq pending.finds List.mem_cons_self
      List.mem_cons_self
    have heldNow : (disk.overwrite changed).readText file.path = .ok text := by
      rw [pending.readText_eq, held]
    by_cases present : holds text substitution.old
    · obtain ⟨told, accepted⟩ := quiet file.path ⟨disk.overwrite changed, memory⟩
      obtain ⟨written, pendingAfter⟩ := pending.writeText_eq held (substitution.apply text)
      obtain ⟨left, visited, pendingEnd⟩ := ih pendingAfter others told
      have made := newData_eq_some decoded present
      rw [List.append_assoc, List.singleton_append, ← changesBy_cons_of_some made]
        at visited pendingEnd
      have goesOn := (visit_written heldNow present accepted written).trans
        (Action.map_of_map visited (List.cons file.path))
      refine ⟨left, goesOn.trans ?_, pendingEnd⟩
      rw [found_cons_of_some made]
      rfl
    · obtain ⟨left, visited, pendingEnd⟩ := ih pending.tail others memory
      have nothing := newData_eq_none decoded present
      rw [← changesBy_cons_of_none nothing] at visited pendingEnd
      refine ⟨left, ?_, pendingEnd⟩
      rw [found_cons_of_none nothing, ← visited]
      exact visit_absent heldNow present

variable {extensions : List String} {root : Path}

/-- A pass over files that hold texts names those that hold the old text, and rewrites them. -/
theorem pass_apply (substitution : Substitution) (quiet : Quiet onFile)
    (searchable : disk.Searchable extensions root) (memory : μ) :
    ∃ left,
      substitution.pass root extensions .apply onFile ⟨disk, memory⟩ =
        .ok ⟨substitution, substitution.found (disk.candidateFiles extensions root), true⟩
          ⟨passed root extensions disk substitution, left⟩ := by
  have pending := (Disk.finds_candidateFiles searchable.proper extensions root).pending
    searchable.proper
  rw [← List.append_nil (disk.candidateFiles extensions root)] at pending
  obtain ⟨left, visited, -⟩ := visit_apply substitution quiet pending searchable.texts memory
  have ended := visited.trans (Action.map_of_ok rfl _)
  rw [Disk.overwrite_nil searchable.proper, List.append_nil, List.append_nil] at ended
  refine ⟨left, ?_⟩
  rw [pass_listed (Disk.candidates_eq searchable.listed)]
  exact Action.map_of_ok ended _

/-- The first file that holds no text ends a pass, when the files before it have been
visited. -/
theorem pass_apply_of_unread (substitution : Substitution) (quiet : Quiet onFile)
    (proper : disk.tree.Proper)
    (listed : disk.filesBelowRoot root = .ok ((disk.regularFiles root).map FoundFile.path))
    {before after : List FoundFile} {file : FoundFile}
    (split : disk.candidateFiles extensions root = before ++ file :: after)
    (texts : disk.HoldsTexts before) {fault : Fault}
    (failed : disk.readText file.path = .error fault) (memory : μ) :
    ∃ left,
      substitution.pass root extensions .apply onFile ⟨disk, memory⟩ =
        .error fault ⟨disk.overwrite (changesBy substitution.newData before), left⟩ := by
  have pending := (Disk.finds_candidateFiles proper extensions root).pending proper
  rw [split] at pending
  obtain ⟨left, visited, pendingHere⟩ := visit_apply substitution quiet pending texts memory
  rw [Disk.overwrite_nil proper, ← split] at visited
  have fails := pendingHere.readText_eq.trans failed
  refine ⟨left, ?_⟩
  rw [pass_listed (Disk.candidates_eq listed), Action.map_of_map visited]
  exact Action.map_of_error (visit_unread fails) _

/-! ## All passes -/

/-- Passes over files that hold texts go well, each with its own outcome. -/
theorem passes_apply (quiet : Quiet onFile) (searchable : disk.Searchable extensions root)
    (substitutions : List Substitution) (memory : μ) :
    ∃ left,
      passes root extensions .apply onFile substitutions ⟨disk, memory⟩ =
        .ok (outcomes root extensions disk substitutions)
          ⟨substitutions.foldl (passed root extensions) disk, left⟩ := by
  induction substitutions generalizing disk memory with
  | nil => exact ⟨memory, rfl⟩
  | cons substitution rest ih =>
    obtain ⟨middle, first⟩ := pass_apply substitution quiet searchable memory
    obtain ⟨left, others⟩ := ih (searchable.passed substitution) middle
    refine ⟨left, ?_⟩
    rw [passes, Action.bind_of_ok first, Action.bind_of_ok others]
    rfl

/-- The passes of some substitutions come before those of the ones that follow. -/
theorem passes_append (root : Path) (extensions : List String) (mode : Mode)
    (onFile : Path → Action μ Unit) (first second : List Substitution) :
    passes root extensions mode onFile (first ++ second) =
      (do
        let earlier ← passes root extensions mode onFile first
        let later ← passes root extensions mode onFile second
        pure (earlier ++ later)) := by
  induction first with
  | nil => simp [passes]
  | cons substitution rest ih => simp [passes, ih]

/-- What passes that apply changes leave, when their root is a directory that can be walked, the
files can be read as far as they are needed, and telling about files goes well and leaves the
disk alone. If the files with one of the extensions hold texts, each pass names those that hold
the old text when it begins, and overwrites exactly these; in each, every occurrence is
replaced, from the left and without overlap. The passes of a list come before those of the list
that follows. The first file that holds no text ends the first pass and is named, and the files
before it are overwritten. -/
theorem passes_apply_effect (extensions : List String) (proper : disk.tree.Proper)
    (isDirectory : disk.isDirectory root = true) (walked : (disk.files root).isOk)
    (quiet : Quiet onFile) (memory : μ) :
    (disk.HoldsTexts (disk.candidateFiles extensions root) →
      ∀ substitutions, ∃ left,
        passes root extensions .apply onFile substitutions ⟨disk, memory⟩ =
          .ok (outcomes root extensions disk substitutions)
            ⟨substitutions.foldl (passed root extensions) disk, left⟩) ∧
    (∀ (substitution : Substitution) (text : String) (result : List Char),
      Text.Replaced substitution.old.toList substitution.new.toList text.toList result ↔
        result = (substitution.apply text).toList) ∧
    (∀ first second,
      passes root extensions .apply onFile (first ++ second) =
        (do
          let earlier ← passes root extensions .apply onFile first
          let later ← passes root extensions .apply onFile second
          pure (earlier ++ later))) ∧
    ∀ before file after defect,
      disk.candidateFiles extensions root = before ++ file :: after →
      disk.HoldsTexts before → (disk.read file.path).isOk →
      Utf8.decode file.data = .error defect →
      ∀ substitution rest, ∃ left,
        passes root extensions .apply onFile (substitution :: rest) ⟨disk, memory⟩ =
            .error (.notText file.path defect)
              ⟨disk.overwrite (changesBy substitution.newData before), left⟩ ∧
          (Fault.notText file.path defect).notice.code.name = "internal.encoding_error" := by
  have listed := Disk.filesBelowRoot_eq proper isDirectory walked
  refine ⟨?_, ?_, ?_, ?_⟩
  · intro texts substitutions
    exact passes_apply quiet ⟨proper, listed, texts⟩ substitutions memory
  · intro substitution text result
    rw [apply, String.toList_ofList]
    exact Text.replaced_iff
  · intro first second
    exact passes_append root extensions .apply onFile first second
  · intro before file after defect split texts readable broken substitution rest
    have member : file ∈ disk.candidateFiles extensions root := by
      rw [split]
      exact List.mem_append_right before List.mem_cons_self
    have got := (Disk.finds_candidateFiles proper extensions root).read_eq member readable
    have failed := Disk.readText_of_decode_error got broken
    obtain ⟨left, ended⟩ := pass_apply_of_unread substitution quiet proper listed split texts
      failed memory
    exact ⟨left, Action.bind_of_error ended _, rfl⟩

/-- A directory with two files that are searched and a third one that is not. -/
def threeFiles (first second : Bytes) : Disk where
  tree := .directory
    [(Utf8.encode "a.lua", .file first), (Utf8.encode "b.tml", .file second),
      (Utf8.encode "c.txt", .file (Utf8.encode "ab"))]
  workingLocation := []

theorem proper_threeFiles (first second : Bytes) : (threeFiles first second).tree.Proper := by
  have fresh : Utf8.encode "a.lua" ∉ [Utf8.encode "b.tml", Utf8.encode "c.txt"] := by decide
  rw [threeFiles]
  apply Node.Proper.cons (by decide) fresh (.file first)
  apply Node.Proper.cons (by decide) (by decide) (.file second)
  exact Node.Proper.cons (by decide) (by decide) (.file _) .empty

theorem candidateFiles_threeFiles (first second : Bytes) :
    (threeFiles first second).candidateFiles ["lua", "tml"] (.ofText ".") =
      [⟨.ofText "./a.lua", [Utf8.encode "a.lua"], first⟩,
        ⟨.ofText "./b.tml", [Utf8.encode "b.tml"], second⟩] := by
  cbv

theorem quiet_pure {μ : Type} : Quiet (fun _ => pure () : Path → Action μ Unit) :=
  fun _ world => ⟨world.memory, rfl⟩

/-- The second pass finds what the first one has left, and a broken second file ends the first
pass. -/
theorem passes_apply_effect_threeFiles :
    (∃ left,
      passes (.ofText ".") ["lua", "tml"] .apply (fun _ => pure ()) [⟨"aa", "b"⟩, ⟨"b", "c"⟩]
          ⟨threeFiles (Utf8.encode "aaa") (Utf8.encode "b"), ()⟩ =
        .ok [⟨⟨"aa", "b"⟩, [.ofText "./a.lua"], true⟩,
            ⟨⟨"b", "c"⟩, [.ofText "./a.lua", .ofText "./b.tml"], true⟩]
          ⟨threeFiles (Utf8.encode "ca") (Utf8.encode "c"), left⟩) ∧
    ∃ left,
      passes (.ofText ".") ["lua", "tml"] .apply (fun _ => pure ()) [⟨"aa", "b"⟩, ⟨"b", "c"⟩]
          ⟨threeFiles (Utf8.encode "aaa") [0xFF], ()⟩ =
        .error (.notText (.ofText "./b.tml") (.invalid 0 1))
          ⟨threeFiles (Utf8.encode "ba") [0xFF], left⟩ := by
  have isDirectory (first second : Bytes) :
      (threeFiles first second).isDirectory (.ofText ".") = true := by cbv
  have walked (first second : Bytes) :
      ((threeFiles first second).files (.ofText ".")).isOk = true := by cbv
  have effect (first second : Bytes) := passes_apply_effect ["lua", "tml"]
    (proper_threeFiles first second) (isDirectory first second) (walked first second) quiet_pure ()
  constructor
  · have texts : (threeFiles (Utf8.encode "aaa") (Utf8.encode "b")).HoldsTexts
        ((threeFiles (Utf8.encode "aaa") (Utf8.encode "b")).candidateFiles ["lua", "tml"]
          (.ofText ".")) := by
      rw [candidateFiles_threeFiles]
      simp only [Disk.HoldsTexts, List.forall_mem_cons]
      decide_cbv
    obtain ⟨left, went⟩ := (effect _ _).1 texts [⟨"aa", "b"⟩, ⟨"b", "c"⟩]
    refine ⟨left, went.trans ?_⟩
    congr 1
    · cbv
    · cbv
  · have texts : (threeFiles (Utf8.encode "aaa") [0xFF]).HoldsTexts
        [⟨.ofText "./a.lua", [Utf8.encode "a.lua"], Utf8.encode "aaa"⟩] := by
      simp only [Disk.HoldsTexts, List.forall_mem_singleton]
      decide_cbv
    obtain ⟨left, ended, -⟩ := (effect _ _).2.2.2 [_] _ [] _
      (candidateFiles_threeFiles (Utf8.encode "aaa") [0xFF]) texts (by cbv) (by cbv) ⟨"aa", "b"⟩
      [⟨"b", "c"⟩]
    exact ⟨left, ended⟩

end Substitution

end Redirect
