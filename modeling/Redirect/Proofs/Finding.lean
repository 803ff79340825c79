/-
# The files that a run finds

Below a root stand regular files, each at a location of its own, and the walk names each of
them by a path. That path leads to its file or, where the system refuses it, nowhere. Files
that are still to be visited are read as they stood at first, whatever was written to the
files visited before, and a file that was read can be written.
-/

import Redirect.Action
import Redirect.Proofs.Listings

namespace Redirect

/-- A regular file below a root: the path that names it there, where it stands in the tree,
and what it holds. -/
structure FoundFile where
  path : Path
  location : Location
  data : Bytes
  deriving DecidableEq, Repr

namespace Disk

/-- The regular files below a root, depth first in the order of names. They are reached from
the directory that the root leads to through directories alone. -/
def regularFiles (disk : Disk) (root : Path) : List FoundFile :=
  match disk.resolve .reading root with
  | .ok (.directory location entries) =>
    (Node.directory entries).regularFiles.map fun file =>
      ⟨root.joinAll file.1, location ++ file.1, file.2⟩
  | _ => []

/-- Paths of some files lead to these files, if anywhere, and the files are different ones. -/
structure Finds (disk : Disk) (files : List FoundFile) : Prop where
  leads : ∀ file ∈ files, ∀ place, disk.resolve .reading file.path = .ok place →
    place = .file file.location file.data
  apart : (files.map FoundFile.location).Nodup

theorem regularFiles_eq {disk : Disk} {root : Path} {location : Location}
    {entries : List (Name × Node)}
    (led : disk.resolve .reading root = .ok (.directory location entries)) :
    disk.regularFiles root = (Node.directory entries).regularFiles.map fun file =>
      ⟨root.joinAll file.1, location ++ file.1, file.2⟩ := by
  rw [regularFiles, led]

/-- A walk names the regular files below the root, in their order. -/
theorem eq_map_path_of_walk {disk : Disk} (proper : disk.tree.Proper) {root : Path}
    {paths : List Path} (walked : disk.walk root = .ok paths) :
    paths = (disk.regularFiles root).map FoundFile.path := by
  obtain ⟨location, entries, led⟩ := exists_of_walk walked
  rw [eq_regularFiles_of_walk proper led walked, regularFiles_eq led, List.map_map]
  rfl

theorem walk_of_files {disk : Disk} {root : Path} {paths : List Path}
    (found : disk.files root = .ok paths) : disk.walk root = .ok paths := by
  rw [files] at found
  split at found
  · cases found
  · cases found
    assumption

/-- A run visits the files that a walk finds. -/
theorem walk_of_filesBelowRoot {disk : Disk} {root : Path} {paths : List Path}
    (listed : disk.filesBelowRoot root = .ok paths) : disk.walk root = .ok paths := by
  rw [filesBelowRoot] at listed
  split at listed
  · exact walk_of_files listed
  · cases listed

/-- A run that can walk its root visits the regular files below it. -/
theorem filesBelowRoot_eq {disk : Disk} (proper : disk.tree.Proper) {root : Path}
    (isDirectory : disk.isDirectory root = true) (walked : (disk.files root).isOk) :
    disk.filesBelowRoot root = .ok ((disk.regularFiles root).map FoundFile.path) := by
  rw [filesBelowRoot, if_pos isDirectory]
  cases found : disk.files root with
  | error fault =>
    rw [found] at walked
    cases walked
  | ok paths => rw [eq_map_path_of_walk proper (walk_of_files found)]

/-- A run visits the regular files below its root. -/
theorem eq_map_path_of_filesBelowRoot {disk : Disk} (proper : disk.tree.Proper) {root : Path}
    {paths : List Path} (listed : disk.filesBelowRoot root = .ok paths) :
    paths = (disk.regularFiles root).map FoundFile.path :=
  eq_map_path_of_walk proper (walk_of_filesBelowRoot listed)

theorem standing_of_mem_regularFiles {disk : Disk} (proper : disk.tree.Proper) {root : Path}
    {location : Location} {entries : List (Name × Node)}
    (led : disk.resolve .reading root = .ok (.directory location entries))
    {file : Location × Bytes} (member : file ∈ (Node.directory entries).regularFiles) :
    disk.tree.at? (location ++ file.1) = some (.file file.2) := by
  have standing : disk.tree.at? location = some (.directory entries) := stands_of_resolve led
  rw [Node.at?_append, standing]
  exact (Node.mem_regularFiles (proper.at? standing)).mp member

/-- The paths of the regular files below a root lead to these files, and no file is named
twice. -/
theorem finds_regularFiles {disk : Disk} (proper : disk.tree.Proper) (root : Path) :
    disk.Finds (disk.regularFiles root) := by
  cases led : disk.resolve .reading root with
  | error error =>
    rw [regularFiles, led]
    exact ⟨by simp, by simp⟩
  | ok place =>
    cases place with
    | file location data =>
      rw [regularFiles, led]
      exact ⟨by simp, by simp⟩
    | vacant location =>
      rw [regularFiles, led]
      exact ⟨by simp, by simp⟩
    | directory location entries =>
      have standing : disk.tree.at? location = some (.directory entries) :=
        stands_of_resolve led
      have directoryProper := proper.at? standing
      rw [regularFiles_eq led]
      constructor
      · intro file member place fileLed
        obtain ⟨source, sourceMember, rfl⟩ := List.mem_map.mp member
        have held := (Node.mem_regularFiles directoryProper).mp sourceMember
        refine place_of_resolve_joinAll led (directoryProper.isEntryName_of_at? held) ?_
          (standing_of_mem_regularFiles proper led sourceMember) fileLed
        intro nowhere
        rw [nowhere] at held
        cases held
      · have locations : ((Node.directory entries).regularFiles.map fun file =>
            (⟨root.joinAll file.1, location ++ file.1, file.2⟩ : FoundFile)).map
              FoundFile.location =
            ((Node.directory entries).regularFiles.map Prod.fst).map (location ++ ·) := by
          rw [List.map_map, List.map_map]
          rfl
        rw [locations]
        exact (Node.nodup_regularFiles directoryProper).map (List.append_right_injective location)

theorem Finds.sublist {disk : Disk} {files others : List FoundFile} (finds : disk.Finds files)
    (sub : others.Sublist files) : disk.Finds others :=
  ⟨fun file member => finds.leads file (sub.subset member), finds.apart.sublist (sub.map _)⟩

end Disk

/-! ## The same files on an overwritten disk -/

/-- The file after data was listed for locations. -/
def FoundFile.overwrite (changes : List (Location × Bytes)) (file : FoundFile) : FoundFile :=
  { file with data := (changes.lookup file.location).getD file.data }

namespace Disk

theorem isDirectory_overwrite (disk : Disk) (changes : List (Location × Bytes)) (root : Path) :
    (disk.overwrite changes).isDirectory root = disk.isDirectory root := by
  rw [isDirectory, isDirectory, entries, entries, resolve_overwrite]
  cases disk.resolve .reading root with
  | error error => rfl
  | ok place => cases place <;> rfl


/-- A run over an overwritten disk visits the same paths. -/
theorem filesBelowRoot_overwrite (disk : Disk) (changes : List (Location × Bytes))
    (root : Path) : (disk.overwrite changes).filesBelowRoot root = disk.filesBelowRoot root := by
  rw [filesBelowRoot, filesBelowRoot, isDirectory_overwrite, files, files,
    walk_congr (list_overwrite disk changes)]

/-- The regular files of an overwritten disk are the same, with the data listed for them. -/
theorem regularFiles_overwrite {disk : Disk} (proper : disk.tree.Proper)
    (changes : List (Location × Bytes)) (root : Path) :
    (disk.overwrite changes).regularFiles root =
      (disk.regularFiles root).map (FoundFile.overwrite changes) := by
  cases led : disk.resolve .reading root with
  | error error =>
    rw [regularFiles, regularFiles, resolve_overwrite, led]
    rfl
  | ok place =>
    cases place with
    | file location data =>
      rw [regularFiles, regularFiles, resolve_overwrite, led]
      rfl
    | vacant location =>
      rw [regularFiles, regularFiles, resolve_overwrite, led]
      rfl
    | directory location entries =>
      have standing : disk.tree.at? location = some (.directory entries) :=
        stands_of_resolve led
      rw [regularFiles_eq (resolve_overwrite_directory led changes), ← Node.mapFiles_directory,
        Node.regularFiles_mapFiles (proper.at? standing), regularFiles_eq led, List.map_map,
        List.map_map]
      rfl

/-! ## Files still to be visited -/

/-- Some files are still to be visited: the changes made to the disk so far have left them
alone. -/
structure Pending (disk : Disk) (changes : List (Location × Bytes)) (files : List FoundFile) :
    Prop where
  proper : disk.tree.Proper
  finds : disk.Finds files
  untouched : ∀ file ∈ files, changes.lookup file.location = none

theorem Finds.pending {disk : Disk} (proper : disk.tree.Proper) {files : List FoundFile}
    (finds : disk.Finds files) : disk.Pending [] files :=
  ⟨proper, finds, fun _ _ => rfl⟩

namespace Pending

variable {disk : Disk} {changes : List (Location × Bytes)} {file : FoundFile}
variable {rest : List FoundFile}

theorem tail (pending : disk.Pending changes (file :: rest)) : disk.Pending changes rest :=
  ⟨pending.proper, pending.finds.sublist (List.sublist_cons_self file rest),
    fun other member => pending.untouched other (List.mem_cons_of_mem _ member)⟩

/-- A pending file is read as it stood at first. -/
theorem readText_eq (pending : disk.Pending changes (file :: rest)) :
    (disk.overwrite changes).readText file.path = disk.readText file.path := by
  rw [readText, readText, read_overwrite]
  intro location data led
  have place := pending.finds.leads file List.mem_cons_self _ led
  cases place
  exact pending.untouched file List.mem_cons_self

/-- A pending file that was read holds the data that the walk has found. -/
theorem resolve_eq_of_readText (pending : disk.Pending changes (file :: rest)) {text : String}
    (held : disk.readText file.path = .ok text) :
    disk.resolve .reading file.path = .ok (.file file.location file.data) := by
  rw [readText] at held
  cases got : disk.read file.path with
  | error error =>
    rw [got] at held
    cases held
  | ok data =>
    obtain ⟨location, led⟩ := resolve_of_read got
    rw [led, pending.finds.leads file List.mem_cons_self _ led]

/-- Writing a pending file that was read is one more change, and leaves the others alone. -/
theorem writeText_eq (pending : disk.Pending changes (file :: rest)) {text : String}
    (held : disk.readText file.path = .ok text) (new : String) :
    (disk.overwrite changes).writeText file.path new =
        .ok (disk.overwrite (changes ++ [(file.location, Utf8.encode new)])) ∧
      disk.Pending (changes ++ [(file.location, Utf8.encode new)]) rest := by
  have led := pending.resolve_eq_of_readText held
  have fresh := pending.untouched file List.mem_cons_self
  have standing : disk.tree.at? file.location = some (.file file.data) := stands_of_resolve led
  constructor
  · have ledAfter : (disk.overwrite changes).resolve .reading file.path =
        .ok (.file file.location ((changes.lookup file.location).getD file.data)) := by
      rw [resolve_overwrite, led]
      rfl
    rw [writeText, write_of_resolve ledAfter]
    have written := Node.set_overwrite pending.proper standing fresh (Utf8.encode new)
    simp only [overwrite, written]
  · refine ⟨pending.proper, pending.tail.finds, fun other member => ?_⟩
    have apart := (List.nodup_cons.mp pending.finds.apart).1
    have different : other.location ≠ file.location := by
      intro same
      exact apart (same ▸ List.mem_map_of_mem member)
    rw [List.lookup_append, pending.tail.untouched other member, Option.none_or,
      List.lookup_cons, beq_eq_false_iff_ne.mpr different]
    rfl

end Pending

end Disk

end Redirect
