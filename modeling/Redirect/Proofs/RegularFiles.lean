/-
# The regular files of a tree

The files that are reached from the top of a tree through directories alone, each with its
location and what it holds, depth first in the order of names. No two of them stand at the same
location, and changing what they hold changes nothing else in the list.
-/

import Mathlib.Data.List.Nodup
import Redirect.Proofs.Overwrite

namespace Redirect

/-- The path that names lead to, one after the other, from the directory at a path. -/
def Path.joinAll (path : Path) (names : List Name) : Path :=
  names.foldl Path.join path

theorem sortByName_map {α β : Type} (entries : List (Name × α)) (f : Name → α → β) :
    sortByName (entries.map fun entry => (entry.1, f entry.1 entry.2)) =
      (sortByName entries).map fun entry => (entry.1, f entry.1 entry.2) := by
  rw [sortByName, sortByName, List.map_mergeSort]
  intro first _ second _
  rfl

theorem sortByName_perm {α : Type} (entries : List (Name × α)) :
    (sortByName entries).Perm entries :=
  List.mergeSort_perm _ _

theorem mem_sortByName {α : Type} {entries : List (Name × α)} {entry : Name × α} :
    entry ∈ sortByName entries ↔ entry ∈ entries :=
  (sortByName_perm entries).mem_iff

namespace Node

mutual

/-- The regular files at and below a node, each with its location and its data, depth first
in the order of names. -/
def regularFiles : Node → List (Location × Bytes)
  | .file data => [([], data)]
  | .link _ => []
  | .directory entries =>
    (sortByName (regularFilesOf entries)).flatMap fun entry =>
      entry.2.map fun file => (entry.1 :: file.1, file.2)

/-- The regular files at and below each of the entries of a directory. -/
def regularFilesOf : List (Name × Node) → List (Name × List (Location × Bytes))
  | [] => []
  | (name, node) :: rest => (name, regularFiles node) :: regularFilesOf rest

end

/-- The regular files at and below an entry of a directory. -/
def entryFiles (entry : Name × Node) : List (Location × Bytes) :=
  entry.2.regularFiles.map fun file => (entry.1 :: file.1, file.2)

theorem regularFilesOf_eq_map (entries : List (Name × Node)) :
    regularFilesOf entries = entries.map fun entry => (entry.1, entry.2.regularFiles) := by
  induction entries with
  | nil => rfl
  | cons entry rest ih =>
    obtain ⟨name, node⟩ := entry
    rw [regularFilesOf, ih, List.map_cons]

@[simp]
theorem regularFiles_file (data : Bytes) : (file data).regularFiles = [([], data)] := by
  rw [regularFiles]

@[simp]
theorem regularFiles_link (target : Path) : (link target).regularFiles = [] := by
  rw [regularFiles]

theorem regularFiles_directory (entries : List (Name × Node)) :
    (directory entries).regularFiles = (sortByName entries).flatMap entryFiles := by
  rw [regularFiles, regularFilesOf_eq_map,
    sortByName_map entries fun _ node => node.regularFiles, List.flatMap_map]
  rfl

/-- A file is listed with its location and its data exactly when directories alone lead to
that location, and it holds that data. -/
theorem mem_regularFiles {node : Node} (proper : node.Proper) {location : Location}
    {data : Bytes} :
    (location, data) ∈ node.regularFiles ↔ node.at? location = some (.file data) := by
  induction proper generalizing location with
  | file held =>
    rw [regularFiles_file, List.mem_singleton]
    cases location with
    | nil => simp [at?, eq_comm]
    | cons name rest => simp [at?, child?, entries]
  | link target =>
    rw [regularFiles_link]
    cases location with
    | nil => simp [at?]
    | cons name rest => simp [at?, child?, entries]
  | @directory entries distinct named below ih =>
    rw [regularFiles_directory, List.mem_flatMap]
    constructor
    · rintro ⟨⟨name, child⟩, member, listed⟩
      obtain ⟨⟨rest, held⟩, fileMember, same⟩ := List.mem_map.mp listed
      obtain ⟨rfl, rfl⟩ := Prod.mk.inj same
      rw [mem_sortByName] at member
      have found : entries.lookup name = some child :=
        (lookup_eq_some_iff_mem distinct).mpr member
      have heldBelow := (ih (name, child) member).mp fileMember
      rw [at?, child?, Node.entries, found]
      exact heldBelow
    · intro held
      cases location with
      | nil => cases held
      | cons name rest =>
        obtain ⟨child, (found : entries.lookup name = some child), childHeld⟩ :=
          Option.bind_eq_some_iff.mp held
        have member := (lookup_eq_some_iff_mem distinct).mp found
        refine ⟨(name, child), mem_sortByName.mpr member, ?_⟩
        exact List.mem_map.mpr ⟨(rest, data), (ih (name, child) member).mpr childHeld, rfl⟩

theorem location_of_mem_entryFiles {entry : Name × Node} {location : Location}
    (member : location ∈ (entryFiles entry).map Prod.fst) :
    ∃ rest, location = entry.1 :: rest := by
  obtain ⟨file, fileMember, rfl⟩ := List.mem_map.mp member
  obtain ⟨source, _, rfl⟩ := List.mem_map.mp fileMember
  exact ⟨source.1, rfl⟩

theorem map_fst_entryFiles (entry : Name × Node) :
    (entryFiles entry).map Prod.fst =
      (entry.2.regularFiles.map Prod.fst).map (entry.1 :: ·) := by
  rw [entryFiles, List.map_map, List.map_map]
  rfl

/-- No two regular files stand at the same location. -/
theorem nodup_regularFiles {node : Node} (proper : node.Proper) :
    (node.regularFiles.map Prod.fst).Nodup := by
  induction proper with
  | file data => simp
  | link target => simp
  | @directory entries distinct named below ih =>
    rw [regularFiles_directory, List.map_flatMap, List.nodup_flatMap]
    constructor
    · intro entry member
      have childNodup := ih entry (mem_sortByName.mp member)
      rw [map_fst_entryFiles]
      exact childNodup.map (List.cons_injective)
    · have sortedDistinct : ((sortByName entries).map Prod.fst).Nodup :=
        ((sortByName_perm entries).map Prod.fst).nodup_iff.mpr distinct
      rw [List.Nodup, List.pairwise_map] at sortedDistinct
      apply sortedDistinct.imp
      intro first second different location firstMember secondMember
      obtain ⟨rest, rfl⟩ := location_of_mem_entryFiles firstMember
      obtain ⟨other, same⟩ := location_of_mem_entryFiles secondMember
      exact different (List.cons.inj same).1

theorem sortByName_map_mapEntry (change : Location → Bytes → Bytes)
    (entries : List (Name × Node)) :
    sortByName (entries.map (mapEntry change)) = (sortByName entries).map (mapEntry change) :=
  sortByName_map entries fun name node => node.mapFiles fun location => change (name :: location)

/-- Changing what files hold changes the list of files in its data alone. -/
theorem regularFiles_mapFiles {node : Node} (proper : node.Proper)
    (change : Location → Bytes → Bytes) :
    (node.mapFiles change).regularFiles =
      node.regularFiles.map fun file => (file.1, change file.1 file.2) := by
  induction proper generalizing change with
  | file data => simp
  | link target => simp
  | @directory entries distinct named below ih =>
    rw [mapFiles_directory, regularFiles_directory, regularFiles_directory,
      sortByName_map_mapEntry, List.flatMap_map, List.map_flatMap]
    apply List.flatMap_congr
    intro entry member
    rw [entryFiles, entryFiles, mapEntry, ih entry (mem_sortByName.mp member), List.map_map,
      List.map_map]
    rfl

end Node

end Redirect
