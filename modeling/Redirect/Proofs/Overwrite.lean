/-
# Overwriting the files of a tree

A disk holds a tree in which the entries of each directory have different names. Changing
what the files of such a tree hold, each by its location, moves nothing: every directory
keeps its entries in their order, every link its target, and every location leads to a node
of the same kind. Writing a file that is there is such a change at its location alone.
-/

import Redirect.Disk.Basic

namespace Redirect

/-- A name that an entry of a directory can have: it is not empty, it is neither a dot nor
two dots, and no slash divides it. -/
def IsEntryName (name : Name) : Prop :=
  name ≠ [] ∧ name ≠ [dot] ∧ name ≠ [dot, dot] ∧ slash ∉ name

instance (name : Name) : Decidable (IsEntryName name) :=
  inferInstanceAs (Decidable (name ≠ [] ∧ name ≠ [dot] ∧ name ≠ [dot, dot] ∧ slash ∉ name))

/-! ## Entries by name -/

/-- Where names differ, an entry is found by its name. -/
theorem lookup_eq_some_iff_mem {α β : Type} [BEq α] [LawfulBEq α] {entries : List (α × β)}
    (distinct : (entries.map Prod.fst).Nodup) {key : α} {value : β} :
    entries.lookup key = some value ↔ (key, value) ∈ entries := by
  rw [List.lookup_eq_some_iff]
  constructor
  · rintro ⟨before, after, rfl, _⟩
    simp
  · intro member
    obtain ⟨before, after, rfl⟩ := List.append_of_mem member
    refine ⟨before, after, rfl, fun entry earlier => ?_⟩
    rw [List.map_append, List.nodup_append] at distinct
    have different := distinct.2.2 entry.1 (List.mem_map_of_mem earlier) key (by simp)
    exact bne_iff_ne.mpr different.symm

namespace Node

/-- A tree that a disk can hold: the entries of a directory have different names, and each
of these can be the name of an entry. -/
inductive Proper : Node → Prop
  | file (data : Bytes) : Proper (.file data)
  | link (target : Path) : Proper (.link target)
  | directory {entries : List (Name × Node)}
      (distinct : (entries.map Prod.fst).Nodup)
      (named : ∀ entry ∈ entries, IsEntryName entry.1)
      (below : ∀ entry ∈ entries, Proper entry.2) : Proper (.directory entries)

theorem Proper.empty : (Node.directory []).Proper :=
  .directory List.nodup_nil (List.forall_mem_nil _) (List.forall_mem_nil _)

/-- One more entry, under a name that is not taken. -/
theorem Proper.cons {name : Name} {node : Node} {rest : List (Name × Node)}
    (isName : IsEntryName name) (free : name ∉ rest.map Prod.fst) (proper : node.Proper)
    (others : (Node.directory rest).Proper) : (Node.directory ((name, node) :: rest)).Proper := by
  cases others with
  | directory distinct named below =>
    constructor
    · exact List.nodup_cons.mpr ⟨free, distinct⟩
    · exact List.forall_mem_cons.mpr ⟨isName, named⟩
    · exact List.forall_mem_cons.mpr ⟨proper, below⟩

mutual

/-- The tree in which every file holds what a function makes of its location and of what it
held before. -/
def mapFiles (change : Location → Bytes → Bytes) : Node → Node
  | .file data => .file (change [] data)
  | .link target => .link target
  | .directory entries => .directory (mapFilesOf change entries)

/-- The entries of a directory after the files at and below them were changed. -/
def mapFilesOf (change : Location → Bytes → Bytes) : List (Name × Node) → List (Name × Node)
  | [] => []
  | (name, node) :: rest =>
    (name, mapFiles (fun location => change (name :: location)) node) :: mapFilesOf change rest

end

/-- The tree in which each listed location that holds a file holds the data listed for it
first. All else stays as it is. -/
def overwrite (node : Node) (changes : List (Location × Bytes)) : Node :=
  node.mapFiles fun location data => (changes.lookup location).getD data

/-- Where names differ, an entry is replaced by going through all entries. -/
theorem setEntry_eq_map {name : Name} {entries : List (Name × Node)}
    (distinct : (entries.map Prod.fst).Nodup) (present : name ∈ entries.map Prod.fst)
    (new : Node) :
    setEntry name new entries =
      entries.map fun entry => if entry.1 = name then (name, new) else entry := by
  induction entries with
  | nil => cases present
  | cons entry rest ih =>
    obtain ⟨absent, restDistinct⟩ := List.nodup_cons.mp distinct
    by_cases same : entry.1 = name
    · have others : ∀ other ∈ rest, other.1 ≠ name := by
        intro other member equal
        exact absent (same.trans equal.symm ▸ List.mem_map_of_mem member)
      rw [setEntry, if_pos same, List.map_cons, if_pos same]
      have kept : rest.map (fun other => if other.1 = name then (name, new) else other) = rest :=
        (List.map_congr_left fun other member => if_neg (others other member)).trans
          (List.map_id' rest)
      rw [kept]
    · have later : name ∈ rest.map Prod.fst := by
        rcases List.mem_cons.mp present with equal | member
        · exact absurd equal.symm same
        · exact member
      rw [setEntry, if_neg same, List.map_cons, if_neg same, ih restDistinct later]

/-! ## Changing files moves nothing -/

/-- An entry of a directory after the files at and below it were changed. -/
def mapEntry (change : Location → Bytes → Bytes) (entry : Name × Node) : Name × Node :=
  (entry.1, entry.2.mapFiles fun location => change (entry.1 :: location))

theorem mapFilesOf_eq_map (change : Location → Bytes → Bytes) (entries : List (Name × Node)) :
    mapFilesOf change entries = entries.map (mapEntry change) := by
  induction entries with
  | nil => rfl
  | cons entry rest ih =>
    obtain ⟨name, node⟩ := entry
    rw [mapFilesOf, ih, List.map_cons, mapEntry]

@[simp]
theorem mapFiles_file (change : Location → Bytes → Bytes) (data : Bytes) :
    mapFiles change (.file data) = .file (change [] data) := by
  rw [mapFiles]

@[simp]
theorem mapFiles_link (change : Location → Bytes → Bytes) (target : Path) :
    mapFiles change (.link target) = .link target := by
  rw [mapFiles]

@[simp]
theorem mapFiles_directory (change : Location → Bytes → Bytes) (entries : List (Name × Node)) :
    mapFiles change (.directory entries) = .directory (entries.map (mapEntry change)) := by
  rw [mapFiles, mapFilesOf_eq_map]

/-- The kind of a node stays. -/
theorem kind_mapFiles (change : Location → Bytes → Bytes) (node : Node) :
    (node.mapFiles change).kind = node.kind := by
  cases node with
  | file data =>
    rw [mapFiles_file]
    rfl
  | link target => rw [mapFiles_link]
  | directory entries =>
    rw [mapFiles_directory]
    rfl

/-- The names of a directory stay. -/
theorem names_map_mapEntry (change : Location → Bytes → Bytes) (entries : List (Name × Node)) :
    (entries.map (mapEntry change)).map Prod.fst = entries.map Prod.fst := by
  rw [List.map_map]
  rfl

theorem lookup_map_mapEntry (change : Location → Bytes → Bytes) (name : Name)
    (entries : List (Name × Node)) :
    (entries.map (mapEntry change)).lookup name =
      (entries.lookup name).map (mapFiles fun location => change (name :: location)) := by
  induction entries with
  | nil => rfl
  | cons entry rest ih =>
    rw [List.map_cons, mapEntry, List.lookup_cons, List.lookup_cons, ih]
    by_cases same : name = entry.1
    · subst same
      simp
    · have different : (name == entry.1) = false := beq_eq_false_iff_ne.mpr same
      rw [different]

theorem child?_mapFiles (change : Location → Bytes → Bytes) (node : Node) (name : Name) :
    (node.mapFiles change).child? name =
      (node.child? name).map (mapFiles fun location => change (name :: location)) := by
  cases node with
  | file data => rfl
  | link target => rfl
  | directory entries =>
    rw [mapFiles_directory]
    exact lookup_map_mapEntry change name entries

/-- What stands at a location after the files were changed is what stood there, with its own
files changed. -/
theorem at?_mapFiles (change : Location → Bytes → Bytes) (node : Node) (location : Location) :
    (node.mapFiles change).at? location =
      (node.at? location).map (mapFiles fun below => change (location ++ below)) := by
  induction location generalizing node change with
  | nil => rfl
  | cons name rest ih =>
    rw [at?, at?, child?_mapFiles]
    cases node.child? name with
    | none => rfl
    | some child => exact ih _ child

/-! ## Proper trees -/

theorem Proper.mapFiles {node : Node} (proper : node.Proper)
    (change : Location → Bytes → Bytes) : (node.mapFiles change).Proper := by
  induction proper generalizing change with
  | file data =>
    rw [mapFiles_file]
    exact .file _
  | link target =>
    rw [mapFiles_link]
    exact .link target
  | @directory entries distinct named below ih =>
    rw [mapFiles_directory]
    refine .directory ?_ ?_ ?_
    · rw [names_map_mapEntry]
      exact distinct
    · intro entry member
      obtain ⟨source, sourceMember, rfl⟩ := List.mem_map.mp member
      exact named source sourceMember
    · intro entry member
      obtain ⟨source, sourceMember, rfl⟩ := List.mem_map.mp member
      exact ih source sourceMember _

theorem Proper.overwrite {node : Node} (proper : node.Proper)
    (changes : List (Location × Bytes)) : (node.overwrite changes).Proper :=
  proper.mapFiles _

theorem Proper.at? {node : Node} (proper : node.Proper) {location : Location} {found : Node}
    (held : node.at? location = some found) : found.Proper := by
  induction location generalizing node with
  | nil => exact Option.some.inj held ▸ proper
  | cons name rest ih =>
    obtain ⟨child, (entryFound : node.entries.lookup name = some child), childHeld⟩ :=
      Option.bind_eq_some_iff.mp held
    cases proper with
    | file data => cases entryFound
    | link target => cases entryFound
    | @directory entries distinct named below =>
      exact ih (below (name, child) ((lookup_eq_some_iff_mem distinct).mp entryFound)) childHeld

/-- Names that lead to a node of a proper tree are names of entries. -/
theorem Proper.isEntryName_of_at? {node : Node} (proper : node.Proper) {location : Location}
    {found : Node} (held : node.at? location = some found) :
    ∀ name ∈ location, IsEntryName name := by
  induction location generalizing node with
  | nil => simp
  | cons name rest ih =>
    cases proper with
    | file data => cases held
    | link target => cases held
    | @directory entries distinct named below =>
      obtain ⟨child, (entryFound : entries.lookup name = some child), childHeld⟩ :=
        Option.bind_eq_some_iff.mp held
      have member := (lookup_eq_some_iff_mem distinct).mp entryFound
      exact List.forall_mem_cons.mpr
        ⟨named (name, child) member, ih (below (name, child) member) childHeld⟩

/-- A change after another one is one change. -/
theorem mapFiles_mapFiles {node : Node} (proper : node.Proper)
    (first second : Location → Bytes → Bytes) :
    (node.mapFiles first).mapFiles second =
      node.mapFiles fun location data => second location (first location data) := by
  induction proper generalizing first second with
  | file data => simp only [mapFiles_file]
  | link target => simp only [mapFiles_link]
  | @directory entries distinct named below ih =>
    simp only [mapFiles_directory, List.map_map]
    congr 1
    apply List.map_congr_left
    intro entry member
    simp only [Function.comp_apply, mapEntry, ih entry member]

/-- Files that keep what they hold leave the tree as it is. -/
theorem mapFiles_id {node : Node} (proper : node.Proper) :
    node.mapFiles (fun _ data => data) = node := by
  induction proper with
  | file data => rw [mapFiles_file]
  | link target => rw [mapFiles_link]
  | @directory entries distinct named below ih =>
    have kept : entries.map (mapEntry fun _ data => data) = entries :=
      (List.map_congr_left fun entry member => by rw [mapEntry, ih entry member]).trans
        (List.map_id' entries)
    rw [mapFiles_directory, kept]

/-! ## Overwriting -/

@[simp]
theorem overwrite_nil {node : Node} (proper : node.Proper) : node.overwrite [] = node :=
  mapFiles_id proper

theorem overwrite_overwrite {node : Node} (proper : node.Proper)
    (first second : List (Location × Bytes)) :
    (node.overwrite first).overwrite second = node.overwrite (second ++ first) := by
  rw [overwrite, overwrite, mapFiles_mapFiles proper, overwrite]
  congr 1
  funext location data
  rw [List.lookup_append]
  cases second.lookup location <;> rfl

/-- A file that is overwritten stays a file. -/
theorem at?_overwrite_of_file {node : Node} {location : Location} {data : Bytes}
    (held : node.at? location = some (.file data)) (changes : List (Location × Bytes)) :
    (node.overwrite changes).at? location =
      some (.file ((changes.lookup location).getD data)) := by
  rw [overwrite, at?_mapFiles, held, Option.map_some, mapFiles_file, List.append_nil]

/-- Overwriting one location reaches into the entry that its first name names. -/
theorem mapEntry_overwrite_below (entry : Name × Node) (rest : Location) (new : Bytes) :
    mapEntry (fun location data => ([(entry.1 :: rest, new)].lookup location).getD data) entry =
      (entry.1, entry.2.overwrite [(rest, new)]) := by
  rw [mapEntry, overwrite]
  congr 2
  funext location data
  simp [List.lookup_cons]

/-- Overwriting one location leaves the entries of other names as they are. -/
theorem mapEntry_overwrite_beside {entry : Name × Node} (proper : entry.2.Proper) {name : Name}
    (other : entry.1 ≠ name) (rest : Location) (new : Bytes) :
    mapEntry (fun location data => ([(name :: rest, new)].lookup location).getD data) entry =
      entry := by
  have untouched : (fun location data =>
      ([(name :: rest, new)].lookup (entry.1 :: location)).getD data) = fun _ data => data := by
    funext location data
    have different : (entry.1 == name) = false := beq_eq_false_iff_ne.mpr other
    simp [List.lookup_cons, different]
  rw [mapEntry, untouched, mapFiles_id proper]

/-- Writing a file that is there overwrites it and nothing else. -/
theorem set_eq_overwrite {node : Node} (proper : node.Proper) {location : Location}
    {old : Bytes} (held : node.at? location = some (.file old)) (new : Bytes) :
    node.set location (.file new) = node.overwrite [(location, new)] := by
  induction location generalizing node with
  | nil =>
    obtain rfl : node = .file old := Option.some.inj held
    rw [set, overwrite, mapFiles_file]
    rfl
  | cons name rest ih =>
    cases proper with
    | file data => cases held
    | link target => cases held
    | @directory entries distinct named below =>
      obtain ⟨child, (found : entries.lookup name = some child), childHeld⟩ :=
        Option.bind_eq_some_iff.mp held
      have member := (lookup_eq_some_iff_mem distinct).mp found
      have present : name ∈ entries.map Prod.fst := List.mem_map_of_mem member
      rw [set, overwrite, mapFiles_directory, setEntry_eq_map distinct present, found]
      congr 1
      apply List.map_congr_left
      intro entry entryMember
      by_cases same : entry.1 = name
      · subst same
        have entryIsChild : entry.2 = child :=
          Option.some.inj (((lookup_eq_some_iff_mem distinct).mpr entryMember).symm.trans found)
        rw [if_pos rfl, mapEntry_overwrite_below, entryIsChild, Option.getD_some,
          ih (entryIsChild ▸ below entry entryMember) childHeld]
      · rw [if_neg same, mapEntry_overwrite_beside (below entry entryMember) same]

/-- Writing a file that was not overwritten before overwrites one more file. -/
theorem set_overwrite {node : Node} (proper : node.Proper) {location : Location} {data : Bytes}
    (held : node.at? location = some (.file data)) {changes : List (Location × Bytes)}
    (fresh : changes.lookup location = none) (new : Bytes) :
    (node.overwrite changes).set location (.file new) =
      node.overwrite (changes ++ [(location, new)]) := by
  rw [set_eq_overwrite (proper.overwrite changes) (at?_overwrite_of_file held changes),
    overwrite_overwrite proper, overwrite, overwrite]
  congr 1
  funext there old
  rw [List.lookup_append, List.lookup_append]
  by_cases same : there = location
  · subst same
    rw [fresh, List.lookup_cons_self, Option.none_or, Option.some_or]
  · have different : (there == location) = false := beq_eq_false_iff_ne.mpr same
    simp [List.lookup_cons, different]

end Node

end Redirect
