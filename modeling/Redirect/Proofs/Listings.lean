/-
# Walks through listings

What a walk knows of a disk it has from listings: it lists its root and every directory that a
listing names, so two disks with the same listings have the same walks. It is bounded only by the
length of a path that can be listed, and that bound never shows, because the name of each
directory on the way makes the path longer. A listing of a path names the entries of the
directory that the path leads to, and below that directory each of the paths leads to the entry
that it was listed for. So what a walk finds are the regular files there.
-/

import Redirect.Proofs.PathsBelow

namespace Redirect

namespace Disk

/-! ## Results in a row -/

/-- Results that are gathered are the parts in a row, when each part is known. -/
theorem eq_flatMap_of_gather {ε α β : Type} {found : α → Except ε (List β)}
    {expected : α → List β} {items : List α} {results : List β}
    (known : ∀ item ∈ items, ∀ part, found item = .ok part → part = expected item)
    (gathered : gather (items.map found) = .ok results) :
    results = items.flatMap expected := by
  induction items generalizing results with
  | nil => exact (Except.ok.inj gathered).symm
  | cons item rest ih =>
    rw [List.map_cons, gather] at gathered
    cases first : found item with
    | error failure =>
      rw [first] at gathered
      cases gathered
    | ok part =>
      rw [first] at gathered
      cases others : gather (rest.map found) with
      | error failure =>
        rw [others] at gathered
        cases gathered
      | ok remaining =>
        rw [others] at gathered
        have joined : part ++ remaining = results := Except.ok.inj gathered
        rw [List.flatMap_cons, ← joined, known item List.mem_cons_self part first,
          ih (fun other member => known other (List.mem_cons_of_mem _ member)) others]

/-- Results can be gathered when there is no error among them. -/
theorem isOk_gather {ε α β : Type} {found : α → Except ε (List β)} {items : List α}
    (known : ∀ item ∈ items, (found item).isOk) : (gather (items.map found)).isOk := by
  induction items with
  | nil => rfl
  | cons item rest ih =>
    obtain ⟨here, later⟩ := List.forall_mem_cons.mp known
    rw [List.map_cons, gather]
    cases first : found item with
    | error failure =>
      rw [first] at here
      cases here
    | ok part =>
      cases others : gather (rest.map found) with
      | error failure =>
        have gathered := ih later
        rw [others] at gathered
        cases gathered
      | ok remaining => rfl

/-! ## What is listed -/

section Listed

variable {disk : Disk} {path : Path}

theorem entries_eq_ok {found : List (Name × Node)} (held : disk.entries path = .ok found) :
    ∃ location, disk.resolve .reading path = .ok (.directory location found) := by
  rw [entries] at held
  cases led : disk.resolve .reading path with
  | error error =>
    rw [led] at held
    cases held
  | ok place =>
    rw [led] at held
    cases place with
    | file location data => cases held
    | directory location entries =>
      cases held
      exact ⟨location, rfl⟩
    | vacant location => cases held

/-- Where a path leads to a directory, the entries of that directory are listed. -/
theorem list_of_resolve {location : Location} {entries : List (Name × Node)}
    (led : disk.resolve .reading path = .ok (.directory location entries)) :
    disk.list path =
      .ok ((sortByName entries).map fun entry => (path.join entry.1, entry.2.kind)) := by
  rw [list, Disk.entries, led]
  rfl

/-- Only what a path leads to is listed, and only when it is a directory. -/
theorem exists_of_list {found : List (Path × Kind)} (listed : disk.list path = .ok found) :
    ∃ location entries, disk.resolve .reading path = .ok (.directory location entries) := by
  cases held : disk.entries path with
  | error error =>
    rw [list, held] at listed
    cases listed
  | ok entries =>
    obtain ⟨location, led⟩ := entries_eq_ok held
    exact ⟨location, entries, led⟩

/-- A path that is listed is no longer than the longest path. -/
theorem length_le_of_list {found : List (Path × Kind)} (listed : disk.list path = .ok found) :
    path.bytes.length ≤ longestPath := by
  obtain ⟨location, entries, led⟩ := exists_of_list listed
  have taken := checkPath_of_resolve led
  rw [checkPath] at taken
  split_ifs at taken with zero unspelled long
  exact Nat.not_lt.mp long

theorem length_lt_length_join (path : Path) {name : Name} (named : IsEntryName name) :
    path.bytes.length < (path.join name).bytes.length := by
  obtain ⟨between, joined⟩ := Path.bytes_join path name
  have nonempty := List.length_pos_iff.mpr named.1
  rw [joined, List.length_append, List.length_append]
  omega

/-- The paths in a listing are longer than the path that is listed. -/
theorem length_lt_of_mem_list (proper : disk.tree.Proper) {found : List (Path × Kind)}
    (listed : disk.list path = .ok found) {entry : Path × Kind} (member : entry ∈ found) :
    path.bytes.length < entry.1.bytes.length := by
  obtain ⟨location, entries, led⟩ := exists_of_list listed
  have standing : disk.tree.at? location = some (.directory entries) := stands_of_resolve led
  rw [list_of_resolve led] at listed
  obtain rfl := Except.ok.inj listed
  obtain ⟨source, sourceMember, rfl⟩ := List.mem_map.mp member
  cases proper.at? standing with
  | directory distinct named below =>
    exact length_lt_length_join path (named source (mem_sortByName.mp sourceMember))

end Listed

/-! ## The bound never shows -/

theorem walkWithin_succ (disk : Disk) (depth : Nat) (path : Path) :
    disk.walkWithin (depth + 1) path = disk.walkThrough (disk.walkWithin depth) path := rfl

/-- A walk goes on only where the listing says so. -/
theorem walkThrough_congr {disk : Disk} {enter other : Path → Except WalkError (List Path)}
    {path : Path}
    (same : ∀ found, disk.list path = .ok found →
      ∀ next, (next, Kind.directory) ∈ found → enter next = other next) :
    disk.walkThrough enter path = disk.walkThrough other path := by
  rw [walkThrough, walkThrough]
  cases listed : disk.list path with
  | error error => rfl
  | ok found =>
    simp only
    congr 1
    apply List.map_congr_left
    rintro ⟨next, kind⟩ member
    cases kind with
    | file => rfl
    | link => rfl
    | directory => exact same found listed next member

/-- Two bounds that leave room for the longest path make the same walk. -/
theorem walkWithin_congr_depth {disk : Disk} (proper : disk.tree.Proper) {depth other : Nat}
    {path : Path} (enough : longestPath < path.bytes.length + depth)
    (enoughToo : longestPath < path.bytes.length + other) :
    disk.walkWithin (depth + 1) path = disk.walkWithin (other + 1) path := by
  induction depth generalizing path other with
  | zero =>
    rw [walkWithin_succ, walkWithin_succ]
    apply walkThrough_congr
    intro found listed
    exact absurd (length_le_of_list listed) (Nat.not_le.mpr enough)
  | succ depth ih =>
    rw [walkWithin_succ, walkWithin_succ]
    apply walkThrough_congr
    intro found listed next member
    have short := length_le_of_list listed
    have longer : path.bytes.length < next.bytes.length :=
      length_lt_of_mem_list proper listed member
    obtain ⟨fewer, rfl⟩ : ∃ fewer, other = fewer + 1 := Nat.exists_eq_add_one.mpr (by omega)
    exact ih (by omega) (by omega)

/-- A walk lists its root and walks every directory that the listing names. -/
theorem walk_eq_walkThrough {disk : Disk} (proper : disk.tree.Proper) (root : Path) :
    disk.walk root = disk.walkThrough disk.walk root := by
  cases listed : disk.list root with
  | error error => rw [walk, walkWithin_succ, walkThrough, walkThrough, listed]
  | ok found =>
    obtain ⟨location, entries, led⟩ := exists_of_list listed
    have spelled := List.length_pos_iff.mpr (bytes_ne_nil_of_resolve led)
    exact walkWithin_congr_depth proper (by omega) (by omega)

theorem exists_of_walk {disk : Disk} {root : Path} {paths : List Path}
    (walked : disk.walk root = .ok paths) :
    ∃ location entries, disk.resolve .reading root = .ok (.directory location entries) := by
  rw [walk, walkWithin_succ, walkThrough] at walked
  cases listed : disk.list root with
  | error error =>
    rw [listed] at walked
    cases walked
  | ok found => exact exists_of_list listed

/-- A directory is walked entry by entry, in the order of names. -/
theorem walk_of_resolve {disk : Disk} (proper : disk.tree.Proper) {path : Path}
    {location : Location} {entries : List (Name × Node)}
    (led : disk.resolve .reading path = .ok (.directory location entries)) :
    disk.walk path =
      gather ((sortByName entries).map fun entry =>
        filesAt disk.walk (path.join entry.1, entry.2.kind)) := by
  rw [walk_eq_walkThrough proper, walkThrough, list_of_resolve led]
  simp only [List.map_map]
  rfl

/-! ## Walks over equal listings -/

theorem walkWithin_congr {disk other : Disk} (same : ∀ path, other.list path = disk.list path)
    (depth : Nat) : other.walkWithin depth = disk.walkWithin depth := by
  induction depth with
  | zero => rfl
  | succ depth ih =>
    funext path
    rw [walkWithin_succ, walkWithin_succ, ih, walkThrough, walkThrough, same]

/-- Disks with the same listings have the same walks. -/
theorem walk_congr {disk other : Disk} (same : ∀ path, other.list path = disk.list path)
    (root : Path) : other.walk root = disk.walk root :=
  congrFun (walkWithin_congr same _) root

/-- What files hold is not listed. -/
theorem list_overwrite (disk : Disk) (changes : List (Location × Bytes)) (path : Path) :
    (disk.overwrite changes).list path = disk.list path := by
  cases led : disk.resolve .reading path with
  | error error =>
    rw [list, list, entries, entries, resolve_overwrite, led]
    rfl
  | ok place =>
    cases place with
    | file location data =>
      rw [list, list, entries, entries, resolve_overwrite, led]
      rfl
    | vacant location =>
      rw [list, list, entries, entries, resolve_overwrite, led]
      rfl
    | directory location entries =>
      rw [list_of_resolve led, list_of_resolve (resolve_overwrite_directory led changes),
        Node.sortByName_map_mapEntry, List.map_map]
      congr 1
      apply List.map_congr_left
      intro entry member
      rw [Function.comp_apply, Node.mapEntry, Node.kind_mapFiles]

/-! ## What a walk finds -/

/-- A path in the listing of a directory leads to the entry that it was listed for, unless that
is a link. -/
theorem place_of_join {disk : Disk} (proper : disk.tree.Proper) {path : Path}
    {location : Location} {entries : List (Name × Node)}
    (led : disk.resolve .reading path = .ok (.directory location entries))
    {entry : Name × Node} (member : entry ∈ entries) {place : Place}
    (ledBelow : disk.resolve .reading (path.join entry.1) = .ok place) :
    place.IsAt (location ++ [entry.1]) entry.2 := by
  have standing : disk.tree.at? location = some (.directory entries) := stands_of_resolve led
  cases proper.at? standing with
  | directory distinct named below =>
    have held : disk.tree.at? (location ++ [entry.1]) = some entry.2 := by
      rw [Node.at?_entry standing, lookup_eq_some_iff_mem distinct]
      exact member
    exact place_of_resolve_joinAll led (List.forall_mem_singleton.mpr (named entry member))
      (List.cons_ne_nil _ _) held ledBelow

theorem isAt_of_resolve {disk : Disk} {path : Path} {location : Location}
    {entries : List (Name × Node)}
    (led : disk.resolve .reading path = .ok (.directory location entries)) :
    ∀ place, disk.resolve .reading path = .ok place →
      place.IsAt location (.directory entries) :=
  fun _ ledToo => Except.ok.inj (ledToo.symm.trans led)

/-- A walk that ends well has found exactly the regular files, in their order. -/
theorem eq_regularFiles_of_filesAt {disk : Disk} (proper : disk.tree.Proper) {node : Node}
    (properHere : node.Proper) {path : Path} {location : Location}
    (leads : ∀ place, disk.resolve .reading path = .ok place → place.IsAt location node)
    {paths : List Path} (walked : filesAt disk.walk (path, node.kind) = .ok paths) :
    paths = node.regularFiles.map fun file => path.joinAll file.1 := by
  induction properHere generalizing path location paths with
  | file data =>
    rw [Node.regularFiles_file]
    exact (Except.ok.inj walked).symm
  | link target =>
    rw [Node.regularFiles_link]
    exact (Except.ok.inj walked).symm
  | @directory entries distinct named below ih =>
    change disk.walk path = .ok paths at walked
    obtain ⟨there, others, led⟩ := exists_of_walk walked
    cases leads _ led
    rw [walk_of_resolve proper led] at walked
    rw [Node.regularFiles_directory, List.map_flatMap]
    apply eq_flatMap_of_gather _ walked
    intro entry member part partFound
    rw [mem_sortByName] at member
    rw [ih entry member (fun _ => place_of_join proper led member) partFound, Node.entryFiles,
      List.map_map]
    rfl

/-- A walk names the regular files below the directory that its root leads to, in their order. -/
theorem eq_regularFiles_of_walk {disk : Disk} (proper : disk.tree.Proper) {root : Path}
    {location : Location} {entries : List (Name × Node)}
    (led : disk.resolve .reading root = .ok (.directory location entries))
    {paths : List Path} (walked : disk.walk root = .ok paths) :
    paths = (Node.directory entries).regularFiles.map fun file => root.joinAll file.1 := by
  have standing : disk.tree.at? location = some (.directory entries) := stands_of_resolve led
  exact eq_regularFiles_of_filesAt proper (proper.at? standing) (isAt_of_resolve led) walked

end Disk

end Redirect
