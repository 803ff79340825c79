/-
# The order of a walk

A listing sorts a directory by itself, and a walk goes into a directory where its name stands
among the names of the files beside it. All the same the files that it finds are in order as a
whole, name by name: what is in the directory `a` comes before `a-b` and before `a.lua`, although a
slash comes after a hyphen and after a dot. The files that are reached through directories alone
are found, each once, and nothing else is. Names that stand in order make one list, so neither a
listing nor a walk can tell in which order a disk keeps the entries of its directories.
-/

import Mathlib
import Redirect.Proofs.Finding

namespace Redirect

/-! ## The order of names -/

theorem precedes_iff_lt (first second : Name) :
    Text.precedes UInt8.toNat first second = true ↔ first < second := by
  induction first generalizing second with
  | nil => cases second <;> simp [Text.precedes]
  | cons a first ih =>
    cases second with
    | nil => simp [Text.precedes]
    | cons b second =>
      rw [Text.precedes, List.cons_lt_cons_iff, ← ih, Bool.or_eq_true, Bool.and_eq_true,
        decide_eq_true_iff, beq_iff_eq, UInt8.toNat_inj]
      rfl

/-- Entries with different names are sorted strictly. -/
theorem ascending_sortByName {α : Type} {entries : List (Name × α)}
    (distinct : (entries.map Prod.fst).Nodup) :
    (sortByName entries).Pairwise fun first second => first.1 < second.1 := by
  have atMost (first second : Name × α) :
      (!Text.precedes UInt8.toNat second.1 first.1) = true ↔ first.1 ≤ second.1 := by
    rw [Bool.not_eq_true', ← Bool.not_eq_true, precedes_iff_lt, List.not_lt]
  have sorted : (sortByName entries).Pairwise fun first second => first.1 ≤ second.1 := by
    simp only [← atMost]
    apply List.pairwise_mergeSort
    · intro first second third
      rw [atMost, atMost, atMost]
      exact Std.le_trans
    · intro first second
      rw [Bool.or_eq_true, atMost, atMost]
      exact List.le_total _ _
  have apart : ((sortByName entries).map Prod.fst).Nodup :=
    ((sortByName_perm entries).map Prod.fst).nodup_iff.mpr distinct
  rw [List.Nodup, List.pairwise_map] at apart
  exact sorted.imp₂ (fun _ _ less different => Std.lt_of_le_of_ne less different) apart

namespace Node

/-- A node is reached from another one by names of entries, through directories alone. -/
inductive Reaches : Node → Location → Node → Prop
  | here {node : Node} : Reaches node [] node
  | through {entries : List (Name × Node)} {name : Name} {child node : Node} {rest : Location}
      (entry : (name, child) ∈ entries) (reaches : Reaches child rest node) :
      Reaches (.directory entries) (name :: rest) node

theorem reaches_iff {node : Node} (proper : node.Proper) (location : Location) (found : Node) :
    node.Reaches location found ↔ node.at? location = some found := by
  induction location generalizing node with
  | nil =>
    rw [at?, Option.some_inj]
    constructor
    · rintro ⟨⟩
      rfl
    · rintro rfl
      exact .here
  | cons name rest ih =>
    rw [at?, Option.bind_eq_some_iff]
    constructor
    · intro reaches
      cases reaches with
      | @through entries _ child _ _ entry reaches =>
        cases proper with
        | directory distinct named below =>
          exact ⟨child, (lookup_eq_some_iff_mem distinct).mpr entry,
            (ih (below _ entry)).mp reaches⟩
    · rintro ⟨child, held, heldBelow⟩
      cases proper with
      | file data => cases held
      | link target => cases held
      | directory distinct named below =>
        have entry := (lookup_eq_some_iff_mem distinct).mp held
        exact .through entry ((ih (below _ entry)).mpr heldBelow)

theorem mem_locations {node : Node} (proper : node.Proper) (location : Location) :
    location ∈ node.regularFiles.map Prod.fst ↔
      ∃ data, node.at? location = some (.file data) := by
  rw [List.mem_map]
  constructor
  · rintro ⟨⟨_, data⟩, member, rfl⟩
    exact ⟨data, (mem_regularFiles proper).mp member⟩
  · rintro ⟨data, held⟩
    exact ⟨(location, data), (mem_regularFiles proper).mpr held, rfl⟩

/-- The regular files are listed in the order of their locations. -/
theorem ascending_regularFiles {node : Node} (proper : node.Proper) :
    (node.regularFiles.map Prod.fst).Pairwise (· < ·) := by
  induction proper with
  | file data => simp
  | link target => simp
  | @directory entries distinct named below ih =>
    rw [regularFiles_directory, List.map_flatMap, List.pairwise_flatMap]
    constructor
    · intro entry member
      rw [map_fst_entryFiles, List.pairwise_map]
      exact (ih entry (mem_sortByName.mp member)).imp fun less =>
        List.cons_lt_cons_iff.mpr (.inr ⟨rfl, less⟩)
    · refine (ascending_sortByName distinct).imp fun less location member other memberToo => ?_
      obtain ⟨rest, rfl⟩ := location_of_mem_entryFiles member
      obtain ⟨others, rfl⟩ := location_of_mem_entryFiles memberToo
      exact List.cons_lt_cons_iff.mpr (.inl less)

end Node

namespace Disk

/-! ## Walks that end well -/

/-- A walk ends well when each directory that it comes to is listed. -/
theorem isOk_filesAt {disk : Disk} (proper : disk.tree.Proper) {node : Node}
    (properHere : node.Proper) {path : Path} {location : Location}
    (leads : ∀ place, disk.resolve .reading path = .ok place → place.IsAt location node)
    (listed : ∀ names inner, node.Reaches names (.directory inner) →
      (disk.list (path.joinAll names)).isOk) :
    (filesAt disk.walk (path, node.kind)).isOk := by
  induction properHere generalizing path location with
  | file data => rfl
  | link target => rfl
  | @directory entries distinct named below ih =>
    have here : (disk.list path).isOk := listed [] entries .here
    change (disk.walk path).isOk
    cases listedHere : disk.list path with
    | error error =>
      rw [listedHere] at here
      cases here
    | ok found =>
      obtain ⟨there, others, led⟩ := exists_of_list listedHere
      cases leads _ led
      rw [walk_of_resolve proper led]
      apply isOk_gather
      intro entry member
      rw [mem_sortByName] at member
      have later : ∀ names inner, entry.2.Reaches names (.directory inner) →
          (disk.list ((path.join entry.1).joinAll names)).isOk :=
        fun names inner reaches => listed (entry.1 :: names) inner (.through member reaches)
      exact ih entry member (fun _ => place_of_join proper led member) later

/-- A walk finds the regular files below the directory that its root leads to. -/
theorem walk_eq {disk : Disk} (proper : disk.tree.Proper) {root : Path} {location : Location}
    {entries : List (Name × Node)}
    (led : disk.resolve .reading root = .ok (.directory location entries))
    (listed : ∀ names inner, (Node.directory entries).Reaches names (.directory inner) →
      (disk.list (root.joinAll names)).isOk) :
    disk.walk root =
      .ok (((Node.directory entries).regularFiles.map Prod.fst).map root.joinAll) := by
  have standing : disk.tree.at? location = some (.directory entries) := stands_of_resolve led
  have ends : (disk.walk root).isOk :=
    isOk_filesAt proper (proper.at? standing) (isAt_of_resolve led) listed
  cases walked : disk.walk root with
  | error failure =>
    rw [walked] at ends
    cases ends
  | ok paths =>
    rw [eq_regularFiles_of_walk proper led walked, List.map_map]
    rfl

/-- No two paths of regular files below a root are equivalent. -/
theorem apart_regularFiles {root : Path} (spelled : root.bytes ≠ [])
    {node : Node} (proper : node.Proper) :
    ((node.regularFiles.map Prod.fst).map root.joinAll).Pairwise
      fun first second => first.equivalent second = false := by
  apply Path.apart_joinAll spelled _ (Node.nodup_regularFiles proper)
  intro names member
  obtain ⟨data, held⟩ := (Node.mem_locations proper names).mp member
  exact proper.isEntryName_of_at? held

/-- The files that a walk finds are in the order of their locations, and no two of their paths are
equivalent. -/
theorem ascending_of_walk {disk : Disk} (proper : disk.tree.Proper) {root : Path}
    {paths : List Path} (walked : disk.walk root = .ok paths) :
    ∃ found : List Location, paths = found.map root.joinAll ∧ found.Pairwise (· < ·) ∧
      paths.Pairwise fun first second => first.equivalent second = false := by
  obtain ⟨location, entries, led⟩ := exists_of_walk walked
  have standing : disk.tree.at? location = some (.directory entries) := stands_of_resolve led
  have properHere := proper.at? standing
  have spelled : paths =
      ((Node.directory entries).regularFiles.map Prod.fst).map root.joinAll := by
    rw [eq_regularFiles_of_walk proper led walked, List.map_map]
    rfl
  subst spelled
  exact ⟨_, rfl, Node.ascending_regularFiles properHere,
    apart_regularFiles (bytes_ne_nil_of_resolve led) properHere⟩

/-! ## What a listing says -/

/-- A listing of a path names everything that stands right below the place that the path leads to,
each with its kind and with the path that its name is joined to, strictly in the order of names. -/
theorem list_spec {disk : Disk} (proper : disk.tree.Proper) {path : Path} {location : Location}
    {entries : List (Name × Node)}
    (led : disk.resolve .reading path = .ok (.directory location entries)) :
    ∃ named : List (Name × Kind),
      disk.list path = .ok (named.map fun entry => (path.join entry.1, entry.2)) ∧
      (∀ name kind, (name, kind) ∈ named ↔
        (disk.tree.at? (location ++ [name])).map Node.kind = some kind) ∧
      named.Pairwise fun first second => first.1 < second.1 := by
  have standing : disk.tree.at? location = some (.directory entries) := stands_of_resolve led
  cases proper.at? standing with
  | directory distinct isName below =>
    refine ⟨(sortByName entries).map fun entry => (entry.1, entry.2.kind), ?_, ?_, ?_⟩
    · rw [list_of_resolve led, List.map_map]
      rfl
    · intro name kind
      rw [Node.at?_entry standing, Option.map_eq_some_iff, List.mem_map]
      constructor
      · rintro ⟨⟨_, node⟩, member, same⟩
        obtain ⟨rfl, rfl⟩ := Prod.mk.inj same
        exact ⟨node, (lookup_eq_some_iff_mem distinct).mpr (mem_sortByName.mp member), rfl⟩
      · rintro ⟨node, held, rfl⟩
        exact ⟨(name, node), mem_sortByName.mpr ((lookup_eq_some_iff_mem distinct).mp held), rfl⟩
    · rw [List.pairwise_map]
      exact ascending_sortByName distinct

end Disk

/-! ## Entries in another order -/

namespace Node

/-- What a node is, and what it holds unless it is a directory. -/
def outline : Node → Node
  | .directory _ => .empty
  | other => other

/-- Two trees have the same nodes, whatever the order of the entries of their directories. -/
def SameNodes (first second : Node) : Prop :=
  ∀ location, (first.at? location).map outline = (second.at? location).map outline

variable {first second : Node}

/-- At a location of trees with the same nodes stand two directories, or there is no difference. -/
theorem SameNodes.cases (same : first.SameNodes second) (location : Location) :
    (∃ entries others, first.at? location = some (.directory entries) ∧
        second.at? location = some (.directory others)) ∨
      first.at? location = second.at? location := by
  have outlined := same location
  cases held : first.at? location with
  | none =>
    rw [held, Option.map_none, eq_comm, Option.map_eq_none_iff] at outlined
    exact .inr outlined.symm
  | some node =>
    rw [held, Option.map_some, eq_comm, Option.map_eq_some_iff] at outlined
    obtain ⟨other, heldToo, alike⟩ := outlined
    rw [heldToo]
    cases node with
    | file data =>
      cases other <;> cases alike
      exact .inr rfl
    | link target =>
      cases other <;> cases alike
      exact .inr rfl
    | directory entries =>
      cases other with
      | file data => cases alike
      | link target => cases alike
      | directory others => exact .inl ⟨entries, others, rfl, rfl⟩

/-- At a location of trees with the same nodes stand nodes of the same kind. -/
theorem SameNodes.kind_eq (same : first.SameNodes second) (location : Location) :
    (first.at? location).map kind = (second.at? location).map kind := by
  rcases same.cases location with ⟨entries, others, held, heldToo⟩ | equal
  · rw [held, heldToo]
    rfl
  · rw [equal]

end Node

namespace Disk

/-- Another disk with the same nodes and the same place to begin from: the two differ at most in
the order in which they keep the entries of directories. -/
structure Rearranges (disk other : Disk) : Prop where
  proper : other.tree.Proper
  same : other.tree.SameNodes disk.tree
  begins : other.workingLocation = disk.workingLocation

/-- Entries may be kept in any order. -/
theorem Rearranges.of_perm {entries others : List (Name × Node)}
    (proper : (Node.directory entries).Proper) (perm : others.Perm entries)
    (workingLocation : Location) :
    (Disk.mk (.directory entries) workingLocation).Rearranges
      ⟨.directory others, workingLocation⟩ := by
  cases proper with
  | directory distinct named below =>
    have distinctToo := (perm.map Prod.fst).nodup_iff.mpr distinct
    refine ⟨.directory distinctToo ?_ ?_, ?_, rfl⟩
    · exact fun entry member => named entry (perm.mem_iff.mp member)
    · exact fun entry member => below entry (perm.mem_iff.mp member)
    · intro location
      cases location with
      | nil => rfl
      | cons name rest =>
        have found : others.lookup name = entries.lookup name := by
          ext child
          rw [lookup_eq_some_iff_mem distinct, lookup_eq_some_iff_mem distinctToo, perm.mem_iff]
        simp only [Node.at?, Node.child?, Node.entries, found]

/-- A place, without what is in it. -/
def Place.outline : Place → Place
  | .directory location _ => .directory location []
  | other => other

section Rearranged

variable {first second : Node} {purpose : Purpose}

theorem enter_congr (same : first.SameNodes second) (there : Location) (last : Bool) :
    enter first purpose there last = enter second purpose there last := by
  rw [enter, enter]
  rcases same.cases there with ⟨entries, others, held, heldToo⟩ | equal
  · rw [held, heldToo]
  · rw [equal]

theorem move_congr (same : first.SameNodes second) (here : Location) (segment : Bytes)
    (rest : List Bytes) :
    move first purpose here segment rest = move second purpose here segment rest := by
  rw [move, move, enter_congr same]

theorem descend_outline (same : first.SameNodes second)
    {follow followToo : Location → List Bytes → Except OsError Place}
    (agree : ∀ here segments, (follow here segments).map Place.outline =
      (followToo here segments).map Place.outline) (here : Location) (segments : List Bytes) :
    (descend first purpose follow here segments).map Place.outline =
      (descend second purpose followToo here segments).map Place.outline := by
  induction segments generalizing here with
  | nil =>
    rw [descend, descend]
    rcases same.cases here with ⟨entries, others, held, heldToo⟩ | equal
    · rw [held, heldToo]
      rfl
    · rw [equal]
  | cons segment rest ih =>
    rw [descend_cons, descend_cons, move_congr same]
    cases move second purpose here segment rest with
    | onward there => exact ih there
    | detour target => exact agree _ _
    | stop result => rfl

theorem descendWithin_outline (same : first.SameNodes second) (links : Nat) (here : Location)
    (segments : List Bytes) :
    (descendWithin first purpose links here segments).map Place.outline =
      (descendWithin second purpose links here segments).map Place.outline := by
  induction links generalizing here segments with
  | zero => exact descend_outline same (fun _ _ => rfl) here segments
  | succ links ih => exact descend_outline same ih here segments

end Rearranged

/-- A path leads to the same place whatever the order of entries. -/
theorem Rearranges.resolve_outline {disk other : Disk} (rearranges : disk.Rearranges other)
    (purpose : Purpose) (path : Path) :
    (other.resolve purpose path).map Place.outline =
      (disk.resolve purpose path).map Place.outline := by
  cases taken : checkPath path with
  | ok _ =>
    rw [resolve_eq taken, resolve_eq taken, rearranges.begins]
    exact descendWithin_outline rearranges.same _ _ _
  | error error =>
    rw [resolve, resolve, taken]
    rfl

/-- On such disks a path leads to two directories at the same location, or there is no
difference. -/
theorem Rearranges.resolve_cases {disk other : Disk} (rearranges : disk.Rearranges other)
    (purpose : Purpose) (path : Path) :
    (∃ location entries others, disk.resolve purpose path = .ok (.directory location entries) ∧
        other.resolve purpose path = .ok (.directory location others)) ∨
      other.resolve purpose path = disk.resolve purpose path := by
  have outlined := rearranges.resolve_outline purpose path
  cases led : disk.resolve purpose path with
  | error error =>
    cases ledToo : other.resolve purpose path with
    | error failure =>
      rw [led, ledToo] at outlined
      cases outlined
      exact .inr rfl
    | ok place =>
      rw [led, ledToo] at outlined
      cases outlined
  | ok place =>
    cases ledToo : other.resolve purpose path with
    | error failure =>
      rw [led, ledToo] at outlined
      cases outlined
    | ok placeToo =>
      rw [led, ledToo] at outlined
      have same : placeToo.outline = place.outline := Except.ok.inj outlined
      cases place with
      | file location data =>
        cases placeToo <;> cases same
        exact .inr rfl
      | vacant location =>
        cases placeToo <;> cases same
        exact .inr rfl
      | directory location entries =>
        cases placeToo with
        | file location data => cases same
        | vacant location => cases same
        | directory locationToo others =>
          cases same
          exact .inl ⟨location, entries, others, rfl, rfl⟩

/-- A listing cannot tell in which order a disk keeps the entries of its directories. -/
theorem Rearranges.list_eq {disk other : Disk} (proper : disk.tree.Proper)
    (rearranges : disk.Rearranges other) (path : Path) : other.list path = disk.list path := by
  rcases rearranges.resolve_cases .reading path with
    ⟨location, entries, others, led, ledToo⟩ | equal
  · obtain ⟨named, listed, members, ascending⟩ := list_spec proper led
    obtain ⟨namedToo, listedToo, membersToo, ascendingToo⟩ := list_spec rearranges.proper ledToo
    have irrefl : Std.Irrefl fun first second : Name × Kind => first.1 < second.1 :=
      ⟨fun entry => List.lt_irrefl entry.1⟩
    have equal : namedToo = named := by
      apply ascendingToo.eq_of_mem_iff ascending
      rintro ⟨name, kind⟩
      rw [membersToo, members, rearranges.same.kind_eq]
    rw [listedToo, listed, equal]
  · rw [list, list, entries, entries, equal]

/-- From the directory that its root leads to, a walk that can list every directory it reaches
finds the regular files that are reached through directories alone and nothing else. It finds them
in the order of their locations, which is that of the octets of the names, name by name, and each
of them once. On a disk with the entries of directories in another order it finds the same. -/
theorem walk_spec {disk : Disk} (proper : disk.tree.Proper) {root : Path} {location : Location}
    {entries : List (Name × Node)}
    (led : disk.resolve .reading root = .ok (.directory location entries))
    (listed : ∀ names inner, (Node.directory entries).Reaches names (.directory inner) →
      (disk.list (root.joinAll names)).isOk) :
    ∃ found : List Location, disk.walk root = .ok (found.map root.joinAll) ∧
      (∀ names, names ∈ found ↔
        ∃ data, (Node.directory entries).Reaches names (.file data)) ∧
      found.Pairwise (· < ·) ∧
      (found.map root.joinAll).Pairwise (fun first second => first.equivalent second = false) ∧
      ∀ other, disk.Rearranges other → other.walk root = disk.walk root := by
  have standing : disk.tree.at? location = some (.directory entries) := stands_of_resolve led
  have properHere := proper.at? standing
  have walked := walk_eq proper led listed
  have ascending := Node.ascending_regularFiles properHere
  refine ⟨_, walked, fun names => ?_, ascending, ?_, fun other rearranges => ?_⟩
  · rw [Node.mem_locations properHere]
    simp only [Node.reaches_iff properHere]
  · exact apart_regularFiles (bytes_ne_nil_of_resolve led) properHere
  · exact walk_congr (rearranges.list_eq proper) root

/-- A directory between files whose names begin like its own. In it a link leads back up, beside
it one leads nowhere. -/
def mixedEntries : List (Name × Node) :=
  [(Utf8.encode "a.lua", .file []),
    (Utf8.encode "a-b", .file []),
    (Utf8.encode "lost", .link (.ofText "nowhere")),
    (Utf8.encode "a", .directory
      [(Utf8.encode "up", .link (.ofText "..")), (Utf8.encode "z", .file [])])]

theorem proper_mixedEntries : (Node.directory mixedEntries).Proper := by
  rw [mixedEntries]
  apply Node.Proper.cons (by decide) (by decide) (.file _)
  apply Node.Proper.cons (by decide) (by decide) (.file _)
  apply Node.Proper.cons (by decide) (by decide) (.link _)
  refine Node.Proper.cons (by decide) (by decide) ?_ .empty
  apply Node.Proper.cons (by decide) (by decide) (.link _)
  exact Node.Proper.cons (by decide) (by decide) (.file _) .empty

/-- What is in the directory comes first, whether the entries are kept in one order or in the
opposite one. -/
theorem walk_of_reversed_entries :
    (Disk.mk (.directory mixedEntries.reverse) []).walk (.ofText ".") =
        (Disk.mk (.directory mixedEntries) []).walk (.ofText ".") ∧
      (Disk.mk (.directory mixedEntries) []).walk (.ofText ".") =
        .ok [.ofText "./a/z", .ofText "./a-b", .ofText "./a.lua"] := by
  have listed : ∀ names inner, (Node.directory mixedEntries).Reaches names (.directory inner) →
      ((Disk.mk (.directory mixedEntries) []).list
        ((Path.ofText ".").joinAll names)).isOk = true := by
    intro names inner reaches
    cases reaches with
    | here => cbv
    | through entry reaches =>
      simp only [mixedEntries, List.mem_cons, List.not_mem_nil, or_false, Prod.mk.injEq] at entry
      rcases entry with ⟨rfl, rfl⟩ | ⟨rfl, rfl⟩ | ⟨rfl, rfl⟩ | ⟨rfl, rfl⟩
      · cases reaches
      · cases reaches
      · cases reaches
      · cases reaches with
        | here => cbv
        | through entry reaches =>
          simp only [List.mem_cons, List.not_mem_nil, or_false, Prod.mk.injEq] at entry
          rcases entry with ⟨rfl, rfl⟩ | ⟨rfl, rfl⟩
          · cases reaches
          · cases reaches
  have led : (Disk.mk (.directory mixedEntries) []).resolve .reading (.ofText ".") =
      .ok (.directory [] mixedEntries) := rfl
  obtain ⟨-, -, -, -, -, rearranged⟩ := walk_spec proper_mixedEntries led listed
  have reversed := Rearranges.of_perm proper_mixedEntries mixedEntries.reverse_perm []
  exact ⟨rearranged _ reversed, by cbv⟩

end Disk

end Redirect
