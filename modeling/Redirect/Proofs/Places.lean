/-
# Where paths lead

A path leads to the same place whatever the files of the tree hold, so overwriting files
neither redirects nor breaks a path. A path that leads to a file when it is read leads there
when it is written, so a file that can be read can be written.
-/

import Mathlib.Tactic.SplitIfs
import Redirect.Proofs.RegularFiles

namespace Redirect

namespace Disk

/-! ## One segment at a time -/

/-- What the first of the segments still to go asks for. -/
inductive Move where
  /-- To go on from a directory. -/
  | onward (there : Location)
  /-- To follow a link. -/
  | detour (target : Path)
  /-- To end here. -/
  | stop (result : Except OsError Place)

/-- The move onto what stands under a name; `last` says that no segment is to go. -/
def enter (tree : Node) (purpose : Purpose) (there : Location) (last : Bool) : Move :=
  match tree.at? there with
  | none => .stop (if purpose = .writing && last then .ok (.vacant there) else .error .notFound)
  | some (.directory _) => .onward there
  | some (.file data) => .stop (if last then .ok (.file there data) else .error .notDirectory)
  | some (.link target) => .detour target

/-- The move that a segment asks for, when other segments follow it. -/
def move (tree : Node) (purpose : Purpose) (here : Location) (segment : Bytes)
    (rest : List Bytes) : Move :=
  if segment.isEmpty || segment == [dot] then .onward here
  else if segment == [dot, dot] then .onward here.dropLast
  else if purpose = .writing && !rest.isEmpty && rest.all List.isEmpty then
    .stop (.error .isDirectory)
  else if longestName < segment.length then .stop (.error .nameTooLong)
  else enter tree purpose (here ++ [segment]) rest.isEmpty

/-- In reading, a slash that is left over asks for nothing. -/
theorem move_reading (tree : Node) (here : Location) (segment : Bytes) (rest : List Bytes) :
    move tree .reading here segment rest =
      if segment.isEmpty || segment == [dot] then .onward here
      else if segment == [dot, dot] then .onward here.dropLast
      else if longestName < segment.length then .stop (.error .nameTooLong)
      else enter tree .reading (here ++ [segment]) rest.isEmpty := rfl

section Descend

variable {tree : Node} {purpose : Purpose}
variable {follow : Location → List Bytes → Except OsError Place}

theorem descend_cons (here : Location) (segment : Bytes) (rest : List Bytes) :
    descend tree purpose follow here (segment :: rest) =
      match move tree purpose here segment rest with
      | .onward there => descend tree purpose follow there rest
      | .detour target =>
        follow (if target.isAbsolute then [] else here) (target.segments ++ rest)
      | .stop result => result := by
  simp only [descend, move, enter]
  by_cases skipped : segment.isEmpty || segment == [dot]
  · rw [if_pos skipped, if_pos skipped]
  rw [if_neg skipped, if_neg skipped]
  by_cases parent : segment == [dot, dot]
  · rw [if_pos parent, if_pos parent]
  rw [if_neg parent, if_neg parent]
  by_cases trailing : purpose = .writing && !rest.isEmpty && rest.all List.isEmpty
  · rw [if_pos trailing, if_pos trailing]
  rw [if_neg trailing, if_neg trailing]
  by_cases long : longestName < segment.length
  · rw [if_pos long, if_pos long]
  rw [if_neg long, if_neg long]
  cases tree.at? (here ++ [segment]) with
  | none => rfl
  | some node => cases node <;> rfl

end Descend

/-- What a path leads to is there in the tree. -/
def Place.Stands (tree : Node) : Place → Prop
  | .file location data => tree.at? location = some (.file data)
  | .directory location entries => tree.at? location = some (.directory entries)
  | .vacant _ => True

theorem stands_of_move_stop {tree : Node} {purpose : Purpose} {here : Location}
    {segment : Bytes} {rest : List Bytes} {place : Place}
    (stopped : move tree purpose here segment rest = .stop (.ok place)) : place.Stands tree := by
  rw [move] at stopped
  split_ifs at stopped with skipped parent trailing long
  · cases stopped
  · cases stopped
  cases found : tree.at? (here ++ [segment]) with
  | none =>
    rw [enter, found] at stopped
    by_cases vacancy : (decide (purpose = .writing) && rest.isEmpty) = true
    · simp only [if_pos vacancy] at stopped
      cases stopped
      exact True.intro
    · simp only [if_neg vacancy] at stopped
      cases stopped
  | some node =>
    cases node with
    | file held =>
      rw [enter, found] at stopped
      cases rest with
      | nil =>
        cases stopped
        exact found
      | cons next others => cases stopped
    | link target =>
      rw [enter, found] at stopped
      cases stopped
    | directory entries =>
      rw [enter, found] at stopped
      cases stopped

theorem stands_of_descend {tree : Node} {purpose : Purpose}
    {follow : Location → List Bytes → Except OsError Place} {place : Place}
    (followed : ∀ here segments, follow here segments = .ok place → place.Stands tree)
    {here : Location} {segments : List Bytes}
    (led : descend tree purpose follow here segments = .ok place) : place.Stands tree := by
  induction segments generalizing here with
  | nil =>
    rw [descend] at led
    split at led
    · cases led
      assumption
    · cases led
  | cons segment rest ih =>
    rw [descend_cons] at led
    cases moved : move tree purpose here segment rest with
    | onward there =>
      rw [moved] at led
      exact ih led
    | detour target =>
      rw [moved] at led
      exact followed _ _ led
    | stop result =>
      rw [moved] at led
      exact stands_of_move_stop (moved.trans (congrArg Move.stop led))

theorem stands_of_descendWithin {tree : Node} {purpose : Purpose} {links : Nat}
    {here : Location} {segments : List Bytes} {place : Place}
    (led : descendWithin tree purpose links here segments = .ok place) : place.Stands tree := by
  induction links generalizing here segments with
  | zero => exact stands_of_descend (fun _ _ followed => by cases followed) led
  | succ links ih => exact stands_of_descend (fun _ _ => ih) led

/-! ## Overwriting redirects no path -/

/-- The same place after the files of the tree were changed. -/
def Place.mapFiles (change : Location → Bytes → Bytes) : Place → Place
  | .file location data => .file location (change location data)
  | .directory location entries =>
    .directory location (entries.map (Node.mapEntry fun below => change (location ++ below)))
  | .vacant location => .vacant location

/-- The same move after the files of the tree were changed. -/
def Move.mapFiles (change : Location → Bytes → Bytes) : Move → Move
  | .stop result => .stop (result.map (Place.mapFiles change))
  | other => other

theorem move_mapFiles (tree : Node) (purpose : Purpose) (change : Location → Bytes → Bytes)
    (here : Location) (segment : Bytes) (rest : List Bytes) :
    move (tree.mapFiles change) purpose here segment rest =
      (move tree purpose here segment rest).mapFiles change := by
  rw [move, move]
  split_ifs
  · rfl
  · rfl
  · rfl
  · rfl
  rw [enter, enter, Node.at?_mapFiles]
  cases tree.at? (here ++ [segment]) with
  | none =>
    simp only [Option.map_none, Move.mapFiles]
    split_ifs <;> rfl
  | some node =>
    cases node with
    | file data =>
      simp only [Option.map_some, Node.mapFiles_file, Move.mapFiles, List.append_nil]
      split_ifs <;> rfl
    | link target => rw [Option.map_some, Node.mapFiles_link]; rfl
    | directory entries => rw [Option.map_some, Node.mapFiles_directory]; rfl

theorem descend_mapFiles {tree : Node} {purpose : Purpose} {change : Location → Bytes → Bytes}
    {follow changed : Location → List Bytes → Except OsError Place}
    (agree : ∀ here segments,
      changed here segments = (follow here segments).map (Place.mapFiles change))
    (here : Location) (segments : List Bytes) :
    descend (tree.mapFiles change) purpose changed here segments =
      (descend tree purpose follow here segments).map (Place.mapFiles change) := by
  induction segments generalizing here with
  | nil =>
    rw [descend, descend, Node.at?_mapFiles]
    cases tree.at? here with
    | none => rfl
    | some node =>
      cases node with
      | file data => rw [Option.map_some, Node.mapFiles_file]; rfl
      | link target => rw [Option.map_some, Node.mapFiles_link]; rfl
      | directory entries => rw [Option.map_some, Node.mapFiles_directory]; rfl
  | cons segment rest ih =>
    rw [descend_cons, descend_cons, move_mapFiles]
    cases move tree purpose here segment rest with
    | onward there => exact ih there
    | detour target => exact agree _ _
    | stop result => rfl

theorem descendWithin_mapFiles (tree : Node) (purpose : Purpose)
    (change : Location → Bytes → Bytes) (links : Nat) (here : Location)
    (segments : List Bytes) :
    descendWithin (tree.mapFiles change) purpose links here segments =
      (descendWithin tree purpose links here segments).map (Place.mapFiles change) := by
  induction links generalizing here segments with
  | zero =>
    have refused (here : Location) (segments : List Bytes) :
        (.error .tooManyLinks : Except OsError Place) =
          Except.map (Place.mapFiles change) (.error .tooManyLinks) := rfl
    exact descend_mapFiles refused here segments
  | succ links ih => exact descend_mapFiles ih here segments

/-! ## A file that is read can be written -/

theorem move_empty (tree : Node) (purpose : Purpose) (here : Location) (rest : List Bytes) :
    move tree purpose here [] rest = .onward here := rfl

theorem eq_nil_of_move_stop {tree : Node} {purpose : Purpose} {here : Location}
    {segment : Bytes} {rest : List Bytes} {location : Location} {data : Bytes}
    (stopped : move tree purpose here segment rest = .stop (.ok (.file location data))) :
    rest = [] := by
  cases rest with
  | nil => rfl
  | cons next others =>
    rw [move] at stopped
    split_ifs at stopped
    · cases stopped
    · cases stopped
    rw [enter] at stopped
    split at stopped <;> simp at stopped

/-- A path that ends in a slash is never the path of a file. -/
theorem descend_ne_file {tree : Node} {follow : Location → List Bytes → Except OsError Place}
    {purpose : Purpose} {location : Location} {data : Bytes}
    (followed : ∀ here segments, segments.getLast? = some [] →
      follow here segments ≠ .ok (.file location data))
    {here : Location} {segments : List Bytes} (trailing : segments.getLast? = some []) :
    descend tree purpose follow here segments ≠ .ok (.file location data) := by
  induction segments generalizing here with
  | nil => cases trailing
  | cons segment rest ih =>
    intro led
    rw [descend_cons] at led
    cases moved : move tree purpose here segment rest with
    | onward there =>
      rw [moved] at led
      cases rest with
      | nil =>
        simp only [descend] at led
        split at led <;> cases led
      | cons next others =>
        rw [List.getLast?_cons_cons] at trailing
        exact ih trailing led
    | detour target =>
      rw [moved] at led
      cases rest with
      | nil =>
        obtain rfl : segment = [] := Option.some.inj trailing
        rw [move_empty] at moved
        cases moved
      | cons next others =>
        refine followed _ _ ?_ led
        rw [List.getLast?_append, ← List.getLast?_cons_cons (a := segment), trailing]
        rfl
    | stop result =>
      rw [moved] at led
      have stopped := moved.trans (congrArg Move.stop led)
      obtain rfl := eq_nil_of_move_stop stopped
      obtain rfl : segment = [] := Option.some.inj trailing
      rw [move_empty] at stopped
      cases stopped

theorem enter_writing {tree : Node} {there : Location} {last : Bool}
    (goesOn : ∀ error, enter tree .reading there last ≠ .stop (.error error)) :
    enter tree .writing there last = enter tree .reading there last := by
  cases found : tree.at? there with
  | none =>
    refine absurd ?_ (goesOn .notFound)
    rw [enter, found]
    rfl
  | some node =>
    rw [enter, enter, found]
    cases node <;> rfl

/-- Where no slash is left over, writing moves as reading does, unless reading ends. -/
theorem move_writing {tree : Node} {here : Location} {segment : Bytes} {rest : List Bytes}
    (noTrailing : rest.getLast? ≠ some [])
    (goesOn : ∀ error, move tree .reading here segment rest ≠ .stop (.error error)) :
    move tree .writing here segment rest = move tree .reading here segment rest := by
  have notAll : ¬(decide (Purpose.writing = .writing) && !rest.isEmpty &&
      rest.all List.isEmpty) = true := by
    intro all
    simp only [decide_true, Bool.true_and, Bool.and_eq_true, Bool.not_eq_true',
      List.isEmpty_eq_false_iff, List.all_eq_true, List.isEmpty_iff] at all
    apply noTrailing
    rw [List.getLast?_eq_some_getLast all.1, all.2 _ (List.getLast_mem all.1)]
  rw [move_reading] at goesOn
  rw [move, move_reading, if_neg notAll]
  split_ifs at goesOn ⊢
  · rfl
  · rfl
  · rfl
  · exact enter_writing goesOn

/-- A path that leads to a file when it is read leads there when it is written. -/
theorem descend_writing {tree : Node}
    {follow followWriting : Location → List Bytes → Except OsError Place}
    {location : Location} {data : Bytes}
    (trailed : ∀ here segments, segments.getLast? = some [] →
      follow here segments ≠ .ok (.file location data))
    (followed : ∀ here segments, follow here segments = .ok (.file location data) →
      followWriting here segments = .ok (.file location data))
    {here : Location} {segments : List Bytes}
    (led : descend tree .reading follow here segments = .ok (.file location data)) :
    descend tree .writing followWriting here segments = .ok (.file location data) := by
  induction segments generalizing here with
  | nil =>
    rw [descend] at led
    split at led <;> cases led
  | cons segment rest ih =>
    by_cases trailing : rest.getLast? = some []
    · have whole : (segment :: rest).getLast? = some [] := by
        rw [List.getLast?_cons, trailing]
        rfl
      exact absurd led (descend_ne_file trailed whole)
    · rw [descend_cons] at led ⊢
      have goesOn : ∀ error, move tree .reading here segment rest ≠ .stop (.error error) := by
        intro error stopped
        rw [stopped] at led
        cases led
      rw [move_writing trailing goesOn]
      cases moved : move tree .reading here segment rest with
      | onward there =>
        rw [moved] at led
        exact ih led
      | detour target =>
        rw [moved] at led
        exact followed _ _ led
      | stop result =>
        rw [moved] at led
        exact led

theorem descendWithin_ne_file {tree : Node} {purpose : Purpose} {links : Nat}
    {location : Location} {data : Bytes} {here : Location} {segments : List Bytes}
    (trailing : segments.getLast? = some []) :
    descendWithin tree purpose links here segments ≠ .ok (.file location data) := by
  induction links generalizing here segments with
  | zero => exact descend_ne_file (fun _ _ _ => by simp) trailing
  | succ links ih => exact descend_ne_file (fun _ _ => ih) trailing

theorem descendWithin_writing {tree : Node} {links : Nat} {location : Location} {data : Bytes}
    {here : Location} {segments : List Bytes}
    (led : descendWithin tree .reading links here segments = .ok (.file location data)) :
    descendWithin tree .writing links here segments = .ok (.file location data) := by
  induction links generalizing here segments with
  | zero => exact descend_writing (fun _ _ _ => by simp) (fun _ _ => by simp) led
  | succ links ih => exact descend_writing (fun _ _ => descendWithin_ne_file) (fun _ _ => ih) led

/-! ## Whole paths -/

/-- A path that a system call takes leads where its segments lead. -/
theorem resolve_eq {disk : Disk} {purpose : Purpose} {path : Path}
    (taken : checkPath path = .ok ()) :
    disk.resolve purpose path =
      descendWithin disk.tree purpose mostLinks
        (if path.isAbsolute then [] else disk.workingLocation) path.segments := by
  rw [resolve, taken]
  rfl

theorem checkPath_of_resolve {disk : Disk} {purpose : Purpose} {path : Path} {place : Place}
    (led : disk.resolve purpose path = .ok place) : checkPath path = .ok () := by
  cases taken : checkPath path with
  | ok _ => rfl
  | error error =>
    rw [resolve, taken] at led
    cases led

theorem bytes_ne_nil_of_resolve {disk : Disk} {purpose : Purpose} {path : Path} {place : Place}
    (led : disk.resolve purpose path = .ok place) : path.bytes ≠ [] := by
  intro unspelled
  have taken := checkPath_of_resolve led
  rw [checkPath, unspelled] at taken
  simp at taken

theorem stands_of_resolve {disk : Disk} {purpose : Purpose} {path : Path} {place : Place}
    (led : disk.resolve purpose path = .ok place) : place.Stands disk.tree := by
  rw [resolve_eq (checkPath_of_resolve led)] at led
  exact stands_of_descendWithin led

/-- A path that leads to a file when it is read leads there when it is written. -/
theorem resolve_writing {disk : Disk} {path : Path} {location : Location} {data : Bytes}
    (led : disk.resolve .reading path = .ok (.file location data)) :
    disk.resolve .writing path = .ok (.file location data) := by
  have taken := checkPath_of_resolve led
  rw [resolve_eq taken] at led ⊢
  exact descendWithin_writing led

/-- The disk with the data listed for each location, where a file stands there. -/
def overwrite (disk : Disk) (changes : List (Location × Bytes)) : Disk :=
  { disk with tree := disk.tree.overwrite changes }

theorem overwrite_nil {disk : Disk} (proper : disk.tree.Proper) : disk.overwrite [] = disk := by
  rw [overwrite, Node.overwrite_nil proper]

/-- Overwriting files redirects no path. -/
theorem resolve_overwrite (disk : Disk) (purpose : Purpose) (path : Path)
    (changes : List (Location × Bytes)) :
    (disk.overwrite changes).resolve purpose path =
      (disk.resolve purpose path).map
        (Place.mapFiles fun location data => (changes.lookup location).getD data) := by
  cases taken : checkPath path with
  | ok _ =>
    rw [resolve_eq taken, resolve_eq taken]
    exact descendWithin_mapFiles disk.tree purpose _ mostLinks _ _
  | error error =>
    rw [resolve, resolve, taken]
    rfl

theorem resolve_overwrite_directory {disk : Disk} {path : Path} {location : Location}
    {entries : List (Name × Node)}
    (led : disk.resolve .reading path = .ok (.directory location entries))
    (changes : List (Location × Bytes)) :
    (disk.overwrite changes).resolve .reading path =
      .ok (.directory location (entries.map (Node.mapEntry fun below data =>
        (changes.lookup (location ++ below)).getD data))) := by
  rw [resolve_overwrite, led]
  rfl

theorem resolve_of_read {disk : Disk} {path : Path} {data : Bytes}
    (held : disk.read path = .ok data) :
    ∃ location, disk.resolve .reading path = .ok (.file location data) := by
  rw [read] at held
  cases led : disk.resolve .reading path with
  | error error =>
    rw [led] at held
    cases held
  | ok place =>
    rw [led] at held
    cases place with
    | file location found =>
      obtain rfl : found = data := Except.ok.inj held
      exact ⟨location, rfl⟩
    | directory location entries => cases held
    | vacant location => cases held

/-- A path is read as before when the file that it leads to was not overwritten. -/
theorem read_overwrite {disk : Disk} {path : Path} {changes : List (Location × Bytes)}
    (untouched : ∀ location data, disk.resolve .reading path = .ok (.file location data) →
      changes.lookup location = none) :
    (disk.overwrite changes).read path = disk.read path := by
  rw [read, read, resolve_overwrite]
  cases led : disk.resolve .reading path with
  | error error => rfl
  | ok place =>
    cases place with
    | file location data =>
      have kept : (changes.lookup location).getD data = data := by
        rw [untouched location data led, Option.getD_none]
      simp only [Except.map, Place.mapFiles, kept]
    | directory location entries => rfl
    | vacant location => rfl

/-- A file that can be read can be written, and writing it changes its location alone. -/
theorem write_of_resolve {disk : Disk} {path : Path} {location : Location} {data : Bytes}
    (led : disk.resolve .reading path = .ok (.file location data)) (new : Bytes) :
    disk.write path new = .ok { disk with tree := disk.tree.set location (.file new) } := by
  rw [write, resolve_writing led]
  rfl

end Disk

end Redirect
