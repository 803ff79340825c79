/-
# Paths below a directory

A name that is joined to a path is one more segment of it, in whatever way the path was
spelled: with links on the way, with dots, or with a slash left over at its end. So below a
directory that a path leads to, the path joined with the names of a location can only lead
to that location, unless a link stands there: directories are entered by name, and no link
stands between. The names are components of the joined path, so different locations have paths
that are not even equivalent.
-/

import Redirect.Proofs.Places

namespace Redirect

namespace Path

theorem pushSegment_append (b : UInt8) {first : List Bytes} (nonempty : first ≠ [])
    (second : List Bytes) : pushSegment b (first ++ second) = pushSegment b first ++ second := by
  cases first with
  | nil => exact absurd rfl nonempty
  | cons segment rest =>
    rw [List.cons_append, pushSegment, pushSegment]
    split_ifs <;> rfl

theorem foldr_pushSegment_ne_nil (bytes : Bytes) : bytes.foldr pushSegment [[]] ≠ [] := by
  cases bytes with
  | nil => simp
  | cons b rest =>
    rw [List.foldr_cons]
    cases rest.foldr pushSegment [[]] with
    | nil =>
      rw [pushSegment]
      split_ifs <;> simp
    | cons segment others =>
      rw [pushSegment]
      split_ifs <;> simp

/-- A slash divides the segments before it from the segments after it. -/
theorem segments_append_slash (before after : Bytes) :
    segments ⟨before ++ slash :: after⟩ = segments ⟨before⟩ ++ segments ⟨after⟩ := by
  rw [segments, segments, segments]
  induction before with
  | nil =>
    rw [List.nil_append, List.foldr_cons, List.foldr_nil]
    cases divided : after.foldr pushSegment [[]] with
    | nil => exact absurd divided (foldr_pushSegment_ne_nil after)
    | cons segment others =>
      rw [pushSegment, if_pos rfl]
      rfl
  | cons b before ih =>
    simp only at ih ⊢
    rw [List.cons_append, List.foldr_cons, List.foldr_cons, ih,
      pushSegment_append b (foldr_pushSegment_ne_nil before)]

/-- A name is one segment. -/
theorem segments_of_not_mem {name : Bytes} (undivided : slash ∉ name) :
    segments ⟨name⟩ = [name] := by
  rw [segments]
  induction name with
  | nil => rfl
  | cons b name ih =>
    rw [List.mem_cons, not_or] at undivided
    simp only at ih ⊢
    rw [List.foldr_cons, ih undivided.2, pushSegment, if_neg (Ne.symm undivided.1)]

/-- Joining a name puts octets between a path and the name, if anything. -/
theorem bytes_join (path : Path) (name : Name) :
    ∃ between, (path.join name).bytes = path.bytes ++ (between ++ name) := by
  rw [join]
  cases ending : path.bytes.getLast? with
  | none => exact ⟨[], by rw [List.getLast?_eq_none_iff.mp ending]; rfl⟩
  | some last =>
    by_cases closed : last = slash
    · exact ⟨[], by simp only [closed, if_pos]; rfl⟩
    · exact ⟨[slash], by simp only [if_neg closed]; rfl⟩

theorem isAbsolute_join {path : Path} (spelled : path.bytes ≠ []) (name : Name) :
    (path.join name).isAbsolute = path.isAbsolute := by
  obtain ⟨between, joined⟩ := bytes_join path name
  rw [isAbsolute, isAbsolute, joined, List.head?_append_of_ne_nil _ spelled]

theorem bytes_join_ne_nil {path : Path} (spelled : path.bytes ≠ []) (name : Name) :
    (path.join name).bytes ≠ [] := by
  obtain ⟨between, joined⟩ := bytes_join path name
  rw [joined]
  exact List.append_ne_nil_of_left_ne_nil spelled _

/-- A path ends in the name that was joined to it, and so in no slash. -/
theorem getLast?_join (path : Path) {name : Name} (named : IsEntryName name) :
    ∃ last, (path.join name).bytes.getLast? = some last ∧ last ≠ slash := by
  obtain ⟨nonempty, _, _, undivided⟩ := named
  obtain ⟨between, joined⟩ := bytes_join path name
  refine ⟨name.getLast nonempty, ?_, ?_⟩
  · rw [joined, List.getLast?_append, List.getLast?_append,
      List.getLast?_eq_some_getLast nonempty]
    rfl
  · intro closed
    exact undivided (closed ▸ List.getLast_mem nonempty)

/-- The segments of a path with something joined to it, next to those of the path alone. -/
theorem segments_join {path : Path} (spelled : path.bytes ≠ []) (further : Bytes) :
    ∃ before trailing, (∀ segment ∈ trailing, segment = []) ∧
      path.segments = before ++ trailing ∧
        (path.join further).segments = before ++ segments ⟨further⟩ := by
  have ending := List.getLast?_eq_some_getLast spelled
  rw [join, ending]
  by_cases closed : path.bytes.getLast spelled = slash
  · have split : path = ⟨path.bytes.dropLast ++ slash :: []⟩ := by
      rw [← closed, List.dropLast_append_getLast]
    refine ⟨segments ⟨path.bytes.dropLast⟩, [[]], by simp, ?_, ?_⟩
    · have closing : segments ⟨[]⟩ = [[]] := rfl
      rw [← closing, ← segments_append_slash, ← split]
    · simp only [if_pos closed]
      have spelling : path.bytes ++ further = path.bytes.dropLast ++ slash :: further := by
        conv_lhs => rw [← List.dropLast_append_getLast spelled, closed, List.append_assoc]
        rfl
      rw [spelling, segments_append_slash]
  · refine ⟨path.segments, [], by simp, (List.append_nil _).symm, ?_⟩
    simp only [if_neg closed]
    rw [segments_append_slash]

/-- Behind a path that ends in no slash, each name that is joined is one more segment. -/
theorem segments_joinAll_of_unclosed {path : Path} {last : UInt8}
    (ending : path.bytes.getLast? = some last) (unclosed : last ≠ slash) {names : List Name}
    (named : ∀ name ∈ names, IsEntryName name) :
    (path.joinAll names).segments = path.segments ++ names := by
  induction names generalizing path last with
  | nil => exact (List.append_nil _).symm
  | cons name rest ih =>
    obtain ⟨nameNamed, restNamed⟩ := List.forall_mem_cons.mp named
    obtain ⟨next, nextEnding, nextUnclosed⟩ := getLast?_join path nameNamed
    have joined : (path.join name).segments = path.segments ++ [name] := by
      rw [join, ending]
      simp only [if_neg unclosed]
      rw [segments_append_slash, segments_of_not_mem nameNamed.2.2.2]
    change ((path.join name).joinAll rest).segments = _
    rw [ih nextEnding nextUnclosed restNamed, joined, List.append_assoc]
    rfl

theorem isAbsolute_joinAll {path : Path} (spelled : path.bytes ≠ []) (names : List Name) :
    (path.joinAll names).isAbsolute = path.isAbsolute := by
  induction names generalizing path with
  | nil => rfl
  | cons name rest ih =>
    change ((path.join name).joinAll rest).isAbsolute = _
    rw [ih (bytes_join_ne_nil spelled name), isAbsolute_join spelled]

/-- The segments of a path joined with names, next to those of the path alone. -/
theorem segments_joinAll {path : Path} (spelled : path.bytes ≠ []) {names : List Name}
    (named : ∀ name ∈ names, IsEntryName name) (nonempty : names ≠ []) :
    ∃ before trailing, (∀ segment ∈ trailing, segment = []) ∧
      path.segments = before ++ trailing ∧ (path.joinAll names).segments = before ++ names := by
  cases names with
  | nil => exact absurd rfl nonempty
  | cons name rest =>
    obtain ⟨nameNamed, restNamed⟩ := List.forall_mem_cons.mp named
    obtain ⟨before, trailing, empty, alone, joined⟩ := segments_join spelled name
    obtain ⟨last, ending, unclosed⟩ := getLast?_join path nameNamed
    refine ⟨before, trailing, empty, alone, ?_⟩
    change ((path.join name).joinAll rest).segments = _
    rw [segments_joinAll_of_unclosed ending unclosed restNamed, joined,
      segments_of_not_mem nameNamed.2.2.2, List.append_assoc]
    rfl

theorem filterMap_componentOf? {names : List Name} (named : ∀ name ∈ names, IsEntryName name) :
    names.filterMap componentOf? = names.map .normal := by
  rw [← List.filterMap_eq_map]
  apply List.filterMap_congr
  intro name member
  obtain ⟨nonempty, notDot, notParent, -⟩ := named name member
  rw [componentOf?, if_neg (by simp [nonempty, notDot]), if_neg (by simp [notParent])]
  rfl

/-- Segments that come behind those of a path are components behind its own, if the first of them
is no dot. -/
theorem components_append {path joined : Path} {before trailing further : List Bytes}
    (empty : ∀ segment ∈ trailing, segment = []) (alone : path.segments = before ++ trailing)
    (behind : joined.segments = before ++ further)
    (sameStart : joined.isAbsolute = path.isAbsolute) {first : Bytes} {others : List Bytes}
    (begins : further = first :: others) (notDot : first ≠ [dot]) :
    joined.components = path.components ++ further.filterMap componentOf? := by
  subst begins
  have skipped : trailing.filterMap componentOf? = [] := by
    rw [List.filterMap_eq_nil_iff]
    rintro segment member
    rw [empty segment member]
    rfl
  have named (before : List Bytes) : (before ++ first :: others).filterMap componentOf? =
      (before ++ trailing).filterMap componentOf? ++ (first :: others).filterMap componentOf? := by
    rw [List.filterMap_append, List.filterMap_append, skipped, List.append_nil]
  have notDotToo : ¬(first == [dot]) = true := by simpa using notDot
  rw [components, components, sameStart, alone, behind]
  cases path.isAbsolute with
  | true => rw [if_pos rfl, if_pos rfl, named, List.cons_append]
  | false =>
    rw [if_neg Bool.false_ne_true, if_neg Bool.false_ne_true]
    cases before with
    | nil =>
      simp only [List.nil_append, if_neg notDotToo]
      cases trailing with
      | nil => rfl
      | cons segment trailing =>
        obtain rfl := empty segment List.mem_cons_self
        have emptyNotDot : ¬(([] : Bytes) == [dot]) = true := by decide
        simp only [if_neg emptyNotDot, skipped, List.nil_append]
    | cons start rest =>
      simp only [List.cons_append]
      split
      · rw [named, List.cons_append]
      · exact named (start :: rest)

/-- Names that are joined to a path are components behind its own. -/
theorem components_joinAll {path : Path} (spelled : path.bytes ≠ []) {names : List Name}
    (named : ∀ name ∈ names, IsEntryName name) :
    (path.joinAll names).components = path.components ++ names.map .normal := by
  cases names with
  | nil => exact (List.append_nil _).symm
  | cons name rest =>
    obtain ⟨before, trailing, empty, alone, behind⟩ :=
      segments_joinAll spelled named (List.cons_ne_nil name rest)
    rw [components_append empty alone behind (isAbsolute_joinAll spelled _) rfl
      (named name List.mem_cons_self).2.1, filterMap_componentOf? named]

/-- Different names lead from a path to paths that are not even equivalent. -/
theorem equivalent_joinAll_iff {path : Path} (spelled : path.bytes ≠ []) {first second : List Name}
    (named : ∀ name ∈ first, IsEntryName name) (namedToo : ∀ name ∈ second, IsEntryName name) :
    (path.joinAll first).equivalent (path.joinAll second) = true ↔ first = second := by
  rw [equivalent, beq_iff_eq, components_joinAll spelled named, components_joinAll spelled namedToo,
    List.append_cancel_left_eq]
  exact List.map_inj_right fun _ _ same => Component.normal.inj same

/-- No two paths that different names lead to are equivalent. -/
theorem apart_joinAll {path : Path} (spelled : path.bytes ≠ []) {found : List (List Name)}
    (named : ∀ names ∈ found, ∀ name ∈ names, IsEntryName name) (distinct : found.Nodup) :
    (found.map path.joinAll).Pairwise fun first second => first.equivalent second = false := by
  rw [List.pairwise_map]
  refine distinct.imp_of_mem fun member memberToo different => ?_
  rw [← Bool.not_eq_true, equivalent_joinAll_iff spelled (named _ member) (named _ memberToo)]
  exact different

end Path

namespace Node

theorem at?_append (node : Node) (above below : Location) :
    node.at? (above ++ below) = (node.at? above).bind fun found => found.at? below := by
  induction above generalizing node with
  | nil => rfl
  | cons name rest ih =>
    rw [List.cons_append, at?, at?]
    cases node.child? name with
    | none => rfl
    | some child => exact ih child

/-- Right below a directory stand its entries. -/
theorem at?_entry {node : Node} {location : Location} {entries : List (Name × Node)}
    (held : node.at? location = some (.directory entries)) (name : Name) :
    node.at? (location ++ [name]) = entries.lookup name := by
  rw [at?_append, held, Option.bind_some, at?, child?, Node.entries]
  exact Option.bind_fun_some _

/-- Only a directory has something below it. -/
theorem eq_directory_of_at? {node found : Node} {name : Name} {rest : Location}
    (held : node.at? (name :: rest) = some found) :
    ∃ entries, node = .directory entries := by
  cases node with
  | file data => cases held
  | link target => cases held
  | directory entries => exact ⟨entries, rfl⟩

end Node

namespace Disk

/-- A path that ends at a location has led to the node there, unless that is a link, which leads
on. -/
def Place.IsAt (place : Place) (location : Location) : Node → Prop
  | .file data => place = .file location data
  | .directory entries => place = .directory location entries
  | .link _ => True

section Below

variable {tree node : Node}

theorem move_name {name : Name} (named : IsEntryName name) (here : Location)
    (rest : List Bytes) :
    move tree .reading here name rest =
      if longestName < name.length then .stop (.error .nameTooLong)
      else enter tree .reading (here ++ [name]) rest.isEmpty := by
  obtain ⟨nonempty, notDot, notParent, _⟩ := named
  have goes : ¬(name.isEmpty || name == [dot]) = true := by simp [nonempty, notDot]
  have stays : ¬(name == [dot, dot]) = true := by simp [notParent]
  rw [move_reading, if_neg goes, if_neg stays]

/-- Along the names of directories only the node under the last name is reached. -/
theorem place_of_descend_names {follow : Location → List Bytes → Except OsError Place}
    {location : Location} {names : List Name}
    (named : ∀ name ∈ names, IsEntryName name) (nonempty : names ≠ [])
    (held : tree.at? (location ++ names) = some node) {place : Place}
    (led : descend tree .reading follow location names = .ok place) :
    place.IsAt (location ++ names) node := by
  induction names generalizing location with
  | nil => exact absurd rfl nonempty
  | cons name rest ih =>
    obtain ⟨nameNamed, restNamed⟩ := List.forall_mem_cons.mp named
    rw [descend_cons, move_name nameNamed] at led
    split_ifs at led with long
    cases rest with
    | nil =>
      cases node with
      | file data =>
        rw [enter, held] at led
        exact (Except.ok.inj led).symm
      | link target => exact True.intro
      | directory entries =>
        rw [enter, held] at led
        simp only [descend, held] at led
        exact (Except.ok.inj led).symm
    | cons next others =>
      have regrouped : location ++ name :: next :: others =
          (location ++ [name]) ++ next :: others := by simp
      rw [regrouped] at held ⊢
      rw [Node.at?_append] at held
      obtain ⟨directory, found, heldBelow⟩ := Option.bind_eq_some_iff.mp held
      obtain ⟨entries, rfl⟩ := Node.eq_directory_of_at? heldBelow
      rw [enter, found] at led
      refine ih restNamed (by simp) ?_ led
      rw [Node.at?_append, found]
      exact heldBelow

/-- In reading, the segments still to go only decide whether a path may end. -/
theorem move_reading_congr {here : Location} {segment : Bytes} {first : List Bytes}
    (goesOn : ∀ result, move tree .reading here segment first ≠ .stop result)
    (second : List Bytes) :
    move tree .reading here segment second = move tree .reading here segment first := by
  rw [move_reading] at goesOn
  rw [move_reading, move_reading]
  split_ifs at goesOn ⊢
  · rfl
  · rfl
  · rfl
  · rw [enter] at goesOn
    rw [enter, enter]
    cases found : tree.at? (here ++ [segment]) with
    | none => exact absurd (by rw [found]) (goesOn _)
    | some node =>
      cases node with
      | file data => exact absurd (by rw [found]) (goesOn _)
      | link target => rfl
      | directory entries => rfl

/-- No single move ends in a directory. -/
theorem move_ne_stop_directory {here : Location} {segment : Bytes} {rest : List Bytes}
    {location : Location} {entries : List (Name × Node)} :
    move tree .reading here segment rest ≠ .stop (.ok (.directory location entries)) := by
  intro stopped
  rw [move] at stopped
  split_ifs at stopped with skipped parent trailing long
  · cases stopped
  · cases stopped
  rw [enter] at stopped
  split at stopped
  · simp at stopped
  · cases stopped
  · split_ifs at stopped <;> cases stopped
  · cases stopped

theorem descend_empty {follow : Location → List Bytes → Except OsError Place}
    {here : Location} {trailing : List Bytes} (empty : ∀ segment ∈ trailing, segment = []) :
    descend tree .reading follow here trailing = descend tree .reading follow here [] := by
  induction trailing with
  | nil => rfl
  | cons segment rest ih =>
    obtain ⟨rfl, restEmpty⟩ := List.forall_mem_cons.mp empty
    rw [descend_cons, move_empty]
    exact ih restEmpty

/-- What segments and then names lead to stands below what the segments lead to. -/
theorem place_of_descend_below {follow : Location → List Bytes → Except OsError Place}
    {location : Location} {entries : List (Name × Node)} {trailing : List Bytes}
    (empty : ∀ segment ∈ trailing, segment = [])
    {names : List Name} (named : ∀ name ∈ names, IsEntryName name) (nonempty : names ≠ [])
    (held : tree.at? (location ++ names) = some node) {place : Place}
    (followed : ∀ here before,
      follow here (before ++ trailing) = .ok (.directory location entries) →
      follow here (before ++ names) = .ok place → place.IsAt (location ++ names) node)
    {here : Location} {before : List Bytes}
    (above : descend tree .reading follow here (before ++ trailing) =
      .ok (.directory location entries))
    (led : descend tree .reading follow here (before ++ names) = .ok place) :
    place.IsAt (location ++ names) node := by
  induction before generalizing here with
  | nil =>
    rw [List.nil_append, descend_empty empty, descend] at above
    split at above
    · cases above
      exact place_of_descend_names named nonempty held led
    · cases above
  | cons segment rest ih =>
    rw [List.cons_append, descend_cons] at above led
    cases moved : move tree .reading here segment (rest ++ trailing) with
    | onward there =>
      have goesOn : ∀ result,
          move tree .reading here segment (rest ++ trailing) ≠ .stop result := by
        simp [moved]
      rw [move_reading_congr goesOn, moved] at led
      rw [moved] at above
      exact ih above led
    | detour target =>
      have goesOn : ∀ result,
          move tree .reading here segment (rest ++ trailing) ≠ .stop result := by
        simp [moved]
      rw [move_reading_congr goesOn, moved] at led
      rw [moved] at above
      simp only [← List.append_assoc] at above led
      exact followed _ _ above led
    | stop result =>
      rw [moved] at above
      exact absurd (moved.trans (congrArg Move.stop above)) move_ne_stop_directory

theorem place_of_descendWithin_below {links : Nat} {location : Location}
    {entries : List (Name × Node)} {trailing : List Bytes}
    (empty : ∀ segment ∈ trailing, segment = [])
    {names : List Name} (named : ∀ name ∈ names, IsEntryName name) (nonempty : names ≠ [])
    (held : tree.at? (location ++ names) = some node) {place : Place}
    {here : Location} {before : List Bytes}
    (above : descendWithin tree .reading links here (before ++ trailing) =
      .ok (.directory location entries))
    (led : descendWithin tree .reading links here (before ++ names) = .ok place) :
    place.IsAt (location ++ names) node := by
  induction links generalizing here before with
  | zero =>
    exact place_of_descend_below empty named nonempty held (fun _ _ refused => by cases refused)
      above led
  | succ links ih =>
    exact place_of_descend_below empty named nonempty held (fun _ _ => ih) above led

end Below

/-- Below a directory that a path leads to, the path joined with names can only lead to the
node that stands under these names, unless that is a link. -/
theorem place_of_resolve_joinAll {disk : Disk} {root : Path} {location : Location}
    {entries : List (Name × Node)} {names : List Name} {node : Node} {place : Place}
    (above : disk.resolve .reading root = .ok (.directory location entries))
    (named : ∀ name ∈ names, IsEntryName name) (nonempty : names ≠ [])
    (held : disk.tree.at? (location ++ names) = some node)
    (led : disk.resolve .reading (root.joinAll names) = .ok place) :
    place.IsAt (location ++ names) node := by
  have spelled := bytes_ne_nil_of_resolve above
  obtain ⟨before, trailing, empty, alone, joined⟩ :=
    Path.segments_joinAll spelled named nonempty
  rw [resolve_eq (checkPath_of_resolve above), alone] at above
  rw [resolve_eq (checkPath_of_resolve led), joined, Path.isAbsolute_joinAll spelled] at led
  exact place_of_descendWithin_below empty named nonempty held above led

end Disk

end Redirect
