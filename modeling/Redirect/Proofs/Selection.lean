/-
# What selection depends on

Whether a file is selected depends on the names below the root alone: on the name of the file and on
the names of the directories on the way to it. How the root and the path are spelled does not count,
nor does what the root goes through. An extension is what follows the last dot of the name, unless
nothing stands before that dot, and it counts only when it is a text; names are compared as people
read them, and whole.
-/

import Redirect.Selector
import Redirect.Proofs.Encoding
import Redirect.Proofs.PathsBelow

namespace Redirect

namespace Path

/-! ## Extensions -/

/-- An extension of a name: it follows the last dot, and something stands before that dot. -/
def IsExtensionOf (extension : Bytes) (name : Name) : Prop :=
  ∃ stem, stem ≠ [] ∧ dot ∉ extension ∧ name = stem ++ dot :: extension

theorem extensionOf?_eq_some_iff (name extension : Bytes) :
    extensionOf? name = some extension ↔ IsExtensionOf extension name := by
  have isOther (b : UInt8) : (b != dot) = true ↔ b ≠ dot := bne_iff_ne
  constructor
  · intro found
    rw [extensionOf?] at found
    split_ifs at found with longer
    cases found
    have whole := List.takeWhile_append_dropWhile (p := (· != dot)) (l := name.reverse)
    have size := congrArg List.length whole
    rw [List.length_append, List.length_reverse] at size
    rw [List.length_reverse] at longer
    -- The name goes on before its extension with a dot and then with something else.
    cases before : name.reverse.dropWhile (· != dot) with
    | nil =>
      rw [before, List.length_nil] at size
      omega
    | cons b stem =>
      rw [before, List.length_cons] at size
      have isDot : b = dot := by
        have stops := List.head?_dropWhile_not (· != dot) name.reverse
        rw [before, List.head?_cons] at stops
        simpa using stops
      subst isDot
      refine ⟨stem.reverse, ?_, ?_, ?_⟩
      · rw [ne_eq, List.reverse_eq_nil_iff, ← List.length_eq_zero_iff]
        omega
      · intro member
        have other := List.all_eq_true.mp List.all_takeWhile dot (List.mem_reverse.mp member)
        rw [isOther] at other
        exact other rfl
      · rw [before] at whole
        apply (List.reverse_eq_iff.mp whole.symm).trans
        rw [List.reverse_append, List.reverse_cons, List.append_assoc]
        rfl
  · rintro ⟨stem, filled, undotted, rfl⟩
    have others : ∀ b ∈ extension.reverse, (b != dot) = true := fun b member =>
      (isOther b).mpr fun isDot => undotted (isDot ▸ List.mem_reverse.mp member)
    have after : (stem ++ dot :: extension).reverse.takeWhile (· != dot) = extension.reverse := by
      rw [List.reverse_append, List.reverse_cons, List.append_assoc, List.singleton_append,
        List.takeWhile_append_of_pos others, List.takeWhile_cons_of_neg (by simp),
        List.append_nil]
    have size := List.length_pos_of_ne_nil filled
    rw [extensionOf?, after, List.reverse_reverse, if_pos]
    rw [List.length_append, List.length_cons]
    omega

/-! ## Paths made of names -/

/-- The segments of a path that is made of names begin with no dot, and give its components. -/
theorem exists_segments_of_normal {path : Path} {names : List Name}
    (normal : path.components = names.map .normal) :
    ∃ first others, path.segments = first :: others ∧ first ≠ [dot] ∧
      path.segments.filterMap componentOf? = names.map .normal := by
  rw [components] at normal
  split_ifs at normal
  · cases names <;> cases normal
  · cases divided : path.segments with
    | nil => exact absurd divided (foldr_pushSegment_ne_nil path.bytes)
    | cons first others =>
      simp only [divided] at normal
      split_ifs at normal with isDot
      · cases names <;> cases normal
      · exact ⟨first, others, rfl, by simpa using isDot, normal⟩

/-- A path made of names adds its own components to those of any path it is joined to. -/
theorem components_join (root : Path) {path : Path} {names : List Name}
    (normal : path.components = names.map .normal) :
    (root.join path.bytes).components = root.components ++ names.map .normal := by
  by_cases spelled : root.bytes = []
  · obtain ⟨bytes⟩ := root
    cases spelled
    exact normal
  · obtain ⟨first, others, begins, notDot, named⟩ := exists_segments_of_normal normal
    obtain ⟨before, trailing, empty, alone, behind⟩ := segments_join spelled path.bytes
    rw [← named]
    exact components_append empty alone behind (isAbsolute_join spelled _) begins notDot

section Behind

variable {root path : Path} {above : List Component} {directories : List Name} {name : Name}

/-- A path that ends in a name ends in its file name. -/
theorem fileName?_of_components (ends : path.components = above ++ [.normal name]) :
    path.fileName? = some name := by
  rw [fileName?, ends, List.getLast?_append]
  rfl

theorem directoriesBelow_of_components
    (below : path.components = root.components ++ (directories ++ [name]).map .normal) :
    root.directoriesBelow path = directories := by
  have cut : componentsBelow root path = (directories ++ [name]).map .normal := by
    rw [componentsBelow, List.isPrefixOf?_eq_some_iff_append_eq.mpr below.symm, Option.getD_some]
  rw [directoriesBelow, cut, List.map_append, List.map_singleton, List.dropLast_concat,
    List.filterMap_map]
  exact List.filterMap_some

end Behind

end Path

namespace Selector

variable {selector : Selector}

/-- A file is admitted by its name and the names of the directories on the way to it: its extension
is a listed text, its name is not excluded as people read it, and neither is that of a directory. -/
structure Admits (selector : Selector) (directories : List Name) (name : Name) : Prop where
  listed : ∃ extension ∈ selector.extensions, Path.IsExtensionOf (Utf8.encode extension) name
  named : Utf8.decodeLossy name ∉ selector.excludedNames
  outside : ∀ directory ∈ directories, Utf8.decodeLossy directory ∉ selector.excludedSegments

/-- The extension of a file name is listed when it is a text that is. -/
theorem hasExtension_iff {path : Path} {name : Name} (isName : path.fileName? = some name)
    (extensions : List String) :
    hasExtension extensions path = true ↔
      ∃ extension ∈ extensions, Path.IsExtensionOf (Utf8.encode extension) name := by
  have isText (text : String) :
      path.extensionText? = some text ↔ Path.IsExtensionOf (Utf8.encode text) name := by
    rw [Path.extensionText?, Path.extension?, isName, Option.bind_some, Option.bind_eq_some_iff]
    simp only [Path.extensionOf?_eq_some_iff, Utf8.decode?_eq_some_iff]
    constructor
    · rintro ⟨extension, isExtension, rfl⟩
      exact isExtension
    · exact fun isExtension => ⟨_, isExtension, rfl⟩
  rw [hasExtension, Option.any_eq_true]
  simp only [isText, List.contains_iff_mem]
  exact exists_congr fun _ => And.comm

theorem selects_iff {root path : Path} {directories : List Name} {name : Name}
    (below : path.components = root.components ++ (directories ++ [name]).map .normal) :
    selector.selects root path = true ↔ selector.Admits directories name := by
  have isName : path.fileName? = some name := by
    rw [List.map_append, List.map_singleton, ← List.append_assoc] at below
    exact Path.fileName?_of_components below
  have shown : shownName path = Utf8.decodeLossy name := by
    rw [shownName, isName]
    rfl
  rw [selects, Bool.and_eq_true, Bool.and_eq_true, hasExtension_iff isName, shown,
    Path.directoriesBelow_of_components below]
  simp only [Bool.not_eq_true', List.contains_eq_mem, decide_eq_false_iff_not, List.any_eq_false,
    Bool.not_eq_true]
  constructor
  · rintro ⟨⟨listed, named⟩, outside⟩
    exact ⟨listed, named, outside⟩
  · rintro ⟨listed, named, outside⟩
    exact ⟨⟨listed, named⟩, outside⟩

/-- Selection looks at components only. -/
theorem selects_congr {root other path otherPath : Path}
    (sameRoot : root.components = other.components)
    (samePath : path.components = otherPath.components) :
    selector.selects root path = selector.selects other otherPath := by
  have sameName : path.fileName? = otherPath.fileName? := by
    rw [Path.fileName?, Path.fileName?, samePath]
  rw [selects, selects, hasExtension, hasExtension, Path.extensionText?, Path.extensionText?,
    Path.extension?, Path.extension?, shownName, shownName, sameName, Path.directoriesBelow,
    Path.directoriesBelow, Path.componentsBelow, Path.componentsBelow, sameRoot, samePath]

/-- A file found below a root is selected exactly when its name and the names of the directories on
the way to it admit it: no root, and no spelling of the path, makes a difference. More than that,
selection is the same for all spellings of a root and a path with the same components. -/
theorem selects_by_names_below (selector : Selector) :
    (∀ (root path : Path) (directories : List Name) (name : Name),
      path.components = (directories ++ [name]).map .normal →
        (selector.selects root (root.join path.bytes) = true ↔
          selector.Admits directories name)) ∧
    (∀ (root other path : Path) (names : List Name), names ≠ [] →
      path.components = names.map .normal →
        selector.selects root (root.join path.bytes) =
          selector.selects other (other.join path.bytes)) ∧
    ∀ root other path otherPath : Path, root.components = other.components →
      path.components = otherPath.components →
        selector.selects root path = selector.selects other otherPath := by
  have admitted {path : Path} {directories : List Name} {name : Name} (root : Path)
      (normal : path.components = (directories ++ [name]).map .normal) :
      selector.selects root (root.join path.bytes) = true ↔ selector.Admits directories name :=
    selects_iff (Path.components_join root normal)
  refine ⟨fun root _ _ _ => admitted root, fun root other path names filled normal => ?_,
    fun _ _ _ _ => selects_congr⟩
  rw [← List.dropLast_append_getLast filled] at normal
  rw [Bool.eq_iff_iff, admitted root normal, admitted other normal]

/-- Below a root that goes through an excluded directory, a directory whose name is no text and a
dot in the middle of the file name do no harm; a directory that is excluded below the root does. -/
theorem selects_by_names_below_bak :
    let selector : Selector := ⟨["lua"], ["urls.lua"], ["bak"]⟩
    let root : Path := .ofText "bak/..//bak/"
    selector.selects root (root.join (0xFF :: Utf8.encode "/./a.b.lua//")) = true ∧
      selector.selects root (root.join (Utf8.encode "bak/a.b.lua")) = false := by
  intro selector root
  obtain ⟨admitted, -, -⟩ := selects_by_names_below selector
  constructor
  · refine (admitted root ⟨_⟩ [[0xFF]] (Utf8.encode "a.b.lua") (by decide)).mpr ⟨?_, ?_, ?_⟩
    · exact ⟨"lua", List.mem_cons_self, Utf8.encode "a.b", by decide, by decide, rfl⟩
    · decide
    · decide
  · rw [← Bool.not_eq_true,
      admitted root ⟨_⟩ [Utf8.encode "bak"] (Utf8.encode "a.b.lua") (by decide)]
    intro admits
    exact admits.outside _ List.mem_cons_self (by decide)

end Selector

end Redirect
