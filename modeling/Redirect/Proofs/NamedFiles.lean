/-
# The files that an answer names

An answer lists the files that a command has found by the exact texts of their paths. There is an
answer only where all these paths are texts, and reading the texts back from the places where the
command puts them gives the paths, in order.
-/

import Mathlib.Data.List.Induction
import Redirect.Proofs.Alike

namespace Redirect

/-- A text spells the path exactly. -/
def Path.IsText (path : Path) : Prop :=
  path.text?.isSome = true

instance (path : Path) : Decidable path.IsText :=
  inferInstanceAs (Decidable (path.text?.isSome = true))

/-- Texts spell paths, one after the other. -/
def Spell (texts : List String) (paths : List Path) : Prop :=
  texts.map some = paths.map Path.text?

theorem Spell.append {texts others : List String} {paths more : List Path}
    (spell : Spell texts paths) (spellMore : Spell others more) :
    Spell (texts ++ others) (paths ++ more) := by
  rw [Spell, List.map_append, List.map_append, spell, spellMore]

theorem Spell.mem {texts : List String} {paths : List Path} (spell : Spell texts paths)
    {path : Path} (member : path ∈ paths) : ∃ text ∈ texts, path.text? = some text := by
  have spelled : path.text? ∈ texts.map some := spell ▸ List.mem_map_of_mem member
  obtain ⟨text, isText, same⟩ := List.mem_map.mp spelled
  exact ⟨text, isText, same.symm⟩

/-! ## Reading values back -/

namespace Json

theorem lookup_cons_eq_ite (key : String) (value : Json) (rest : List (String × Json))
    (other : String) :
    ((key, value) :: rest).lookup other =
      if other = key then some value else rest.lookup other := by
  by_cases same : other = key
  · rw [if_pos same, same, List.lookup_cons_self]
  · rw [if_neg same, List.lookup_cons, beq_eq_false_iff_ne.mpr same]

theorem lookup_insertMember (key : String) (value : Json) (members : List (String × Json))
    (other : String) :
    (insertMember key value members).lookup other =
      if other = key then some value else members.lookup other := by
  induction members with
  | nil => exact lookup_cons_eq_ite key value [] other
  | cons member rest ih =>
    obtain ⟨name, held⟩ := member
    rw [insertMember]
    by_cases same : name = key
    · subst same
      rw [if_pos rfl, lookup_cons_eq_ite, lookup_cons_eq_ite]
      split <;> rfl
    · rw [if_neg same]
      split
      · rw [lookup_cons_eq_ite]
      · rw [lookup_cons_eq_ite, lookup_cons_eq_ite, ih]
        by_cases isName : other = name
        · subst isName
          rw [if_pos rfl, if_neg same, if_pos rfl]
        · rw [if_neg isName, if_neg isName]

/-- Of the members with a key the last one is found. -/
theorem member?_ofMembers (members : List (String × Json)) (key : String) :
    (ofMembers members).member? key = members.reverse.lookup key := by
  rw [ofMembers, member?]
  induction members using List.reverseRecOn with
  | nil => rfl
  | append_singleton members member ih =>
    rw [List.foldl_append, List.foldl_cons, List.foldl_nil, lookup_insertMember,
      List.reverse_append, List.reverse_singleton, List.singleton_append, lookup_cons_eq_ite, ih]

/-- The text that a string is. -/
def texts : Json → List String
  | .string text => [text]
  | _ => []

/-- What is read from the elements of an array, in order. -/
def each (read : Json → List String) : Json → List String
  | .array elements => elements.flatMap read
  | _ => []

/-- What is read from the member of an object. -/
def under (key : String) (read : Json → List String) (value : Json) : List String :=
  ((value.member? key).map read).getD []

theorem under_of_member? {key : String} {value found : Json}
    (member : value.member? key = some found) (read : Json → List String) : value.under key read = read found := by
  rw [under, member]
  rfl

end Json

open Json (under each texts)

/-- A value, if there is one, lists paths: there is one where all of them are texts and only there,
and the texts that are read from it spell them. -/
structure ListsPaths {β : Type} (read : β → List String) (value : Option β) (paths : List Path) :
    Prop where
  isSome_iff : value.isSome = true ↔ ∀ path ∈ paths, path.IsText
  spell : ∀ found, value = some found → Spell (read found) paths

/-- What is built from a value that lists paths lists them, where that value can be read back. -/
theorem ListsPaths.built {β γ : Type} {read : β → List String} {value : Option β}
    {paths : List Path} {outer : γ → List String} {build : β → γ}
    (lists : ListsPaths read value paths) (readBack : ∀ inner, outer (build inner) = read inner) :
    ListsPaths outer (value.bind fun inner => some (build inner)) paths := by
  constructor
  · rw [← lists.isSome_iff]
    cases value <;> rfl
  · intro found made
    obtain ⟨inner, isInner, same⟩ := Option.bind_eq_some_iff.mp made
    cases same
    rw [readBack]
    exact lists.spell inner isInner

/-! ## Lists of things that have a form in JSON -/

section Lists

variable {α : Type} {json? : α → Option Json} {read : Json → List String} {paths : α → List Path}
variable {things : List α}

theorem isSome_mapM_iff :
    (things.mapM json?).isSome = true ↔ ∀ thing ∈ things, (json? thing).isSome = true := by
  induction things with
  | nil => simp
  | cons thing rest ih =>
    rw [List.forall_mem_cons, ← ih, List.mapM_cons]
    cases json? thing with
    | none => simp
    | some element => cases rest.mapM json? <;> simp

theorem spell_flatMap_of_mapM
    (lists : ∀ thing ∈ things, ListsPaths read (json? thing) (paths thing))
    {elements : List Json} (made : things.mapM json? = some elements) :
    Spell (elements.flatMap read) (things.flatMap paths) := by
  induction things generalizing elements with
  | nil =>
    cases made
    rfl
  | cons thing rest ih =>
    rw [List.mapM_cons] at made
    obtain ⟨element, first, others⟩ := Option.bind_eq_some_iff.mp made
    obtain ⟨more, later, both⟩ := Option.bind_eq_some_iff.mp others
    cases both
    obtain ⟨listsThing, listsRest⟩ := List.forall_mem_cons.mp lists
    exact (listsThing.spell element first).append (ih listsRest later)

/-- Things that list paths list, one after the other, all of their paths. -/
theorem listsPaths_mapM (lists : ∀ thing ∈ things, ListsPaths read (json? thing) (paths thing)) :
    ListsPaths (List.flatMap read) (things.mapM json?) (things.flatMap paths) := by
  constructor
  · rw [isSome_mapM_iff, List.forall_mem_flatMap]
    exact forall₂_congr fun thing member => (lists thing member).isSome_iff
  · intro elements made
    exact spell_flatMap_of_mapM lists made

/-- So does the array of them. -/
theorem listsPaths_array (lists : ∀ thing ∈ things, ListsPaths read (json? thing) (paths thing)) :
    ListsPaths (each read) ((things.mapM json?).map Json.array) (things.flatMap paths) := by
  rw [Option.map_eq_bind]
  exact (listsPaths_mapM lists).built fun _ => rfl

end Lists

/-! ## Paths, and files with their redirected lines -/

theorem Path.listsPaths_json? (path : Path) : ListsPaths texts path.json? [path] := by
  constructor
  · rw [json?, Option.isSome_map, List.forall_mem_singleton, IsText]
  · intro json made
    obtain ⟨text, spelled, rfl⟩ := Option.map_eq_some_iff.mp made
    rw [Spell, List.map_singleton, spelled]
    rfl

theorem Path.listsPaths_listJson? (paths : List Path) :
    ListsPaths (each texts) (listJson? paths) paths := by
  have lists := listsPaths_array fun path (_ : path ∈ paths) => path.listsPaths_json?
  rw [List.flatMap_singleton'] at lists
  exact lists

theorem FileHits.listsPaths_json? {file : FileHits} (own : file.OwnLines) :
    ListsPaths (under "path" texts) file.json? [file.path] := by
  cases named : file.path.json? with
  | none =>
    have nothing : file.json? = none := by
      rw [json?, named]
      rfl
    have lists := file.path.listsPaths_json?
    rw [named] at lists
    rw [nothing]
    exact ⟨lists.isSome_iff, fun _ made => nomatch made⟩
  | some path =>
    have lines : (file.hits.mapM Hit.json?).isSome = true := by
      rw [isSome_mapM_iff]
      intro hit member
      rw [Hit.json?, own hit member, named]
      rfl
    obtain ⟨hits, made⟩ := Option.isSome_iff_exists.mp lines
    have built : file.json? = file.path.json?.bind fun path =>
        some (.ofMembers [("path", path), ("hits", .array hits)]) := by
      rw [json?, named, made]
      rfl
    rw [built]
    exact file.path.listsPaths_json?.built fun path =>
      Json.under_of_member? (Json.member?_ofMembers _ _) texts

theorem FileHits.listsPaths_listJson? {files : List FileHits}
    (own : ∀ file ∈ files, file.OwnLines) :
    ListsPaths (each (under "path" texts)) (listJson? files) (files.map FileHits.path) := by
  have lists := listsPaths_array fun file member => listsPaths_json? (own file member)
  rw [← List.map_eq_flatMap] at lists
  exact lists

end Redirect
