/-
# Texts that found files hold

A found file that can be read is read as what the walk has found, and as a text if that spells
one. Where files stand apart, data that is made for each of them and listed by its location
reaches the file that it was made for. If such data spells texts, files that held texts hold
texts after they were overwritten.
-/

import Redirect.Proofs.Finding

namespace Redirect

namespace Disk

/-- A found file that can be read holds what the walk has found. -/
theorem Finds.read_eq {disk : Disk} {files : List FoundFile} (finds : disk.Finds files)
    {file : FoundFile} (member : file ∈ files) (readable : (disk.read file.path).isOk) :
    disk.read file.path = .ok file.data := by
  cases got : disk.read file.path with
  | error error =>
    rw [got] at readable
    cases readable
  | ok data =>
    obtain ⟨location, led⟩ := resolve_of_read got
    have place := finds.leads file member _ led
    cases place
    rfl

theorem readText_of_decode {disk : Disk} {path : Path} {data : Bytes}
    (got : disk.read path = .ok data) {text : String} (held : Utf8.decode data = .ok text) :
    disk.readText path = .ok text := by
  simp only [readText, got, held]

theorem readText_of_decode_error {disk : Disk} {path : Path} {data : Bytes}
    (got : disk.read path = .ok data) {defect : Utf8.Defect}
    (broken : Utf8.decode data = .error defect) :
    disk.readText path = .error (.notText path defect) := by
  simp only [readText, got, broken]

theorem exists_read_of_readText {disk : Disk} {path : Path} {text : String}
    (held : disk.readText path = .ok text) : ∃ data, disk.read path = .ok data := by
  rw [readText] at held
  cases got : disk.read path with
  | error error =>
    rw [got] at held
    cases held
  | ok data => exact ⟨data, rfl⟩

theorem isOk_read_of_readText {disk : Disk} {path : Path} {text : String}
    (held : disk.readText path = .ok text) : (disk.read path).isOk := by
  obtain ⟨data, got⟩ := exists_read_of_readText held
  rw [got]
  rfl

/-- A found file that was read as a text holds this text. -/
theorem Finds.decode_of_readText {disk : Disk} {files : List FoundFile}
    (finds : disk.Finds files) {file : FoundFile} (member : file ∈ files) {text : String}
    (held : disk.readText file.path = .ok text) : Utf8.decode file.data = .ok text := by
  have got := finds.read_eq member (isOk_read_of_readText held)
  cases decoded : Utf8.decode file.data with
  | error defect =>
    rw [readText_of_decode_error got decoded] at held
    cases held
  | ok found =>
    rw [readText_of_decode got decoded] at held
    cases held
    rfl

theorem Finds.isText_of_readText {disk : Disk} {files : List FoundFile}
    (finds : disk.Finds files) {file : FoundFile} (member : file ∈ files) {text : String}
    (held : disk.readText file.path = .ok text) :
    (disk.read file.path).isOk ∧ (Utf8.decode file.data).isOk := by
  refine ⟨isOk_read_of_readText held, ?_⟩
  rw [finds.decode_of_readText member held]
  rfl

theorem Finds.exists_readText_error {disk : Disk} {files : List FoundFile}
    (finds : disk.Finds files) {file : FoundFile} (member : file ∈ files)
    (fails : ((disk.read file.path).isOk && (Utf8.decode file.data).isOk) = false) :
    ∃ fault, disk.readText file.path = .error fault := by
  cases got : disk.read file.path with
  | error error => exact ⟨.unreadable file.path error, by rw [readText, got]⟩
  | ok data =>
    have readable : (disk.read file.path).isOk := by
      rw [got]
      rfl
    cases held : Utf8.decode file.data with
    | error defect => exact ⟨_, readText_of_decode_error (finds.read_eq member readable) held⟩
    | ok text =>
      rw [readable, held] at fails
      cases fails

/-- Every one of some files can be read and holds a text. -/
def HoldsTexts (disk : Disk) (files : List FoundFile) : Prop :=
  ∀ file ∈ files, (disk.read file.path).isOk ∧ (Utf8.decode file.data).isOk

theorem HoldsTexts.readText_eq {disk : Disk} {files : List FoundFile}
    (texts : disk.HoldsTexts files) {found : List FoundFile} (finds : disk.Finds found)
    {file : FoundFile} (member : file ∈ files) (isFound : file ∈ found) :
    ∃ text, disk.readText file.path = .ok text ∧ Utf8.decode file.data = .ok text := by
  obtain ⟨readable, decodes⟩ := texts file member
  have got := finds.read_eq isFound readable
  cases held : Utf8.decode file.data with
  | error defect =>
    rw [held] at decodes
    cases decodes
  | ok text => exact ⟨text, readText_of_decode got held, rfl⟩

theorem isOk_read_overwrite (disk : Disk) (changes : List (Location × Bytes)) (path : Path) :
    ((disk.overwrite changes).read path).isOk = (disk.read path).isOk := by
  rw [read, read, resolve_overwrite]
  cases disk.resolve .reading path with
  | error error => rfl
  | ok place =>
    cases place with
    | file location data => rfl
    | directory location entries => rfl
    | vacant location => rfl

end Disk

/-! ## Data made for files -/

/-- The data that a function makes for some files, by their locations. -/
def changesBy (make : FoundFile → Option Bytes) (files : List FoundFile) :
    List (Location × Bytes) :=
  files.filterMap fun file => (make file).map fun data => (file.location, data)

variable {make : FoundFile → Option Bytes} {file : FoundFile}

@[simp]
theorem changesBy_nil (make : FoundFile → Option Bytes) : changesBy make [] = [] :=
  rfl

theorem changesBy_cons_of_none (nothing : make file = none) (files : List FoundFile) :
    changesBy make (file :: files) = changesBy make files := by
  rw [changesBy, List.filterMap_cons, nothing]
  rfl

theorem changesBy_cons_of_some {data : Bytes} (made : make file = some data)
    (files : List FoundFile) :
    changesBy make (file :: files) = (file.location, data) :: changesBy make files := by
  rw [changesBy, List.filterMap_cons, made]
  rfl

@[simp]
theorem changesBy_append (make : FoundFile → Option Bytes) (files others : List FoundFile) :
    changesBy make (files ++ others) = changesBy make files ++ changesBy make others :=
  List.filterMap_append

theorem changesBy_eq_nil_iff (files : List FoundFile) :
    changesBy make files = [] ↔ ∀ file ∈ files, make file = none := by
  rw [changesBy, List.filterMap_eq_nil_iff]
  simp only [Option.map_eq_none_iff]

theorem lookup_changesBy_of_not_mem (make : FoundFile → Option Bytes) {files : List FoundFile}
    {location : Location} (absent : location ∉ files.map FoundFile.location) :
    (changesBy make files).lookup location = none := by
  induction files with
  | nil => rfl
  | cons file files ih =>
    obtain ⟨different, others⟩ := List.ne_and_not_mem_of_not_mem_cons absent
    cases made : make file with
    | none => rw [changesBy_cons_of_none made, ih others]
    | some data =>
      rw [changesBy_cons_of_some made, List.lookup_cons, beq_eq_false_iff_ne.mpr different,
        ih others]

/-- Where files stand apart, each of them gets the data that was made for it. -/
theorem lookup_changesBy (make : FoundFile → Option Bytes) {files : List FoundFile}
    (apart : (files.map FoundFile.location).Nodup) (member : file ∈ files) :
    (changesBy make files).lookup file.location = make file := by
  induction files with
  | nil => cases member
  | cons first files ih =>
    obtain ⟨fresh, apartRest⟩ := List.nodup_cons.mp apart
    rcases List.mem_cons.mp member with rfl | member
    · cases made : make file with
      | none => rw [changesBy_cons_of_none made, lookup_changesBy_of_not_mem make fresh]
      | some data => rw [changesBy_cons_of_some made, List.lookup_cons_self]
    · have different : file.location ≠ first.location := by
        intro same
        exact fresh (same ▸ List.mem_map_of_mem member)
      cases made : make first with
      | none => rw [changesBy_cons_of_none made, ih apartRest member]
      | some data =>
        rw [changesBy_cons_of_some made, List.lookup_cons, beq_eq_false_iff_ne.mpr different,
          ih apartRest member]

/-- Files that hold texts hold texts after they were overwritten with data that spells texts. -/
theorem Disk.HoldsTexts.overwrite {disk : Disk} {files : List FoundFile}
    (texts : disk.HoldsTexts files) (apart : (files.map FoundFile.location).Nodup)
    (spells : ∀ file ∈ files, ∀ data ∈ make file, (Utf8.decode data).isOk) :
    (disk.overwrite (changesBy make files)).HoldsTexts
      (files.map (FoundFile.overwrite (changesBy make files))) := by
  intro file member
  obtain ⟨before, isBefore, rfl⟩ := List.mem_map.mp member
  obtain ⟨readable, decodes⟩ := texts before isBefore
  refine ⟨?_, ?_⟩
  · rw [isOk_read_overwrite]
    exact readable
  · rw [FoundFile.overwrite, lookup_changesBy make apart isBefore]
    cases made : make before with
    | none => exact decodes
    | some data => exact spells before isBefore data made

end Redirect
