/-
# The files that an envelope names

In JSON form a command prints one envelope, after everything has been written. If its operation
has ended well, the data of the envelope name the files found; if not, the details of the error
name the files told about so far. In both cases these are paths to all files that were changed, and
in both cases one path that is no text is enough for none of them to be named.
-/

import Redirect.Proofs.Accounts

namespace Redirect

open Json (under each texts)
open Redirect.Action (Alike Anything alike_pure)

/-- Texts name paths as far as they can: all of them when they are texts, and none otherwise. -/
structure Names (names : List String) (paths : List Path) : Prop where
  all : (∀ path ∈ paths, path.IsText) → Spell names paths
  nothing : (∃ path ∈ paths, ¬path.IsText) → names = []

/-- What is read from a value that lists paths, or from nothing, names them. -/
theorem ListsPaths.names {read : Json → List String} {value : Option Json} {paths : List Path}
    (lists : ListsPaths read value paths) : Names ((value.map read).getD []) paths := by
  cases value with
  | none => exact ⟨fun allTexts => absurd (lists.isSome_iff.mpr allTexts) Bool.false_ne_true,
      fun _ => rfl⟩
  | some json =>
    refine ⟨fun _ => lists.spell json rfl, ?_⟩
    rintro ⟨path, member, notText⟩
    exact absurd (lists.isSome_iff.mp rfl path member) notText

theorem names_nil : Names [] [] :=
  ⟨fun _ => rfl, fun _ => rfl⟩

/-! ## Details of a failure -/

theorem Fault.member?_reportedFiles (fault : Fault) :
    fault.notice.details.member? "reportedFiles" = none := by
  cases fault <;> exact (Json.member?_ofMembers _ _).trans rfl

theorem Notice.member?_withDetail (key : String) (value : Json) (notice : Notice) :
    (notice.withDetail key value).details.member? key = some value := by
  rw [withDetail]
  split
  · exact (Json.lookup_insertMember key value _ key).trans (if_pos rfl)
  · exact List.lookup_cons_self

namespace Command

/-- Names of files, as the details of a failure list the files that were told about before. -/
def readReported : Command → Json → List String
  | .redirect .. => each (under "path" texts)
  | .substitute .. => each texts
  | .search .. => each texts

/-- The texts where an envelope names the files that were found. -/
def namedOnSuccess (command : Command) : Json → List String :=
  under "data" command.namedInData

/-- The texts where an envelope names the files that were told about before a failure. -/
def namedOnFailure (command : Command) : Json → List String :=
  under "error" (under "details" (under "reportedFiles" command.readReported))

theorem readReported_null (command : Command) : command.readReported .null = [] := by
  cases command <;> rfl

/-! ## Keeping what is told about -/

section Keeping

variable {α : Type} {pathOf : α → Path} {fine : α → Prop} {describe : List α → Option Json}
variable {command : Command} {things : List α} {told : List Path}

/-- Things were kept where an operation has kept paths. -/
def Keeping (pathOf : α → Path) (fine : α → Prop) (things : List α) (told : List Path) : Prop :=
  told = things.map pathOf ∧ ∀ thing ∈ things, fine thing

theorem alike_keep {thing : α} (isFine : fine thing) :
    Alike Anything (Keeping pathOf fine) (keep thing) (keep (pathOf thing)) := by
  intro disk things told kept
  obtain ⟨rfl, areFine⟩ := kept
  refine .ok disk trivial ⟨?_, ?_⟩
  · rw [List.map_append, List.map_singleton]
  · exact List.forall_mem_append.mpr ⟨areFine, List.forall_mem_singleton.mpr isFine⟩

/-- The notice of a fault names the things that were kept before it. -/
theorem names_noticeAfter (fault : Fault) (kept : Keeping pathOf fine things told)
    (lists : ListsPaths command.readReported (describe things) told) :
    Names (under "reportedFiles" command.readReported (noticeAfter fault things describe).details)
      told := by
  -- Only things that were kept become a detail, and no fault has a detail of that name itself.
  cases things with
  | nil =>
    have unreported : under "reportedFiles" command.readReported fault.notice.details = [] := by
      rw [under, fault.member?_reportedFiles]
      rfl
    rw [kept.1]
    exact unreported ▸ names_nil
  | cons first rest =>
    have reported := Json.under_of_member?
      (fault.notice.member?_withDetail "reportedFiles" ((describe (first :: rest)).getD .null))
      command.readReported
    have names := lists.names
    rw [noticeAfter, List.isEmpty_cons, if_neg Bool.false_ne_true, reported]
    cases described : describe (first :: rest) with
    | none =>
      rw [described] at names
      rw [Option.getD_none, command.readReported_null]
      exact names
    | some json =>
      rw [described] at names
      exact names

/-- A command in JSON form answers with what its action gives. -/
theorem respondKeeping_of_ok {action : Action (List α) (Option Json)} {disk : Disk}
    {found : List Path} {after : World (List Path)}
    (alike : Alike command.Answers (Keeping pathOf fine) action command.operation)
    (ended : command.operation ⟨disk, []⟩ = .ok found after) :
    ∃ data, command.Answers data found ∧
      respondKeeping action describe disk = (.ofData data, after.disk) := by
  have agrees := alike disk [] [] ⟨rfl, List.forall_mem_nil _⟩
  rw [ended] at agrees
  rw [respondKeeping]
  generalize action ⟨disk, []⟩ = result at agrees
  cases agrees with
  | @ok data _ disk _ _ answers _ => exact ⟨data, answers, rfl⟩

/-- A command in JSON form that fails names what it has kept. -/
theorem respondKeeping_of_error {action : Action (List α) (Option Json)} {disk : Disk}
    {fault : Fault} {after : World (List Path)}
    (alike : Alike command.Answers (Keeping pathOf fine) action command.operation)
    (describes : ∀ things, (∀ thing ∈ things, fine thing) →
      ListsPaths command.readReported (describe things) (things.map pathOf))
    (ended : command.operation ⟨disk, []⟩ = .error fault after) :
    ∃ notice, respondKeeping action describe disk = (.error notice, after.disk) ∧
      Names (under "reportedFiles" command.readReported notice.details) after.memory := by
  have agrees := alike disk [] [] ⟨rfl, List.forall_mem_nil _⟩
  rw [ended] at agrees
  rw [respondKeeping]
  generalize action ⟨disk, []⟩ = result at agrees
  cases agrees with
  | error fault disk kept =>
    refine ⟨_, rfl, names_noticeAfter fault kept ?_⟩
    rw [kept.1]
    exact describes _ kept.2

end Keeping

/-! ## Responses -/

variable {command : Command} {disk : Disk} {found : List Path} {after : World (List Path)}

theorem alike_redirecting_keep (path config : Option String) (write : Bool) :
    Alike (redirect path write config).Answers (Keeping FileHits.path FileHits.OwnLines)
      (redirecting path config (.ofFlag write) keep) (redirect path write config).operation :=
  alike_redirecting (fun _ own => alike_keep own) path config write

theorem alike_substituting_keep (path : Option String) (pair : Option (String × String))
    (write : Bool) :
    Alike (substitute path pair write).Answers (Keeping id fun _ => True)
      (substituting path pair (.ofFlag write) keep) (substitute path pair write).operation :=
  alike_substituting (fun path => @alike_keep _ id (fun _ => True) path trivial) path pair write

theorem alike_searching_pure (path : Option String) (terms : List String) :
    Alike (search path terms).Answers (Keeping id fun _ => True)
      (searching path terms fun _ => pure ()) (search path terms).operation :=
  alike_searching (fun _ => alike_pure trivial) path terms

/-- Where the operation ends well, the response is made from its answer. -/
theorem respond_of_ok (ended : command.operation ⟨disk, []⟩ = .ok found after) :
    ∃ data, command.Answers data found ∧
      command.respond disk = (.ofData data, after.disk) := by
  cases command with
  | redirect path write config =>
    exact respondKeeping_of_ok (alike_redirecting_keep path config write) ended
  | substitute path pair write =>
    exact respondKeeping_of_ok (alike_substituting_keep path pair write) ended
  | search path terms => exact respondKeeping_of_ok (alike_searching_pure path terms) ended

/-- Where the operation fails, the response names the paths that it has kept. -/
theorem respond_of_error {fault : Fault}
    (ended : command.operation ⟨disk, []⟩ = .error fault after) :
    ∃ notice, command.respond disk = (.error notice, after.disk) ∧
      Names (under "reportedFiles" command.readReported notice.details) after.memory := by
  have describes (paths : List Path) :
      ListsPaths (each texts) (Path.listJson? paths) (paths.map id) := by
    rw [List.map_id]
    exact Path.listsPaths_listJson? paths
  cases command with
  | redirect path write config =>
    exact respondKeeping_of_error (alike_redirecting_keep path config write)
      (fun _ own => FileHits.listsPaths_listJson? own) ended
  | substitute path pair write =>
    exact respondKeeping_of_error (alike_substituting_keep path pair write)
      (fun paths _ => describes paths) ended
  | search path terms =>
    exact respondKeeping_of_error (alike_searching_pure path terms)
      (fun paths _ => describes paths) ended

/-- What a command in JSON form prints where its output works. -/
theorem executeJson_working {response : Response} {left : Disk}
    (responded : command.respond disk = (response, left)) :
    (command.executeJson disk .working).stdout = response.envelope.pretty ++ "\n" ∧
      (command.executeJson disk .working).disk = left := by
  simp only [executeJson, responded, print_fresh, and_self]

/-- What an envelope names where the operation has ended well. -/
theorem executeJson_of_ok (ended : command.operation ⟨disk, []⟩ = .ok found after) :
    ∃ envelope : Json,
      (command.executeJson disk .working).stdout = envelope.pretty ++ "\n" ∧
      (command.executeJson disk .working).disk = after.disk ∧
      Names (command.namedOnSuccess envelope) found ∧ command.namedOnFailure envelope = [] := by
  obtain ⟨data, answers, responded⟩ := respond_of_ok ended
  obtain ⟨printed, left⟩ := executeJson_working responded
  refine ⟨_, printed, left, ?_⟩
  have names := answers.names
  cases data with
  | none => exact ⟨names, by cases command <;> rfl⟩
  | some data => exact ⟨names, rfl⟩

/-- What an envelope names where the operation has failed. -/
theorem executeJson_of_error {fault : Fault}
    (ended : command.operation ⟨disk, []⟩ = .error fault after) :
    ∃ envelope : Json,
      (command.executeJson disk .working).stdout = envelope.pretty ++ "\n" ∧
      (command.executeJson disk .working).disk = after.disk ∧
      Names (command.namedOnFailure envelope) after.memory := by
  obtain ⟨notice, responded, names⟩ := respond_of_error ended
  obtain ⟨printed, left⟩ := executeJson_working responded
  exact ⟨_, printed, left, names⟩

end Command

/-! ## Changes that an envelope tells -/

/-- Texts tell what has changed between two disks, as far as some paths can be told: where all of
these are texts, each changed file has a path that one of the texts spells, and where one of them
is none, there are no texts. -/
structure TellChanges (names : List String) (paths : List Path) (disk after : Disk) : Prop where
  named : (∀ path ∈ paths, path.IsText) → ∀ location, disk.Changed after location →
    ∃ text ∈ names, ∃ path, path.text? = some text ∧ disk.LeadsTo path location
  unnamed : (∃ path ∈ paths, ¬path.IsText) → names = []

theorem Names.tellChanges {names : List String} {paths : List Path} {disk after : Disk}
    (named : Names names paths) (accounts : disk.Accounts paths after) :
    TellChanges names paths disk after := by
  refine ⟨fun allTexts location changed => ?_, named.nothing⟩
  obtain ⟨path, member, leads⟩ := accounts.of_changed changed
  obtain ⟨text, isNamed, spelled⟩ := (named.all allTexts).mem member
  exact ⟨text, isNamed, path, spelled, leads⟩

namespace Command

/-- The envelope that a command in JSON form prints, where its standard output works, names every
file that the command has changed, if all the paths that are to be named are texts: in its data if
the operation has ended well, and in the details of its error, as a file told about before, if the
operation has failed. One path among them that is no text is enough for no file to be named at all,
whatever has been written. -/
theorem envelope_tells_changes {disk : Disk} (proper : disk.tree.Proper) (command : Command) :
    ∃ envelope : Json,
      let outcome := (Request.invoke ⟨true, command⟩).execute disk .working
      outcome.stdout = envelope.pretty ++ "\n" ∧
      ((∃ found after, command.operation ⟨disk, []⟩ = .ok found after ∧
          outcome.disk = after.disk ∧ command.namedOnFailure envelope = [] ∧
          TellChanges (command.namedOnSuccess envelope) found disk outcome.disk) ∨
        ∃ fault after, command.operation ⟨disk, []⟩ = .error fault after ∧
          outcome.disk = after.disk ∧
          TellChanges (command.namedOnFailure envelope) after.memory disk outcome.disk) := by
  have accounted := command.accountable_operation disk [] proper
  cases ended : command.operation ⟨disk, []⟩ with
  | ok found world =>
    rw [ended] at accounted
    cases accounted with
    | ok accounts _ within =>
      obtain ⟨envelope, printed, left, names, noFailure⟩ := executeJson_of_ok ended
      refine ⟨envelope, printed, .inl ⟨found, _, rfl, left, noFailure, ?_⟩⟩
      exact left ▸ names.tellChanges (accounts.mono within)
  | error fault world =>
    rw [ended] at accounted
    cases accounted with
    | error accounts kept =>
      obtain ⟨envelope, printed, left, names⟩ := executeJson_of_error ended
      refine ⟨envelope, printed, .inr ⟨fault, _, rfl, left, ?_⟩⟩
      rw [List.nil_append] at kept
      exact left ▸ names.tellChanges (kept ▸ accounts)

/-- A second file that holds no text ends the run, and the first one, which has been written, is
named. -/
theorem envelope_tells_changes_threeFiles :
    ∃ envelope : Json,
      ((Request.invoke ⟨true, substitute (some ".") (some ("aa", "b")) true⟩).execute
        (Substitution.threeFiles (Utf8.encode "aaa") [0xFF]) .working).stdout =
          envelope.pretty ++ "\n" ∧
      ∃ text ∈ (substitute (some ".") (some ("aa", "b")) true).namedOnFailure envelope,
        ∃ path, path.text? = some text ∧
          (Substitution.threeFiles (Utf8.encode "aaa") [0xFF]).LeadsTo path
            [Utf8.encode "a.lua"] := by
  have ended :
      (substitute (some ".") (some ("aa", "b")) true).operation
          ⟨Substitution.threeFiles (Utf8.encode "aaa") [0xFF], []⟩ =
        .error (.notText (.ofText "./b.tml") (.invalid 0 1))
          ⟨Substitution.threeFiles (Utf8.encode "ba") [0xFF], [.ofText "./a.lua"]⟩ := by
    cbv
  obtain ⟨envelope, printed, ⟨found, after, went, -⟩ | ⟨fault, after, failed, left, tells⟩⟩ :=
    envelope_tells_changes (Substitution.proper_threeFiles (Utf8.encode "aaa") [0xFF])
      (substitute (some ".") (some ("aa", "b")) true)
  · rw [ended] at went
    cases went
  · rw [ended] at failed
    cases failed
    have changed : (Substitution.threeFiles (Utf8.encode "aaa") [0xFF]).Changed
        (Substitution.threeFiles (Utf8.encode "ba") [0xFF]) [Utf8.encode "a.lua"] :=
      Disk.changed_of_at? rfl rfl (by decide)
    exact ⟨envelope, printed, tells.named (by decide) _ (left.symm ▸ changed)⟩

/-- A directory with two files, of which the second one has a name that is no text. -/
def besideUnspellable (data : Bytes) : Disk where
  tree := .directory [(Utf8.encode "a.lua", .file data), (unspellable, .file data)]
  workingLocation := []

/-- A pass goes well and changes two files, and the envelope names neither, although the name of the
first one is a text. -/
theorem envelope_names_nothing_beside_unspellable :
    ∃ envelope : Json,
      let command := substitute (some ".") (some ("a", "b")) true
      let outcome := (Request.invoke ⟨true, command⟩).execute
        (besideUnspellable (Utf8.encode "a\n")) .working
      outcome.stdout = envelope.pretty ++ "\n" ∧
      (∃ found after, command.operation ⟨besideUnspellable (Utf8.encode "a\n"), []⟩ =
        .ok found after) ∧
      (besideUnspellable (Utf8.encode "a\n")).Changed outcome.disk [Utf8.encode "a.lua"] ∧
      command.namedOnSuccess envelope = [] ∧ command.namedOnFailure envelope = [] := by
  have went :
      (substitute (some ".") (some ("a", "b")) true).operation
          ⟨besideUnspellable (Utf8.encode "a\n"), []⟩ =
        .ok [.ofText "./a.lua", (Path.ofText ".").join unspellable]
          ⟨besideUnspellable (Utf8.encode "b\n"),
            [.ofText "./a.lua", (Path.ofText ".").join unspellable]⟩ := by
    cbv
  have changed : (besideUnspellable (Utf8.encode "a\n")).Changed
      (besideUnspellable (Utf8.encode "b\n")) [Utf8.encode "a.lua"] :=
    Disk.changed_of_at? rfl rfl (by decide)
  obtain ⟨envelope, printed, left, names, noFailure⟩ := executeJson_of_ok went
  exact ⟨envelope, printed, ⟨_, _, went⟩, left.symm ▸ changed, names.nothing (by decide),
    noFailure⟩

end Command

end Redirect
