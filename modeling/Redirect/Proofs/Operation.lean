/-
# What a command does, and what it answers

Below every command lies an operation of the library: a run, the passes of some substitutions, or
a search, after the root, the configuration and the rules have been settled. The command does what
its operation does, whether it prints or keeps what it is told about, as long as telling goes well.
Its answer is built on top, and there is an answer only where every path in it is a text: that is
the one way in which a command fails although its operation has ended well.
-/

import Redirect.Proofs.NamedFiles
import Redirect.Proofs.Passes

namespace Redirect

open Json (under each texts)
open Redirect.Action (Alike Anything alike_pure alike_look)

namespace Command

/-- The operation of the library that a command asks for. It keeps the paths of the files that it
tells about, and gives those of the files that it has found. -/
def operation : Command → Action (List Path) (List Path)
  | .redirect path write config => do
    let root ← Action.look (root path)
    let configuration ← Action.look (configuration config)
    let redirector ← Action.look fun _ => Redirector.ofConfiguration configuration
    let report ← redirector.runWith root (.ofFlag write) fun file => keep file.path
    pure (report.files.map FileHits.path)
  | .substitute path pair write => do
    let root ← Action.look (root path)
    let pairs := match pair with
      | some pair => [pair]
      | none => Substitution.defaultPairs
    let substitutions ← Action.look fun _ => Substitution.ofPairs pairs
    let outcomes ← Substitution.passes root Substitution.defaultExtensions (.ofFlag write) keep
      substitutions
    pure (outcomes.flatMap SubstitutionOutcome.files)
  | .search path terms => do
    let root ← Action.look (root path)
    let needles := if terms.isEmpty then Substitution.defaultTerms else terms
    let results ← Action.look (·.search root Substitution.defaultExtensions needles)
    pure (results.flatMap SearchMatch.files)

/-- The texts where the data of a command names files. -/
def namedInData : Command → Json → List String
  | .redirect .. => under "files" (each (under "path" texts))
  | .substitute .. => under "rules" (each (under "files" (each texts)))
  | .search .. => under "matches" (each (under "files" (each texts)))

end Command

/-! ## Answers that name the files found -/

theorem Report.listsPaths_json? {report : Report} (own : ∀ file ∈ report.files, file.OwnLines)
    (root : Path) (ruleCount : Nat) :
    ListsPaths (under "files" (each (under "path" texts))) (report.json? root ruleCount)
      (report.files.map FileHits.path) :=
  (FileHits.listsPaths_listJson? own).built fun _ =>
    Json.under_of_member? (Json.member?_ofMembers _ _) _

theorem SubstitutionOutcome.listsPaths_json? (outcome : SubstitutionOutcome) :
    ListsPaths (under "files" (each texts)) outcome.json? outcome.files :=
  (Path.listsPaths_listJson? outcome.files).built fun _ =>
    Json.under_of_member? (Json.member?_ofMembers _ _) _

theorem SubstitutionOutcome.listsPaths_responseJson? (outcomes : List SubstitutionOutcome)
    (root : Path) (mode : Mode) :
    ListsPaths (under "rules" (each (under "files" (each texts))))
      (responseJson? outcomes root mode) (outcomes.flatMap SubstitutionOutcome.files) :=
  (listsPaths_mapM fun outcome _ => outcome.listsPaths_json?).built fun _ =>
    (Json.under_of_member? (Json.member?_ofMembers _ _) _).trans rfl

theorem SearchMatch.listsPaths_json? (found : SearchMatch) :
    ListsPaths (under "files" (each texts)) found.json? found.files :=
  (Path.listsPaths_listJson? found.files).built fun _ =>
    Json.under_of_member? (Json.member?_ofMembers _ _) _

theorem SearchMatch.listsPaths_responseJson? (results : List SearchMatch) (root : Path) :
    ListsPaths (under "matches" (each (under "files" (each texts)))) (responseJson? results root)
      (results.flatMap SearchMatch.files) :=
  (listsPaths_mapM fun found _ => found.listsPaths_json?).built fun _ =>
    (Json.under_of_member? (Json.member?_ofMembers _ _) _).trans rfl

namespace Command

variable {μ : Type} {memories : μ → List Path → Prop}

/-! ## Commands do what their operations do -/

/-- An answer belongs to the files that an operation has found. -/
def Answers (command : Command) (data : Option Json) (found : List Path) : Prop :=
  ListsPaths command.namedInData data found

theorem alike_redirecting {onFile : FileHits → Action μ Unit}
    (told : ∀ file, file.OwnLines → Alike Anything memories (onFile file) (keep file.path))
    (path config : Option String) (write : Bool) :
    Alike (redirect path write config).Answers memories
      (redirecting path config (.ofFlag write) onFile)
      (redirect path write config).operation := by
  refine (alike_look _).bind fun root _ same => ?_
  subst same
  refine (alike_look _).bind fun configuration _ same => ?_
  subst same
  refine (alike_look _).bind fun redirector _ same => ?_
  subst same
  refine (Redirector.alike_runWith told).bind fun report _ same => ?_
  obtain ⟨rfl, own⟩ := same
  exact alike_pure (Report.listsPaths_json? own root redirector.rules.length)

theorem alike_substituting {onFile : Path → Action μ Unit}
    (told : ∀ path, Alike Anything memories (onFile path) (keep path))
    (path : Option String) (pair : Option (String × String)) (write : Bool) :
    Alike (substitute path pair write).Answers memories
      (substituting path pair (.ofFlag write) onFile)
      (substitute path pair write).operation := by
  refine (alike_look _).bind fun root _ same => ?_
  subst same
  refine (alike_look _).bind fun substitutions _ same => ?_
  subst same
  refine (Substitution.alike_passes told substitutions).bind fun outcomes _ same => ?_
  subst same
  exact alike_pure (SubstitutionOutcome.listsPaths_responseJson? outcomes root (.ofFlag write))

theorem alike_searching {onMatch : SearchMatch → Action μ Unit}
    (silent : ∀ found, Alike Anything memories (onMatch found)
      (pure () : Action (List Path) Unit)) (path : Option String) (terms : List String) :
    Alike (search path terms).Answers memories (searching path terms onMatch)
      (search path terms).operation := by
  refine (alike_look _).bind fun root _ same => ?_
  subst same
  refine (alike_look _).bind fun results _ same => ?_
  subst same
  refine (silent_tellAll silent results).after_silent fun _ => ?_
  exact alike_pure (SearchMatch.listsPaths_responseJson? results root)

/-! ## Text form -/

/-- A console whose output works. What is kept elsewhere does not matter. -/
def Printing (console : Console) (_ : List Path) : Prop :=
  console.output = .working

theorem print_working {console : Console} (works : console.output = .working) (text : String) :
    console.print text = .ok ⟨.working, console.written ++ text⟩ := by
  obtain ⟨output, written⟩ := console
  cases works
  rw [Console.print]
  split
  · next empty => rw [String.isEmpty_iff.mp empty, String.append_empty]
  · rfl

theorem print_fresh (text : String) :
    (Console.fresh .working).print text = .ok ⟨.working, text⟩ := by
  rw [print_working rfl, Console.fresh, String.empty_append]

theorem alike_printText (text : String) (update : List Path → List Path) :
    Alike Anything Printing (printText text) (Action.remember update) := by
  intro disk console kept works
  have printed : printText text ⟨disk, console⟩ =
      .ok () ⟨disk, ⟨.working, console.written ++ text⟩⟩ := by
    simp only [printText, print_working works text]
  rw [printed]
  exact .ok disk trivial rfl

theorem alike_inText (command : Command) :
    Alike command.Answers Printing command.inText command.operation := by
  cases command with
  | redirect path write config =>
    exact alike_redirecting (fun _ _ => alike_printText _ _) path config write
  | substitute path pair write =>
    exact alike_substituting (fun _ => alike_printText _ _) path pair write
  | search path terms => exact alike_searching (fun _ => alike_printText _ id) path terms

end Command

/-! ## The exit status in text form -/

theorem Code.exitStatus_ne_zero (code : Code) : code.exitStatus ≠ 0 := by
  cases code <;> decide

namespace Outcome

/-- A command has ended well. -/
def Succeeded (outcome : Outcome) : Prop :=
  outcome.exitStatus = 0 ∧ outcome.stderr = ""

/-- A command has ended with a fault, and tells about it. -/
def FailedWith (outcome : Outcome) (fault : Fault) : Prop :=
  outcome.exitStatus = fault.exitStatus ∧ outcome.stderr = fault.notice.text

theorem FailedWith.not_succeeded {outcome : Outcome} {fault : Fault}
    (failed : outcome.FailedWith fault) : ¬outcome.Succeeded :=
  fun succeeded => fault.notice.code.exitStatus_ne_zero (failed.1.symm.trans succeeded.1)

end Outcome

namespace Command

variable {command : Command} {disk : Disk} {found : List Path} {after : World (List Path)}

/-- An operation that fails is the failure of its command. -/
theorem executeText_of_error {fault : Fault}
    (ended : command.operation ⟨disk, []⟩ = .error fault after) :
    (command.executeText disk .working).FailedWith fault ∧
      (command.executeText disk .working).disk = after.disk := by
  have agrees := command.alike_inText disk (.fresh .working) [] rfl
  rw [ended] at agrees
  rw [executeText]
  generalize command.inText ⟨disk, .fresh .working⟩ = result at agrees
  cases agrees with
  | error fault disk _ => exact ⟨⟨rfl, rfl⟩, rfl⟩

/-- An operation that ends well is the success of its command, unless a path that it has found is
no text. -/
theorem executeText_of_ok (ended : command.operation ⟨disk, []⟩ = .ok found after) :
    ((∀ path ∈ found, path.IsText) → (command.executeText disk .working).Succeeded) ∧
      ((∃ path ∈ found, ¬path.IsText) →
        (command.executeText disk .working).FailedWith .pathNotText) ∧
      (command.executeText disk .working).disk = after.disk := by
  have agrees := command.alike_inText disk (.fresh .working) [] rfl
  rw [ended] at agrees
  rw [executeText]
  generalize command.inText ⟨disk, .fresh .working⟩ = result at agrees
  -- The answer decides: it has a form in JSON or not, and text form looks at that, too.
  cases agrees with
  | @ok data _ disk _ _ answers _ =>
    have isSome_iff := answers.isSome_iff
    cases data with
    | none =>
      refine ⟨fun allTexts => ?_, fun _ => ⟨rfl, rfl⟩, rfl⟩
      exact absurd (isSome_iff.mpr allTexts) Bool.false_ne_true
    | some data =>
      refine ⟨fun _ => ⟨rfl, rfl⟩, ?_, rfl⟩
      rintro ⟨path, member, notText⟩
      exact absurd (isSome_iff.mp rfl path member) notText

/-- The exit status of a command in text form whose standard output works. It is zero, with
nothing on standard error, where the operation ends well and every path that it has found is a
text, and only there. A fault of the operation is the fault of the command. Where the operation
ends well with a path that is no text, the command fails because its answer has no form in JSON,
although nobody has asked for one; what the operation has written stays written. -/
theorem exitStatus_reflects_operation (command : Command) (disk : Disk) :
    let outcome := (Request.invoke ⟨false, command⟩).execute disk .working
    (outcome.exitStatus = 0 ∧ outcome.stderr = "" ↔
      ∃ found after, command.operation ⟨disk, []⟩ = .ok found after ∧
        ∀ path ∈ found, path.IsText) ∧
    ((∃ fault after, command.operation ⟨disk, []⟩ = .error fault after ∧
        outcome.exitStatus = fault.exitStatus ∧ outcome.stderr = fault.notice.text ∧
        outcome.disk = after.disk) ∨
      ∃ found after, command.operation ⟨disk, []⟩ = .ok found after ∧
        ((∃ path ∈ found, ¬path.IsText) →
          outcome.exitStatus = Fault.pathNotText.exitStatus ∧
            outcome.stderr = Fault.pathNotText.notice.text) ∧
        outcome.disk = after.disk) := by
  intro outcome
  cases ended : command.operation ⟨disk, []⟩ with
  | error fault after =>
    obtain ⟨failed, left⟩ := executeText_of_error ended
    refine ⟨⟨fun succeeded => absurd succeeded failed.not_succeeded, ?_⟩,
      .inl ⟨fault, after, rfl, failed.1, failed.2, left⟩⟩
    rintro ⟨found, after, went, -⟩
    cases went
  | ok found after =>
    obtain ⟨succeeds, fails, left⟩ := executeText_of_ok ended
    refine ⟨⟨fun succeeded => ⟨found, after, rfl, ?_⟩, ?_⟩,
      .inr ⟨found, after, rfl, fails, left⟩⟩
    · intro path member
      by_contra notText
      exact (fails ⟨path, member, notText⟩).not_succeeded succeeded
    · rintro ⟨found, after, went, allTexts⟩
      cases went
      exact succeeds allTexts

/-- A file whose name is no text: an octet that no character begins with, and an extension. -/
def unspellable : Name :=
  0xFF :: Utf8.encode ".lua"

/-- A directory with one file, whose name is no text. -/
def oneUnspellable (data : Bytes) : Disk where
  tree := .directory [(unspellable, .file data)]
  workingLocation := []

/-- A search goes well and finds the file, and yet the command fails. -/
theorem exitStatus_of_unspellable_name :
    ∃ after,
      (search (some ".") ["dict"]).operation ⟨oneUnspellable (Utf8.encode "x = dict(1)\n"), []⟩ =
        .ok [(Path.ofText ".").join unspellable] after ∧
      ((Request.invoke ⟨false, search (some ".") ["dict"]⟩).execute
        (oneUnspellable (Utf8.encode "x = dict(1)\n")) .working).exitStatus = 1 := by
  have went :
      (search (some ".") ["dict"]).operation ⟨oneUnspellable (Utf8.encode "x = dict(1)\n"), []⟩ =
        .ok [(Path.ofText ".").join unspellable]
          ⟨oneUnspellable (Utf8.encode "x = dict(1)\n"), []⟩ := by
    cbv
  have fails := (executeText_of_ok went).2.1
    ⟨(Path.ofText ".").join unspellable, List.mem_singleton_self _, by decide⟩
  exact ⟨_, went, fails.1⟩

end Command

end Redirect
