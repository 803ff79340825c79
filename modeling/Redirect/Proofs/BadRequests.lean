/-
# Requests that are refused

Exit status two says that a request was wrong. Everything that can be wrong with a request is
noticed before a command has told about its first file: once it is at work below its root, only
operational faults can end it, and these have another status. A configuration is wrong where a rule
in it, at whatever place, has a pattern that is no identifier; the first such pattern is named.
-/

import Redirect.Proofs.Refusals
import Redirect.Proofs.TwoForms

namespace Redirect

open Redirect.Action (Alike Ends)

/-! ## Identifiers -/

/-- A letter from `a` to `z` or from `A` to `Z`, or an underscore. -/
def BeginsName (c : Char) : Prop :=
  'a' ≤ c ∧ c ≤ 'z' ∨ 'A' ≤ c ∧ c ≤ 'Z' ∨ c = '_'

/-- The same, or a digit from `0` to `9`. -/
def ContinuesName (c : Char) : Prop :=
  BeginsName c ∨ '0' ≤ c ∧ c ≤ '9'

/-- One character that begins a name, and then any number of characters that continue it. -/
def IsName (text : String) : Prop :=
  ∃ first rest, text.toList = first :: rest ∧ BeginsName first ∧ ∀ c ∈ rest, ContinuesName c

theorem isIdentifierStart_iff (c : Char) : Text.isIdentifierStart c = true ↔ BeginsName c := by
  simp only [Text.isIdentifierStart, Char.isAlpha, Char.isUpper, Char.isLower, Bool.or_eq_true,
    Bool.and_eq_true, decide_eq_true_eq, beq_iff_eq, BeginsName, Char.le_def]
  tauto

theorem isIdentifierPart_iff (c : Char) : Text.isIdentifierPart c = true ↔ ContinuesName c := by
  simp only [Text.isIdentifierPart, Char.isAlphanum, Char.isAlpha, Char.isUpper, Char.isLower,
    Char.isDigit, Bool.or_eq_true, Bool.and_eq_true, decide_eq_true_eq, beq_iff_eq, BeginsName,
    ContinuesName, Char.le_def]
  tauto

theorem isIdentifier_iff (text : String) :
    Text.isIdentifier text.toList = true ↔ IsName text := by
  rw [IsName]
  cases text.toList with
  | nil => simp [Text.isIdentifier]
  | cons first rest =>
    simp [Text.isIdentifier, isIdentifierStart_iff, isIdentifierPart_iff]

/-! ## Rules -/

namespace Rule

theorem make_of_isName {pattern : String} (isName : IsName pattern) (replacement : String) :
    make pattern replacement = .ok ⟨pattern, replacement, (isIdentifier_iff pattern).mpr isName⟩ :=
  dif_pos _

theorem make_of_not_isName {pattern : String} (noName : ¬IsName pattern) (replacement : String) :
    make pattern replacement = .error (.invalidPattern pattern) :=
  dif_neg fun isIdentifier => noName ((isIdentifier_iff pattern).mp isIdentifier)

/-- Patterns that are all identifiers are accepted. -/
theorem exists_ofPairs {pairs : List (String × String)} (areNames : ∀ pair ∈ pairs, IsName pair.1) :
    ∃ rules, ofPairs pairs = .ok rules ∧
      rules.map (fun rule => (rule.pattern, rule.replacement)) = pairs := by
  induction pairs with
  | nil => exact ⟨[], rfl, rfl⟩
  | cons pair rest ih =>
    obtain ⟨isName, restNames⟩ := List.forall_mem_cons.mp areNames
    obtain ⟨rules, made, same⟩ := ih restNames
    refine ⟨⟨pair.1, pair.2, (isIdentifier_iff pair.1).mpr isName⟩ :: rules, ?_, ?_⟩
    · rw [ofPairs, make_of_isName isName, made]
      rfl
    · rw [List.map_cons, same]

/-- The first pattern that is no identifier is refused. -/
theorem ofPairs_of_first {before after : List (String × String)} {bad : String × String}
    (areNames : ∀ pair ∈ before, IsName pair.1) (noName : ¬IsName bad.1) :
    ofPairs (before ++ bad :: after) = .error (.invalidPattern bad.1) := by
  induction before with
  | nil =>
    rw [List.nil_append, ofPairs, make_of_not_isName noName]
    rfl
  | cons pair rest ih =>
    obtain ⟨isName, restNames⟩ := List.forall_mem_cons.mp areNames
    rw [List.cons_append, ofPairs, make_of_isName isName, ih restNames]
    rfl

end Rule

/-- Where something fails a test, there is a first thing that fails it. -/
theorem exists_first_not {α : Type} (passes : α → Prop) {things : List α} {thing : α}
    (member : thing ∈ things) (fails : ¬passes thing) :
    ∃ before bad after, things = before ++ bad :: after ∧ (∀ other ∈ before, passes other) ∧
      ¬passes bad := by
  induction things with
  | nil => cases member
  | cons first rest ih =>
    by_cases good : passes first
    · have later : thing ∈ rest := by
        rcases List.mem_cons.mp member with rfl | later
        · exact absurd good fails
        · exact later
      obtain ⟨before, bad, after, rfl, areGood, isBad⟩ := ih later
      exact ⟨first :: before, bad, after, rfl, List.forall_mem_cons.mpr ⟨good, areGood⟩, isBad⟩
    · exact ⟨[], first, rest, rfl, List.forall_mem_nil _, good⟩

namespace Redirector

variable {configuration : Configuration}

/-- A configuration is accepted where all its patterns are identifiers. -/
theorem exists_ofConfiguration (areNames : ∀ entry ∈ configuration.rules, IsName entry.pattern) :
    ∃ redirector, ofConfiguration configuration = .ok redirector ∧
      redirector.rules.map (fun rule => (⟨rule.pattern, rule.replacement⟩ : RuleEntry)) =
        configuration.rules := by
  have named : ∀ pair ∈ configuration.rules.map fun entry => (entry.pattern, entry.replacement),
      IsName pair.1 := List.forall_mem_map.mpr areNames
  obtain ⟨rules, made, same⟩ := Rule.exists_ofPairs named
  refine ⟨⟨rules, configuration.selector, configuration.markers.protects⟩, ?_, ?_⟩
  · rw [ofConfiguration, Configuration.checkedRules, made]
    rfl
  · have entries := congrArg (List.map fun pair => (⟨pair.1, pair.2⟩ : RuleEntry)) same
    rw [List.map_map, List.map_map] at entries
    exact entries.trans (List.map_id' _)

/-- Where a pattern is none, the first one that is none is refused. -/
theorem ofConfiguration_of_first {before after : List RuleEntry} {bad : RuleEntry}
    (rules : configuration.rules = before ++ bad :: after)
    (areNames : ∀ entry ∈ before, IsName entry.pattern) (noName : ¬IsName bad.pattern) :
    ofConfiguration configuration = .error (.invalidPattern bad.pattern) := by
  have named : ∀ pair ∈ before.map fun entry => (entry.pattern, entry.replacement),
      IsName pair.1 := List.forall_mem_map.mpr areNames
  have refused : configuration.checkedRules = .error (.invalidPattern bad.pattern) := by
    rw [Configuration.checkedRules, rules, List.map_append, List.map_cons]
    exact Rule.ofPairs_of_first named noName
  rw [ofConfiguration, refused]
  rfl

end Redirector

/-! ## Commands that exit with status two -/

namespace Command

variable {command : Command} {disk : Disk}

theorem exitStatus_ofData_ne_two (data : Option Json) : (Response.ofData data).exitStatus ≠ 2 := by
  cases data with
  | none => decide
  | some data => exact (by decide : (0 : Nat) ≠ 2)

section Keeping

variable {τ : Type} {action : Action (List τ) (Option Json)} {describe : List τ → Option Json}
variable {render : List τ → String} {good : τ → Prop}

/-- Where a command that keeps what it is told about ends with a fault of the request, it has been
refused. -/
theorem Conduct.refused_of_two {fault : Fault} {after : World (List τ)}
    (conduct : Conduct disk good
      (.error fault after : EStateM.Result Fault (World (List τ)) (Option Json)))
    (two : fault.exitStatus = 2) : after = ⟨disk, []⟩ := by
  cases conduct with
  | refused fault => rfl
  | worked ends =>
    cases ends with
    | error kept failed => cases failed.symm.trans two

/-- The command that prints it all instead has been refused as well. -/
theorem executeText_of_two (alike : Alike Eq (Transcript render) command.inText action)
    (empty : render [] = "") (conduct : Conduct disk good (action ⟨disk, []⟩))
    (two : (command.executeText disk .working).exitStatus = 2) :
    (command.executeText disk .working).disk = disk ∧
      (command.executeText disk .working).stdout = "" := by
  have fresh : Console.fresh .working = ⟨.working, render []⟩ := by
    rw [empty]
    rfl
  have agrees := alike disk _ [] rfl
  rw [executeText, fresh] at two ⊢
  generalize command.inText ⟨disk, ⟨.working, render []⟩⟩ = textEnded at agrees two
  generalize action ⟨disk, []⟩ = ended at agrees conduct
  cases agrees with
  | ok left same related => exact absurd two (exitStatus_ofData_ne_two _)
  | error fault left related =>
    cases related
    cases conduct.refused_of_two two
    exact ⟨rfl, empty⟩

theorem respondKeeping_of_two (conduct : Conduct disk good (action ⟨disk, []⟩))
    (two : (respondKeeping action describe disk).1.exitStatus = 2) :
    (respondKeeping action describe disk).2 = disk := by
  rw [respondKeeping] at two ⊢
  generalize action ⟨disk, []⟩ = ended at two conduct
  cases ended with
  | ok data after => exact absurd two (exitStatus_ofData_ne_two _)
  | error fault after =>
    have status : (noticeAfter fault after.memory describe).exitStatus = 2 := two
    rw [exitStatus_noticeAfter] at status
    rw [conduct.refused_of_two status]

end Keeping

/-- A command in text form that exits with status two has neither changed nor printed anything. -/
theorem untouched_of_two_inText (proper : disk.tree.Proper) (command : Command)
    (two : (command.executeText disk .working).exitStatus = 2) :
    (command.executeText disk .working).disk = disk ∧
      (command.executeText disk .working).stdout = "" := by
  cases command with
  | redirect path write config =>
    exact executeText_of_two (alike_inText_redirect path config write) rfl
      (conduct_redirecting proper path config _) two
  | substitute path pair write =>
    exact executeText_of_two (alike_inText_substitute path pair write) rfl
      (conduct_substituting proper path pair _) two
  | search path terms =>
    cases searched : searchResults path terms disk with
    | error fault =>
      rw [executeText, inText_search_of_error searched]
      exact ⟨rfl, rfl⟩
    | ok found =>
      rw [executeText, inText_search searched] at two
      exact absurd two (exitStatus_ofData_ne_two _)

/-- Nor has one in JSON form changed anything. -/
theorem untouched_of_two_inJson (proper : disk.tree.Proper) (command : Command)
    (two : (command.respond disk).1.exitStatus = 2) : (command.respond disk).2 = disk := by
  cases command with
  | redirect path write config =>
    exact respondKeeping_of_two (conduct_redirecting proper path config _) two
  | substitute path pair write =>
    exact respondKeeping_of_two (conduct_substituting proper path pair _) two
  | search path terms =>
    cases searched : searchResults path terms disk with
    | error fault => rw [respond_search_of_error searched]
    | ok found => rw [respond_search searched]

theorem exitStatus_executeJson_closed (command : Command) (disk : Disk) :
    (command.executeJson disk .closed).exitStatus = (command.respond disk).1.exitStatus := by
  simp only [executeJson, print_closed]

/-- Whatever becomes of the standard output, a command that exits with status two has changed
nothing, and has printed nothing in text form. -/
theorem untouched_of_two (proper : disk.tree.Proper) (command : Command) (output : Output) :
    ((command.executeText disk output).exitStatus = 2 →
      (command.executeText disk output).disk = disk ∧
        (command.executeText disk output).stdout = "") ∧
    ((command.executeJson disk output).exitStatus = 2 →
      (command.executeJson disk output).disk = disk) := by
  have inText := command.untouched_of_two_inText proper
  have inJson := command.untouched_of_two_inJson proper
  cases output with
  | working =>
    rw [executeJson_disk, exitStatus_executeJson]
    exact ⟨inText, inJson⟩
  | closed =>
    rw [executeText_closed, executeJson_disk, exitStatus_executeJson_closed]
    exact ⟨fun two => ⟨(inText two).1, rfl⟩, inJson⟩
  | full =>
    obtain ⟨unchanged, refused, silent⟩ := command.executeText_full disk
    rw [executeJson_full]
    refine ⟨fun two => ?_, fun two => absurd two (by decide)⟩
    by_cases printed : (command.executeText disk .working).stdout = ""
    · rw [silent printed] at two ⊢
      exact inText two
    · exact absurd ((refused printed).symm.trans two) (by decide)

/-! ## Configurations that are refused -/

section Refused

variable {path : Option String} {file : String} {place : Path} {configuration : Configuration}
variable {before after : List RuleEntry} {bad : RuleEntry}

/-- A command with such a configuration fails before it does anything. -/
theorem redirecting_of_first {μ : Type} (isRoot : root path disk = .ok place)
    (loaded : Configuration.load disk (.ofText file) = .ok configuration)
    (rules : configuration.rules = before ++ bad :: after)
    (areNames : ∀ entry ∈ before, IsName entry.pattern) (noName : ¬IsName bad.pattern)
    (mode : Mode) (onFile : FileHits → Action μ Unit) (memory : μ) :
    redirecting path (some file) mode onFile ⟨disk, memory⟩ =
      .error (.invalidPattern bad.pattern) ⟨disk, memory⟩ := by
  have refused := Redirector.ofConfiguration_of_first rules areNames noName
  rw [redirecting, Action.bind_of_ok (Action.look_of_ok isRoot),
    Action.bind_of_ok (Action.look_of_ok loaded)]
  exact Action.bind_of_error (Action.look_of_error refused) _

/-- The outcome of a command that was refused with a fault. -/
def refusal (json : Bool) (fault : Fault) (disk : Disk) : Outcome where
  exitStatus := fault.exitStatus
  stdout := if json then (Response.envelope (.error fault.notice)).pretty ++ "\n" else ""
  stderr := if json then "" else fault.notice.text
  disk := disk

theorem execute_of_first (isRoot : root path disk = .ok place)
    (loaded : Configuration.load disk (.ofText file) = .ok configuration)
    (rules : configuration.rules = before ++ bad :: after)
    (areNames : ∀ entry ∈ before, IsName entry.pattern) (noName : ¬IsName bad.pattern)
    (json write : Bool) :
    (Request.invoke ⟨json, redirect path write (some file)⟩).execute disk .working =
      refusal json (.invalidPattern bad.pattern) disk := by
  cases json with
  | false =>
    have ended : (redirect path write (some file)).inText ⟨disk, .fresh .working⟩ =
        .error (.invalidPattern bad.pattern) ⟨disk, .fresh .working⟩ :=
      redirecting_of_first isRoot loaded rules areNames noName _ _ _
    show (redirect path write (some file)).executeText disk .working = _
    rw [executeText, ended]
    rfl
  | true =>
    have ended : redirecting path (some file) (.ofFlag write) keep ⟨disk, []⟩ =
        .error (.invalidPattern bad.pattern) ⟨disk, []⟩ :=
      redirecting_of_first isRoot loaded rules areNames noName _ _ _
    have responded : (redirect path write (some file)).respond disk =
        (.error (Fault.invalidPattern bad.pattern).notice, disk) := by
      rw [respond, respondKeeping, ended]
      rfl
    show (redirect path write (some file)).executeJson disk .working = _
    simp only [executeJson, responded, print_fresh]
    rfl

end Refused

end Command

namespace Request

theorem exitStatus_describeProgram_ne_two (text : String) (disk : Disk) (output : Output) :
    (describeProgram text disk output).exitStatus ≠ 2 := by
  rw [describeProgram]
  split <;> exact (by decide : (0 : Nat) ≠ 2)

/-- Exit status two means that nothing has happened. Whatever a command line asks for, and whatever
becomes of the standard output: if the status is two, every file is as it was, and without the
option for JSON nothing was printed. In particular, where a pattern in a configuration that could be
loaded is no identifier, at whatever place in its list of rules, the command fails before it has
changed or told about a file, with the first such pattern as the value that cannot be used. Where
all patterns are identifiers the configuration is accepted, and its rules are those listed. -/
theorem exit_two_is_refusal {disk : Disk} (proper : disk.tree.Proper) (words : List Bytes) :
    (∀ output, ((ofArguments words).execute disk output).exitStatus = 2 →
      ((ofArguments words).execute disk output).disk = disk ∧
        ((∀ command, ofArguments words ≠ .invoke ⟨true, command⟩) →
          ((ofArguments words).execute disk output).stdout = "")) ∧
    ∀ json path write file place configuration,
      ofArguments words = .invoke ⟨json, .redirect path write (some file)⟩ →
      Command.root path disk = .ok place →
      Configuration.load disk (.ofText file) = .ok configuration →
      ((∃ entry ∈ configuration.rules, ¬IsName entry.pattern) →
        ∃ before bad after, configuration.rules = before ++ bad :: after ∧
          (∀ entry ∈ before, IsName entry.pattern) ∧ ¬IsName bad.pattern ∧
          (Fault.invalidPattern bad.pattern).notice =
            .invalidValue "rules.pattern" (some bad.pattern) Fault.patternProblem ∧
          (Fault.invalidPattern bad.pattern).exitStatus = 2 ∧
          (ofArguments words).execute disk .working =
            Command.refusal json (.invalidPattern bad.pattern) disk) ∧
      ((∀ entry ∈ configuration.rules, IsName entry.pattern) →
        ∃ redirector, Redirector.ofConfiguration configuration = .ok redirector ∧
          redirector.rules.map (fun rule => (⟨rule.pattern, rule.replacement⟩ : RuleEntry)) =
            configuration.rules) := by
  refine ⟨fun output two => ?_, ?_⟩
  · generalize ofArguments words = request at two
    cases request with
    | usageError => exact ⟨rfl, fun _ => rfl⟩
    | help => exact absurd two (exitStatus_describeProgram_ne_two usageText disk output)
    | version => exact absurd two (exitStatus_describeProgram_ne_two versionText disk output)
    | invoke invocation =>
      obtain ⟨json, command⟩ := invocation
      obtain ⟨inText, inJson⟩ := command.untouched_of_two proper output
      cases json with
      | false => exact ⟨(inText two).1, fun _ => (inText two).2⟩
      | true => exact ⟨inJson two, fun noJson => absurd rfl (noJson command)⟩
  · intro json path write file place configuration accepted isRoot loaded
    refine ⟨?_, Redirector.exists_ofConfiguration⟩
    rintro ⟨entry, member, noName⟩
    obtain ⟨before, bad, after, rules, areNames, isBad⟩ :=
      exists_first_not (fun entry : RuleEntry => IsName entry.pattern) member noName
    refine ⟨before, bad, after, rules, areNames, isBad, rfl, rfl, ?_⟩
    rw [accepted]
    exact Command.execute_of_first isRoot loaded rules areNames isBad json write

/-- A directory with a script and a configuration file. -/
def besideConfiguration (data : Bytes) : Disk where
  tree := .directory
    [(Utf8.encode "a.lua", .file (Utf8.encode "x = dict(1)\n")), (Utf8.encode "c.json", .file data)]
  workingLocation := []

theorem proper_besideConfiguration (data : Bytes) : (besideConfiguration data).tree.Proper := by
  have fresh : Utf8.encode "a.lua" ∉ [Utf8.encode "c.json"] := by decide
  rw [besideConfiguration]
  apply Node.Proper.cons (by decide) fresh (.file _)
  exact Node.Proper.cons (by decide) (by decide) (.file data) .empty

theorem read_besideConfiguration (data : Bytes) :
    (besideConfiguration data).read (.ofText "c.json") = .ok data := by
  cbv

/-- Two rules, of which the second one has a pattern that is no identifier. -/
def secondRuleBad : String :=
  "\x7b\"rules\":[[\"dict\",\"d\"],[\"my list\",\"l\"]]\x7d"

/-- A command line that asks for changes by that configuration. -/
def rewriteWords : List Bytes :=
  ["rewrite", "--path", ".", "--config", "c.json", "--write"].map Utf8.encode

/-- The script is not touched, although the first rule would redirect its line. -/
theorem exit_two_is_refusal_of_second_rule :
    let disk := besideConfiguration (Utf8.encode secondRuleBad)
    let outcome := (ofArguments rewriteWords).execute disk .working
    outcome.exitStatus = 2 ∧ outcome.disk = disk ∧ outcome.stdout = "" := by
  intro disk outcome
  have accepted : ofArguments rewriteWords =
      .invoke ⟨false, .redirect (some ".") true (some "c.json")⟩ := by
    cbv
  have loaded : Configuration.load disk (.ofText "c.json") =
      .ok { Configuration.builtin with rules := [⟨"dict", "d"⟩, ⟨"my list", "l"⟩] } := by
    rw [Configuration.load,
      Disk.readText_of_decode (read_besideConfiguration _) (Utf8.decode_encode secondRuleBad)]
    rfl
  have noName : ¬IsName "my list" := by
    rw [← isIdentifier_iff]
    decide
  have member : (⟨"my list", "l"⟩ : RuleEntry) ∈ [⟨"dict", "d"⟩, ⟨"my list", "l"⟩] := by decide
  obtain ⟨onlyRefused, refuses⟩ := exit_two_is_refusal (proper_besideConfiguration _) rewriteWords
  obtain ⟨before, bad, after, -, -, -, -, status, refused⟩ :=
    (refuses _ _ _ _ _ _ accepted rfl loaded).1 ⟨_, member, noName⟩
  have two : outcome.exitStatus = 2 := (congrArg Outcome.exitStatus refused).trans status
  obtain ⟨unchanged, silent⟩ := onlyRefused .working two
  refine ⟨two, unchanged, silent fun command inJson => ?_⟩
  rw [accepted] at inJson
  cases inJson

end Request

end Redirect
