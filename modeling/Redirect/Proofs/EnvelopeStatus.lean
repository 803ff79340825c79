/-
# Envelopes and exit statuses

In JSON form a command prints one object and a line feed, whatever stands in its names and lines,
and the text spells nothing but the envelope of its response. The envelope agrees with the exit
status: it holds data where the status is zero and an error otherwise, and the class that the code
of the error begins with tells whether the status is one or two.
-/

import Redirect.Proofs.OneReading
import Redirect.Proofs.TwoForms

namespace Redirect

open Json (Spells SpellsAlone)

namespace Json

/-- What is printed over lines spells its value and no other, with a line feed behind it. -/
theorem spellsAlone_pretty_iff (value other : Json) :
    SpellsAlone other (value.pretty ++ "\n") ↔ other = value := by
  have spelled : SpellsAlone value (value.pretty ++ "\n") := by
    refine ⟨[], value.printPretty 0, ['\n'], blanks_nil, spells_printPretty value 0,
      List.forall_mem_singleton.mpr rfl, ?_⟩
    rw [String.toList_append, pretty, String.toList_ofList]
    rfl
  constructor
  · intro spelledToo
    exact spelledToo.unique spelled
  · rintro rfl
    exact spelled

/-- A code begins with the name of a class of errors. -/
def IsOfClass (className code : String) : Prop :=
  className.toList <+: code.toList

instance (className code : String) : Decidable (IsOfClass className code) :=
  inferInstanceAs (Decidable (_ <+: _))

/-- The class of an error tells an exit status. -/
structure ErrorAgrees (error : Json) (exitStatus : Nat) : Prop where
  failed : exitStatus = 1 ∨ exitStatus = 2
  code : ∃ code, error.member? "code" = some (.string code) ∧
    (exitStatus = 2 ↔ IsOfClass "config." code ∨ IsOfClass "validation." code) ∧
    (exitStatus = 1 ↔ IsOfClass "internal." code)

/-- What an envelope holds tells an exit status. -/
structure EnvelopeAgrees (envelope : Json) (exitStatus : Nat) : Prop where
  success : envelope.member? "success" = some (.bool (exitStatus == 0))
  data : (envelope.member? "data").isSome = true ↔ exitStatus = 0
  error : (envelope.member? "error").isSome = true ↔ exitStatus ≠ 0
  code : ∀ error, envelope.member? "error" = some error → error.ErrorAgrees exitStatus

end Json

theorem Code.class_iff (code : Code) :
    (code.exitStatus = 1 ∨ code.exitStatus = 2) ∧
      (code.exitStatus = 2 ↔
        Json.IsOfClass "config." code.name ∨ Json.IsOfClass "validation." code.name) ∧
      (code.exitStatus = 1 ↔ Json.IsOfClass "internal." code.name) := by
  cases code <;> decide

namespace Response

/-- The hints of a response: those of its notice, if it has failed. -/
def hints : Response → List String
  | .ok _ => []
  | .error notice => notice.hints

theorem exists_envelope (response : Response) : ∃ members, response.envelope = .object members := by
  cases response <;> exact ⟨_, rfl⟩

theorem envelopeAgrees (response : Response) :
    response.envelope.EnvelopeAgrees response.exitStatus := by
  cases response with
  | ok data =>
    have noError : ¬(0 : Nat) ≠ 0 := fun failed => failed rfl
    exact ⟨rfl, Response.isSome_data_iff (.ok data), ⟨nofun, fun failed => absurd failed noError⟩,
      nofun⟩
  | error notice =>
    have failed : exitStatus (.error notice) ≠ 0 := notice.code.exitStatus_ne_zero
    refine ⟨?_, Response.isSome_data_iff (.error notice), ⟨fun _ => failed, fun _ => rfl⟩, ?_⟩
    · rw [beq_false_of_ne failed]
      rfl
    · rintro _ ⟨⟩
      obtain ⟨oneOrTwo, classes⟩ := notice.code.class_iff
      exact ⟨oneOrTwo, notice.code.name, rfl, classes⟩

/-- Hints stand in the error of an envelope exactly where there are any. -/
theorem isSome_hints_iff (response : Response) :
    ((response.envelope.member? "error").bind (Json.member? "hints")).isSome = true ↔
      response.hints ≠ [] := by
  cases response with
  | ok data => exact ⟨nofun, fun hinted => absurd rfl hinted⟩
  | error notice =>
    obtain ⟨code, message, details, hints⟩ := notice
    cases hints with
    | nil => exact ⟨nofun, fun hinted => absurd rfl hinted⟩
    | cons hint hints => exact ⟨nofun, fun _ => rfl⟩

end Response

namespace Request

variable {words : List Bytes} {command : Command}

/-- What an accepted command line that asks for JSON leaves on a working standard output is one
object and a line feed, and nothing but this object can be read from it, whatever tree the command
has worked on. The object agrees with the exit status: it tells success where the status is zero,
holds data there and an error elsewhere, never both, and the class of the error tells the status.
Hints stand in the error exactly where the response has any. -/
theorem envelope_agrees_with_exitStatus
    (accepted : ofArguments words = .invoke ⟨true, command⟩) (disk : Disk) :
    let outcome := (ofArguments words).execute disk .working
    ∃ members body,
      outcome.stdout = body ++ "\n" ∧ Spells (.object members) body.toList ∧
      (∀ value, SpellsAlone value outcome.stdout ↔ value = .object members) ∧
      (Json.object members).EnvelopeAgrees outcome.exitStatus ∧
      ((((Json.object members).member? "error").bind (Json.member? "hints")).isSome = true ↔
        (command.respond disk).1.hints ≠ []) := by
  rcases responded : command.respond disk with ⟨response, left⟩
  obtain ⟨stdout, -⟩ := Command.executeJson_working responded
  have status := command.exitStatus_executeJson disk
  rw [responded] at status
  obtain ⟨members, isObject⟩ := response.exists_envelope
  rw [accepted]
  refine ⟨members, response.envelope.pretty, stdout, ?_, ?_, ?_, ?_⟩
  · rw [← isObject, Json.pretty, String.toList_ofList]
    exact Json.spells_printPretty response.envelope 0
  · intro value
    rw [← isObject, execute, stdout]
    exact Json.spellsAlone_pretty_iff response.envelope value
  · rw [← isObject, execute, status]
    exact response.envelopeAgrees
  · rw [← isObject]
    exact response.isSome_hints_iff

/-- A file that holds no text ends a command, and the error has a hint. -/
theorem envelope_agrees_with_exitStatus_threeFiles :
    let outcome := (ofArguments (Utf8.encode "--json" :: replaceWords)).execute
      (Substitution.threeFiles (Utf8.encode "aaa") [0xFF]) .working
    outcome.exitStatus = 1 ∧ ∃ envelope : Json,
      (∀ value, SpellsAlone value outcome.stdout ↔ value = envelope) ∧
      envelope.member? "success" = some (.bool false) ∧
      ((envelope.member? "error").bind (Json.member? "hints")).isSome = true := by
  have acceptedInText : ofArguments replaceWords =
      .invoke ⟨false, .substitute (some ".") (some ("aa", "b")) true⟩ := by
    cbv
  have accepted := ofArguments_json acceptedInText
  have ended :
      Command.substituting (some ".") (some ("aa", "b")) (.ofFlag true) Command.keep
          ⟨Substitution.threeFiles (Utf8.encode "aaa") [0xFF], []⟩ =
        .error (.notText (.ofText "./b.tml") (.invalid 0 1))
          ⟨Substitution.threeFiles (Utf8.encode "ba") [0xFF], [.ofText "./a.lua"]⟩ := by
    cbv
  have status :
      ((Command.substitute (some ".") (some ("aa", "b")) true).executeJson
        (Substitution.threeFiles (Utf8.encode "aaa") [0xFF]) .working).exitStatus = 1 := by
    rw [Command.exitStatus_executeJson, Command.respond, Command.respondKeeping, ended]
    rfl
  obtain ⟨members, body, -, -, spelled, agrees, hinted⟩ :=
    envelope_agrees_with_exitStatus accepted (Substitution.threeFiles (Utf8.encode "aaa") [0xFF])
  have success := agrees.success
  rw [accepted, execute] at success ⊢
  rw [status] at success
  refine ⟨status, .object members, ?_, success, ?_⟩
  · rw [accepted, execute] at spelled
    exact spelled
  · rw [hinted, Command.respond, Command.respondKeeping, ended]
    exact List.cons_ne_nil _ _

end Request

end Redirect
