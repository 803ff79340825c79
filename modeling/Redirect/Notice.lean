/-
# Notices

What a failed operation tells: a dotted code that classifies it, a message, details as a
JSON value, and hints for what to do. The code alone decides the exit status of the
command: two where the request was wrong, one where carrying it out failed.
-/

import Redirect.Json.Printer

namespace Redirect

/-- The class of a failure. -/
inductive Code where
  /-- A configuration is no JSON of the right shape. -/
  | configInvalidJson
  /-- A configuration holds a value that cannot be used. -/
  | configInvalidValue
  /-- An argument cannot be used. -/
  | invalidArgument
  /-- The system refused an operation. -/
  | ioError
  /-- A file holds no text. -/
  | encodingError
  /-- A result cannot be given as JSON. -/
  | jsonError
  /-- Anything else. -/
  | unexpected
  deriving DecidableEq, Repr

namespace Code

/-- The dotted name of a code. -/
def name : Code → String
  | .configInvalidJson => "config.invalid_json"
  | .configInvalidValue => "config.invalid_value"
  | .invalidArgument => "validation.invalid_argument"
  | .ioError => "internal.io_error"
  | .encodingError => "internal.encoding_error"
  | .jsonError => "internal.json_error"
  | .unexpected => "internal.unexpected"

/-- Every code. -/
def all : List Code :=
  [.configInvalidJson, .configInvalidValue, .invalidArgument, .ioError, .encodingError,
    .jsonError, .unexpected]

/-- The code with a dotted name. -/
def ofName? (name : String) : Option Code :=
  all.find? fun code => code.name == name

/-- The exit status of a command that fails with a code. -/
def exitStatus : Code → Nat
  | .configInvalidJson => 2
  | .configInvalidValue => 2
  | .invalidArgument => 2
  | .ioError => 1
  | .encodingError => 1
  | .jsonError => 1
  | .unexpected => 1

theorem ofName?_name (code : Code) : ofName? code.name = some code := by
  cases code <;> decide

end Code

/-- What a failed operation tells. -/
structure Notice where
  code : Code
  message : String
  details : Json
  hints : List String

namespace Notice

/-- A notice without hints. -/
def plain (code : Code) (message : String) (details : Json) : Notice :=
  ⟨code, message, details, []⟩

/-- A member that is left out when it has no value. -/
def optional (key : String) : Option String → List (String × Json)
  | none => []
  | some text => [(key, .string text)]

/-- An argument cannot be used. -/
def invalidArgument (field problem : String) : Notice :=
  plain .invalidArgument "Invalid argument"
    (.ofMembers [("field", .string field), ("problem", .string problem)])

/-- The configuration at a path is no JSON of the right shape. -/
def invalidJson (path error : String) : Notice :=
  plain .configInvalidJson "Invalid JSON in configuration"
    (.ofMembers [("path", .string path), ("error", .string error)])

/-- A configuration holds a value that cannot be used. -/
def invalidValue (key : String) (value : Option String) (problem : String) : Notice :=
  plain .configInvalidValue "Invalid configuration value"
    (.ofMembers (("key", .string key) :: optional "value" value ++
      [("problem", .string problem)]))

/-- The system refused an operation. -/
def ioError (error : String) (context : Option String) : Notice :=
  plain .ioError "IO error"
    (.ofMembers (("error", .string error) :: optional "context" context))

/-- The notice with one more hint. -/
def withHint (hint : String) (notice : Notice) : Notice :=
  { notice with hints := notice.hints ++ [hint] }

/-- A file holds no text. -/
def encodingError (path error : String) : Notice :=
  (plain .encodingError ("File is not valid UTF-8: " ++ path)
    (.ofMembers [("path", .string path), ("error", .string error)])).withHint
    "Convert the file to UTF-8 or add it to the excluded file names"

/-- A result cannot be given as JSON. -/
def jsonError (error : String) (context : Option String) : Notice :=
  plain .jsonError "JSON error"
    (.ofMembers (("error", .string error) :: optional "context" context))

/-- Anything else went wrong. -/
def unexpected (error : String) : Notice :=
  plain .unexpected "Unexpected error" (.ofMembers [("error", .string error)])

/-- The notice with one more detail. Details that are no object give way to it. -/
def withDetail (key : String) (value : Json) (notice : Notice) : Notice :=
  match notice.details with
  | .object members => { notice with details := .object (Json.insertMember key value members) }
  | _ => { notice with details := .object [(key, value)] }

/-- The exit status of a command that ends with the notice. -/
def exitStatus (notice : Notice) : Nat :=
  notice.code.exitStatus

/-- A detail on a line of its own. Null is left out, and a text stands without quotes. -/
def detailLine (key : String) : Json → String
  | .null => ""
  | .string text => "  " ++ key ++ ": " ++ text ++ "\n"
  | other => "  " ++ key ++ ": " ++ other.compress ++ "\n"

/-- The notice as lines for people to read. -/
def text (notice : Notice) : String :=
  let details := match notice.details with
    | .object members => String.join (members.map fun member => detailLine member.1 member.2)
    | _ => ""
  "error: " ++ notice.message ++ "\n" ++ details ++
    String.join (notice.hints.map fun hint => "hint: " ++ hint ++ "\n")

end Notice

end Redirect
