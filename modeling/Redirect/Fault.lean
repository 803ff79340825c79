/-
# Faults

The causes for which an operation of this library fails, and the notice that each gives.
-/

import Redirect.Notice
import Redirect.Disk.Basic
import Redirect.Json.Cursor

namespace Redirect

/-- Why an operation failed. -/
inductive Fault where
  /-- The pattern of a rule is no identifier. -/
  | invalidPattern (pattern : String)
  /-- The text to be replaced is empty. -/
  | emptySearchText
  /-- The root of a run is no directory. -/
  | rootNotDirectory (root : Path)
  /-- A file could not be read. -/
  | unreadable (path : Path) (error : OsError)
  /-- A file could not be written. -/
  | unwritable (path : Path) (error : OsError)
  /-- A directory could not be listed. -/
  | unlistable (path : Path) (error : OsError)
  /-- The working directory is gone. -/
  | noWorkingDirectory (error : OsError)
  /-- The standard output did not take a text. -/
  | outputRefused (error : OsError)
  /-- A file holds no text. -/
  | notText (path : Path) (defect : Utf8.Defect)
  /-- A configuration file holds no JSON of the right shape. -/
  | notConfiguration (path : Path) (mistake : Json.Mistake)
  /-- A result names a path that is no text, so it cannot be given as JSON. -/
  | pathNotText
  /-- A run was stopped from outside. -/
  | stopped (reason : String)
  deriving DecidableEq, Repr

namespace Fault

/-- What a pattern has to be. -/
def patternProblem : String :=
  "Pattern must be a non-empty identifier ([A-Za-z_][A-Za-z0-9_]*)"

/-- The notice that a fault gives. -/
def notice : Fault → Notice
  | .invalidPattern pattern => .invalidValue "rules.pattern" (some pattern) patternProblem
  | .emptySearchText => .invalidArgument "from" "Search text must not be empty"
  | .rootNotDirectory root =>
    .invalidArgument "path" ("Root is not a directory: " ++ root.display)
  | .unreadable path error => .ioError error.message (some ("read " ++ path.display))
  | .unwritable path error => .ioError error.message (some ("write " ++ path.display))
  | .unlistable path error => .ioError error.message (some ("read dir " ++ path.display))
  | .noWorkingDirectory error => .ioError error.message (some "get current dir")
  | .outputRefused error => .ioError error.message (some "write stdout")
  | .notText path defect => .encodingError path.display defect.message
  | .notConfiguration path mistake => .invalidJson path.display mistake.message
  | .pathNotText =>
    .jsonError "path contains invalid UTF-8 characters" (some "serialize response")
  | .stopped reason => .unexpected reason

/-- The exit status of a command that ends with a fault. -/
def exitStatus (fault : Fault) : Nat :=
  fault.notice.exitStatus

end Fault

end Redirect
