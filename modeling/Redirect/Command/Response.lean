/-
# Responses

What a command answers, as JSON. A response is an envelope that tells whether the command
succeeded and holds its data or its error, never both. A path that is no text has no form
in JSON, and then nothing that names it has one.
-/

import Redirect.Notice
import Redirect.Report
import Redirect.Substitution

namespace Redirect

namespace Path

/-- The path as JSON, when it is a text. -/
def json? (path : Path) : Option Json :=
  path.text?.map .string

/-- Paths as JSON, when all are texts. -/
def listJson? (paths : List Path) : Option Json :=
  (paths.mapM json?).map .array

end Path

namespace Hit

/-- A redirected line as JSON. -/
def json? (hit : Hit) : Option Json := do
  let path ← hit.path.json?
  some (.ofMembers [("path", path), ("line", .ofNat hit.line), ("original", .string hit.before)])

end Hit

namespace FileHits

/-- A file and its redirected lines as JSON. -/
def json? (file : FileHits) : Option Json := do
  let path ← file.path.json?
  let hits ← file.hits.mapM Hit.json?
  some (.ofMembers [("path", path), ("hits", .array hits)])

/-- Files and their redirected lines as JSON. -/
def listJson? (files : List FileHits) : Option Json :=
  (files.mapM json?).map .array

end FileHits

namespace Report

/-- What the command that redirects calls answers. -/
def json? (report : Report) (root : Path) (ruleCount : Nat) : Option Json := do
  let files ← FileHits.listJson? report.files
  some (.ofMembers [
    ("command", .string "rewrite"),
    ("root", .string root.display),
    ("dry_run", .bool !report.applied),
    ("rules", .ofNat ruleCount),
    ("total_hits", .ofNat report.totalHits),
    ("total_files", .ofNat report.totalFiles),
    ("applied", .bool report.applied),
    ("files", files)])

end Report

namespace SubstitutionOutcome

/-- What a pass has found, as JSON. -/
def json? (outcome : SubstitutionOutcome) : Option Json := do
  let files ← Path.listJson? outcome.files
  some (.ofMembers [
    ("from", .string outcome.substitution.old),
    ("to", .string outcome.substitution.new),
    ("files", files),
    ("applied", .bool outcome.applied)])

/-- What the command that replaces texts answers. -/
def responseJson? (outcomes : List SubstitutionOutcome) (root : Path) (mode : Mode) :
    Option Json := do
  let rules ← outcomes.mapM json?
  some (.ofMembers [
    ("command", .string "replace"),
    ("root", .string root.display),
    ("dry_run", .bool !mode.writes),
    ("total_files", .ofNat (outcomes.flatMap (·.files)).length),
    ("rules", .array rules)])

end SubstitutionOutcome

namespace SearchMatch

/-- The files that hold a text, as JSON. -/
def json? (found : SearchMatch) : Option Json := do
  let files ← Path.listJson? found.files
  some (.ofMembers [("needle", .string found.needle), ("files", files)])

/-- What the command that searches for texts answers. -/
def responseJson? (results : List SearchMatch) (root : Path) : Option Json := do
  let found ← results.mapM json?
  some (.ofMembers [
    ("command", .string "search"),
    ("root", .string root.display),
    ("matches", .array found)])

end SearchMatch

/-- What a command answers: its data, or the notice of its failure. -/
abbrev Response := Except Notice Json

namespace Response

/-- The answer with some data, when the data has a form in JSON. -/
def ofData : Option Json → Response
  | some data => .ok data
  | none => .error Fault.pathNotText.notice

/-- The error of an envelope. Hints stand there when there are any. -/
def errorJson (notice : Notice) : Json :=
  let hints := if notice.hints.isEmpty then []
    else [("hints", .array (notice.hints.map fun hint => .object [("message", .string hint)]))]
  .object ([("code", .string notice.code.name), ("message", .string notice.message),
    ("details", notice.details)] ++ hints)

/-- The envelope of a response. -/
def envelope : Response → Json
  | .ok data => .object [("success", .bool true), ("data", data)]
  | .error notice => .object [("success", .bool false), ("error", errorJson notice)]

/-- What a command prints for people when it has failed. -/
def errorText : Response → String
  | .ok _ => ""
  | .error notice => notice.text

/-- The exit status of a command with a response. -/
def exitStatus : Response → Nat
  | .ok _ => 0
  | .error notice => notice.exitStatus

end Response

end Redirect
