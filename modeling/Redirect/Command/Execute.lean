/-
# Carrying out a command line

A command works on a disk and a console. In text form it prints what it finds as it goes,
each file before it is written, so nothing is written that could not be told about. In
JSON form it prints one envelope at the end; when it fails half-way, the envelope names
the files told about so far.
-/

import Redirect.Command.Arguments
import Redirect.Command.Console
import Redirect.Command.Response
import Redirect.Run

namespace Redirect

/-- What a command leaves behind. -/
structure Outcome where
  exitStatus : Nat
  stdout : String
  stderr : String
  disk : Disk

namespace Command

variable {μ : Type}

/-- The directory that a command works below: the one given, or the working directory. -/
def root (path : Option String) (disk : Disk) : Except Fault Path :=
  match path with
  | some path => .ok (.ofText path)
  | none =>
    match disk.workingPath with
    | .ok path => .ok path
    | .error error => .error (.noWorkingDirectory error)

/-- The configuration that a command works with: the one in the file given, or the built-in
one. -/
def configuration (file : Option String) (disk : Disk) : Except Fault Configuration :=
  match file with
  | some file => Configuration.load disk (.ofText file)
  | none => .ok .builtin

/-- Redirect calls, telling about each file, and answer with the report. -/
def redirecting (path config : Option String) (mode : Mode)
    (onFile : FileHits → Action μ Unit) : Action μ (Option Json) := do
  let root ← Action.look (root path)
  let configuration ← Action.look (configuration config)
  let redirector ← Action.look fun _ => Redirector.ofConfiguration configuration
  let report ← redirector.runWith root mode onFile
  pure (report.json? root redirector.rules.length)

/-- Replace texts, telling about each file, and answer with what each pass has found. -/
def substituting (path : Option String) (pair : Option (String × String)) (mode : Mode)
    (onFile : Path → Action μ Unit) : Action μ (Option Json) := do
  let root ← Action.look (root path)
  let pairs := match pair with
    | some pair => [pair]
    | none => Substitution.defaultPairs
  let substitutions ← Action.look fun _ => Substitution.ofPairs pairs
  let outcomes ← Substitution.passes root Substitution.defaultExtensions mode onFile substitutions
  pure (SubstitutionOutcome.responseJson? outcomes root mode)

/-- Tell about each of some things in order. -/
def tellAll {α : Type} (tell : α → Action μ Unit) : List α → Action μ Unit
  | [] => pure ()
  | first :: rest => do
    tell first
    tellAll tell rest

/-- Search for texts, then tell about the files that hold each one, and answer with them. -/
def searching (path : Option String) (terms : List String)
    (onMatch : SearchMatch → Action μ Unit) : Action μ (Option Json) := do
  let root ← Action.look (root path)
  let needles := if terms.isEmpty then Substitution.defaultTerms else terms
  let results ← Action.look (·.search root Substitution.defaultExtensions needles)
  tellAll onMatch results
  pure (SearchMatch.responseJson? results root)

/-- Print a text on the console that an action keeps. -/
def printText (text : String) : Action Console Unit := fun world =>
  match world.memory.print text with
  | .ok console => .ok () { world with memory := console }
  | .error fault => .error fault world

/-- A command in text form: it prints each thing that it tells about. -/
def inText : Command → Action Console (Option Json)
  | .redirect path write config =>
    redirecting path config (.ofFlag write) fun file => printText file.text
  | .substitute path pair write =>
    substituting path pair (.ofFlag write) fun path => printText (renderPaths [path])
  | .search path terms =>
    searching path terms fun found => printText (renderPaths found.files)

/-- The outcome of a command in text form. -/
def executeText (command : Command) (disk : Disk) (output : Output) : Outcome :=
  let conclude (response : Response) (world : World Console) : Outcome :=
    { exitStatus := response.exitStatus
      stdout := world.memory.written
      stderr := response.errorText
      disk := world.disk }
  match command.inText ⟨disk, .fresh output⟩ with
  | .ok data world => conclude (.ofData data) world
  | .error fault world => conclude (.error fault.notice) world

/-- Keep something that an action tells about. -/
def keep {α : Type} (thing : α) : Action (List α) Unit :=
  Action.remember (· ++ [thing])

/-- The notice of a fault, with the things told about before it. What has no form in JSON
is named by null. -/
def noticeAfter {α : Type} (fault : Fault) (reported : List α)
    (describe : List α → Option Json) : Notice :=
  if reported.isEmpty then fault.notice
  else fault.notice.withDetail "reportedFiles" ((describe reported).getD .null)

/-- Carry out a command in JSON form: its response and the disk after it. -/
def respondKeeping {α : Type} (action : Action (List α) (Option Json))
    (describe : List α → Option Json) (disk : Disk) : Response × Disk :=
  match action ⟨disk, []⟩ with
  | .ok data world => (.ofData data, world.disk)
  | .error fault world => (.error (noticeAfter fault world.memory describe), world.disk)

/-- The response to a command and the disk after it. -/
def respond (command : Command) (disk : Disk) : Response × Disk :=
  match command with
  | .redirect path write config =>
    respondKeeping (redirecting path config (.ofFlag write) keep) FileHits.listJson? disk
  | .substitute path pair write =>
    respondKeeping (substituting path pair (.ofFlag write) keep) Path.listJson? disk
  | .search path terms =>
    respondKeeping (searching path terms fun _ => pure ()) Path.listJson? disk

/-- The outcome of a command in JSON form. -/
def executeJson (command : Command) (disk : Disk) (output : Output) : Outcome :=
  let (response, disk) := command.respond disk
  match (Console.fresh output).print (response.envelope.pretty ++ "\n") with
  | .ok console =>
    { exitStatus := response.exitStatus, stdout := console.written, stderr := "", disk }
  | .error fault =>
    { exitStatus := fault.exitStatus, stdout := "", stderr := fault.notice.text, disk }

end Command

namespace Request

/-- The name and version of the program. -/
def versionText : String :=
  "luarewrite 0.1.0\n"

/-- How a command line is formed. -/
def usageText : String :=
  "Usage: luarewrite [--json] COMMAND\n\n" ++
  "Commands:\n" ++
  "  rewrite [--path DIRECTORY] [--config FILE] [--write]\n" ++
  "  replace [--path DIRECTORY] [--from TEXT --to TEXT] [--write]\n" ++
  "  search [--path DIRECTORY] [TEXT...]\n" ++
  "  help [COMMAND]\n\n" ++
  "Options:\n" ++
  "  --json     Print a JSON envelope\n" ++
  "  --help     Print this help\n" ++
  "  --version  Print the version\n"

/-- The outcome of printing a text that says something about the program itself. An output
that refuses it is passed over in silence. -/
def describeProgram (text : String) (disk : Disk) (output : Output) : Outcome :=
  match (Console.fresh output).print text with
  | .ok console => { exitStatus := 0, stdout := console.written, stderr := "", disk }
  | .error _ => { exitStatus := 0, stdout := "", stderr := "", disk }

/-- The outcome of a request. -/
def execute (request : Request) (disk : Disk) (output : Output) : Outcome :=
  match request with
  | .usageError => { exitStatus := 2, stdout := "", stderr := usageText, disk }
  | .help => describeProgram usageText disk output
  | .version => describeProgram versionText disk output
  | .invoke ⟨true, command⟩ => command.executeJson disk output
  | .invoke ⟨false, command⟩ => command.executeText disk output

end Request

end Redirect
