/-
# The program

The command line of the program. The regular files that a command is to see come on
standard input, one path on a line, as a listing of the working directory gives them; the
configuration file is seen in any case. The command is carried out on a picture of those
files, its output is printed, and then each file that it has changed is written.
-/

import Redirect.Command.Execute

namespace Redirect.Program

/-- The text of a line without the characters that end it. -/
def withoutEnding (line : String) : String :=
  String.ofList (line.toList.filter fun c => c != '\n' && c != '\r')

/-- The lines of standard input up to its end. -/
partial def readLines (input : IO.FS.Stream) (lines : List String) : IO (List String) := do
  let line ← input.getLine
  if line.isEmpty then return lines.reverse
  readLines input (withoutEnding line :: lines)

/-- The configuration file that a request names. -/
def configurationFiles : Request → List String
  | .invoke ⟨_, .redirect _ _ (some file)⟩ => [file]
  | _ => []

/-- The disk with the file at a path as it is, when there is one. -/
def addFile (disk : Disk) (file : String) : IO Disk := do
  match ← (IO.FS.readBinFile file).toBaseIO with
  | .ok data =>
    let path := Path.ofText file
    return (disk.makeWay path).place path (.file data.toList)
  | .error _ => return disk

/-- Write a file if it is not what it was before. -/
def writeChanged (before after : Disk) (file : String) : IO Unit := do
  let path := Path.ofText file
  match (before.read path).toOption, (after.read path).toOption with
  | some old, some new =>
    if old != new then IO.FS.writeBinFile file ⟨new.toArray⟩
  | _, _ => return

/-- A disk without files whose working directory is the one of the process. -/
def emptyDisk : IO Disk := do
  let here := Path.ofText (toString (← IO.currentDir))
  let names := here.segments.filter fun segment => !segment.isEmpty
  return (⟨.empty, names⟩ : Disk).makeDirectories here

/-- Carry out a command line. -/
def run (arguments : List String) : IO UInt32 := do
  let request := Request.ofArguments (arguments.map Utf8.encode)
  let files ← match request with
    | .invoke _ => readLines (← IO.getStdin) (configurationFiles request)
    | _ => pure []
  let before ← files.foldlM addFile (← emptyDisk)
  let outcome := request.execute before .working
  IO.print outcome.stdout
  files.forM (writeChanged before outcome.disk)
  IO.eprint outcome.stderr
  return outcome.exitStatus.toUInt32

end Redirect.Program

/-- The program. -/
def main (arguments : List String) : IO UInt32 :=
  Redirect.Program.run arguments
