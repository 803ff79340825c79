/-
# Reports

What a run has found: the files with redirected lines, in the order of the walk, and the
redirected lines of each. The text of a report gives a file by its path, then each line
by its number, right-justified to five places, and by what stood on it before, without
blank ends.
-/

import Redirect.Path
import Redirect.Text.Blank

namespace Redirect

/-- A redirected line. -/
structure Hit where
  path : Path
  /-- The number of the line, from one on. -/
  line : Nat
  /-- What stood on the line before, without its ending. -/
  before : String
  deriving DecidableEq, Repr

/-- A file and its redirected lines, in order. -/
structure FileHits where
  path : Path
  hits : List Hit
  deriving DecidableEq, Repr

/-- The files of a run with redirected lines. -/
structure Report where
  files : List FileHits
  /-- Whether the files were written. -/
  applied : Bool
  deriving DecidableEq, Repr

/-- Put blanks in front of a text that is shorter than a width. -/
def padLeft (width : Nat) (s : List Char) : List Char :=
  List.replicate (width - s.length) ' ' ++ s

namespace Hit

/-- The places that a line number takes at least. -/
def numberWidth : Nat := 5

/-- The line of a report for a redirected line. -/
def render (hit : Hit) : List Char :=
  padLeft numberWidth (Nat.toDigits 10 hit.line) ++
    [' ', ' '] ++ Text.trim hit.before.toList ++ ['\n']

end Hit

namespace FileHits

/-- The lines of a report for a file. -/
def render (file : FileHits) : List Char :=
  file.path.display.toList ++ '\n' :: file.hits.flatMap Hit.render

/-- The text of a report for a file. -/
def text (file : FileHits) : String :=
  String.ofList file.render

end FileHits

namespace Report

/-- The lines of the first file whose path names the same place. -/
def get? (report : Report) (path : Path) : Option (List Hit) :=
  (report.files.find? fun file => file.path.equivalent path).map (·.hits)

/-- The number of redirected lines. -/
def totalHits (report : Report) : Nat :=
  (report.files.flatMap (·.hits)).length

/-- The number of files with redirected lines. -/
def totalFiles (report : Report) : Nat :=
  report.files.length

/-- No line was redirected. -/
def isEmpty (report : Report) : Bool :=
  report.files.isEmpty

/-- The text of a report. -/
def text (report : Report) : String :=
  String.ofList (report.files.flatMap FileHits.render)

end Report

/-- A listing of paths, one on a line. -/
def renderPaths (paths : List Path) : String :=
  String.ofList (paths.flatMap fun path => path.display.toList ++ ['\n'])

end Redirect
