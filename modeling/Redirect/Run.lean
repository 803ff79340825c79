/-
# Redirecting a tree

A run visits the files below a root in the order of the walk, which is fixed before the
first file is read. It reads each selected file, tells about the lines to be redirected
there, and then writes the file if it is to apply the changes. The first fault ends the
run; what has been written stays written.
-/

import Redirect.Action
import Redirect.Configuration.Reader
import Redirect.Redirector

namespace Redirect

namespace Redirector

variable {μ : Type}

/-- Visit files in order. `onFile` is told about each file with redirected lines before
the file is written, and may stop the run. -/
def visit (redirector : Redirector) (root : Path) (mode : Mode)
    (onFile : FileHits → Action μ Unit) : List Path → Action μ (List FileHits)
  | [] => pure []
  | path :: rest => do
    if redirector.selector.selects root path then
      let text ← Action.look (·.readText path)
      match redirector.redirectText path text with
      | some (newText, hits) =>
        onFile ⟨path, hits⟩
        Action.writeIf mode path newText
        let others ← redirector.visit root mode onFile rest
        pure (⟨path, hits⟩ :: others)
      | none => redirector.visit root mode onFile rest
    else redirector.visit root mode onFile rest

/-- Redirect the files below a root, telling about each one before it is written. -/
def runWith (redirector : Redirector) (root : Path) (mode : Mode)
    (onFile : FileHits → Action μ Unit) : Action μ Report := do
  let paths ← Action.look (·.filesBelowRoot root)
  let files ← redirector.visit root mode onFile paths
  pure ⟨files, mode.writes⟩

/-- Redirect the files below a root. -/
def run (redirector : Redirector) (root : Path) (mode : Mode) : Action μ Report :=
  redirector.runWith root mode fun _ => pure ()

end Redirector

namespace Configuration

/-- The configuration that a file gives. -/
def load (disk : Disk) (path : Path) : Except Fault Configuration := do
  let text ← disk.readText path
  match ofText text with
  | .ok configuration => .ok configuration
  | .error mistake => .error (.notConfiguration path mistake)

end Configuration

end Redirect
