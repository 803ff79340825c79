/-
# Standard output

A console takes texts as long as its output does. A full output refuses every text that is
not empty; an output that nobody reads takes texts and loses them, which is no fault.
-/

import Redirect.Fault

namespace Redirect

/-- What becomes of texts that are written to the standard output. -/
inductive Output where
  /-- They are kept. -/
  | working
  /-- They are refused. -/
  | full
  /-- Nobody reads them. -/
  | closed
  deriving DecidableEq, Repr

/-- A standard output and what has been written to it. -/
structure Console where
  output : Output
  written : String
  deriving DecidableEq, Repr

namespace Console

/-- A console before anything is written. -/
def fresh (output : Output) : Console :=
  ⟨output, ""⟩

/-- Write a text. -/
def print (console : Console) (text : String) : Except Fault Console :=
  if text.isEmpty then .ok console
  else match console.output with
    | .working => .ok { console with written := console.written ++ text }
    | .full => .error (.outputRefused .outOfSpace)
    | .closed => .ok console

end Console

end Redirect
