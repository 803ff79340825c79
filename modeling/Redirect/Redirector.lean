/-
# Redirecting a text

A redirector takes a text apart into lines and redirects each line that is not protected
by the first rule that finds something there. Lines keep their endings, and lines that
no rule applies to keep their bodies.
-/

import Redirect.Configuration
import Redirect.Report
import Redirect.Text.Line

namespace Redirect

/-- Rules, the files they apply to, and the lines they leave alone. -/
structure Redirector where
  rules : List Rule
  selector : Selector
  isProtected : String → Bool

namespace Redirector

/-- The redirector that a configuration sets up; its first bad pattern is refused. -/
def ofConfiguration (configuration : Configuration) : Except Fault Redirector := do
  let rules ← configuration.checkedRules
  .ok ⟨rules, configuration.selector, configuration.markers.protects⟩

/-- What the rules make of a line, if it is not protected and a rule finds something. -/
def redirectLine (redirector : Redirector) (body : String) : Option String :=
  if redirector.isProtected body then none
  else (Rule.firstMatch redirector.rules body).map (·.text)

/-- The lines that change, numbered from one. -/
def hits (redirector : Redirector) (path : Path) (lines : List Text.Line) : List Hit :=
  (lines.zipIdx 1).filterMap fun entry =>
    let body := String.ofList entry.1.body
    (redirector.redirectLine body).map fun _ => ⟨path, entry.2, body⟩

/-- A line after redirection, with its ending. -/
def newLine (redirector : Redirector) (line : Text.Line) : List Char :=
  ((redirector.redirectLine (String.ofList line.body)).map String.toList).getD line.body ++
    line.ending.chars

/-- The text after redirection and the lines that changed, or none when no line does. -/
def redirectText (redirector : Redirector) (path : Path) (text : String) :
    Option (String × List Hit) :=
  let lines := Text.Line.ofText text.toList
  let hits := redirector.hits path lines
  if hits.isEmpty then none
  else some (String.ofList (lines.flatMap redirector.newLine), hits)

end Redirector

end Redirect
