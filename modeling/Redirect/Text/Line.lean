/-
# Lines and their endings

A text is taken apart into lines, each with the ending that closed it, so that the
lines and endings in a row give the text back. A line ends at a line feed; a carriage
return directly before the line feed belongs to the ending. Only the last line can lack
an ending, and then it is not empty.
-/

namespace Redirect.Text

/-- What closes a line. -/
inductive Ending where
  /-- The text stops here. -/
  | missing
  /-- A line feed. -/
  | feed
  /-- A carriage return and a line feed. -/
  | returnFeed
  deriving DecidableEq, Repr

/-- The characters of an ending. -/
def Ending.chars : Ending → List Char
  | .missing => []
  | .feed => ['\n']
  | .returnFeed => ['\r', '\n']

/-- A line: what stands on it, and what closes it. -/
structure Line where
  body : List Char
  ending : Ending
  deriving DecidableEq, Repr

namespace Line

/-- The line as it stands in the text. -/
def chars (line : Line) : List Char :=
  line.body ++ line.ending.chars

/-- Put a character in front of a text already taken apart into lines. A line feed
closes a line of its own; a carriage return before an empty line that a bare line feed
closes joins its ending; any other character joins the first line. -/
def push (c : Char) : List Line → List Line
  | [] => if c = '\n' then [⟨[], .feed⟩] else [⟨[c], .missing⟩]
  | first :: rest =>
    if c = '\n' then
      ⟨[], .feed⟩ :: first :: rest
    else if c = '\r' ∧ first = ⟨[], .feed⟩ then
      ⟨[], .returnFeed⟩ :: rest
    else
      ⟨c :: first.body, first.ending⟩ :: rest

/-- The lines of a text, in order. -/
def ofText (s : List Char) : List Line :=
  s.foldr push []

/-- The text that a sequence of lines spells. -/
def toText (lines : List Line) : List Char :=
  lines.flatMap chars

@[simp] theorem toText_nil : toText [] = [] := rfl

@[simp] theorem toText_cons (line : Line) (lines : List Line) :
    toText (line :: lines) = line.chars ++ toText lines := rfl

theorem toText_push (c : Char) (lines : List Line) :
    toText (push c lines) = c :: toText lines := by
  cases lines with
  | nil =>
    by_cases feed : c = '\n' <;> simp [push, feed, chars, Ending.chars]
  | cons first rest =>
    by_cases feed : c = '\n'
    · simp [push, feed, chars, Ending.chars]
    · by_cases joined : c = '\r' ∧ first = ⟨[], .feed⟩
      · obtain ⟨rfl, rfl⟩ := joined
        simp [push, chars, Ending.chars]
      · simp [push, feed, joined, chars]

/-- Nothing is lost or moved when a text is taken apart into lines. -/
theorem toText_ofText (s : List Char) : toText (ofText s) = s := by
  induction s with
  | nil => rfl
  | cons c s hyp =>
    change toText (push c (ofText s)) = c :: s
    rw [toText_push, hyp]

end Line

end Redirect.Text
