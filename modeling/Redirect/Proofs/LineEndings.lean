/-
# Line endings do not count

A text without carriage returns can be given one in front of every line feed. The lines stay what
they were, only their endings change, and since nothing looks at an ending, the same lines are
redirected and told. What is made of the text is what was made of it before, with a carriage return
in front of every line feed.
-/

import Redirect.Proofs.ChangedLines

namespace Redirect

namespace Text

/-- A text with a carriage return put in front of every line feed. -/
def withReturns (s : List Char) : List Char :=
  s.flatMap fun c => if c = '\n' then ['\r', '\n'] else [c]

theorem withReturns_append (s t : List Char) :
    withReturns (s ++ t) = withReturns s ++ withReturns t :=
  List.flatMap_append

theorem withReturns_of_plain {s : List Char} (plain : '\n' ∉ s) : withReturns s = s := by
  induction s with
  | nil => rfl
  | cons c s ih =>
    obtain ⟨notFeed, plainRest⟩ := List.ne_and_not_mem_of_not_mem_cons plain
    have later : withReturns s = s := ih plainRest
    rw [withReturns, List.flatMap_cons, if_neg (Ne.symm notFeed)]
    exact congrArg (c :: ·) later

/-- A bare line feed gets its carriage return. -/
def Ending.withReturn : Ending → Ending
  | .missing => .missing
  | .feed => .returnFeed
  | .returnFeed => .returnFeed

namespace Line

/-- A line whose ending has its carriage return. -/
def withReturn (line : Line) : Line :=
  { line with ending := line.ending.withReturn }

theorem push_withReturn {c : Char} (notFeed : c ≠ '\n') (notReturn : c ≠ '\r')
    (lines : List Line) :
    push c (lines.map withReturn) = (push c lines).map withReturn := by
  have apart (first : Line) : ¬(c = '\r' ∧ first = ⟨[], .feed⟩) := fun joined =>
    notReturn joined.1
  cases lines with
  | nil =>
    rw [List.map_nil, push, if_neg notFeed]
    rfl
  | cons first rest =>
    rw [List.map_cons, push_of_ne notFeed (apart _), push_of_ne notFeed (apart _)]
    rfl

/-- The carriage returns that are put into a text join the endings of its lines. -/
theorem ofText_withReturns {s : List Char} (bare : '\r' ∉ s) :
    ofText (Text.withReturns s) = (ofText s).map withReturn := by
  induction s with
  | nil => rfl
  | cons c s ih =>
    obtain ⟨notReturn, bareRest⟩ := List.ne_and_not_mem_of_not_mem_cons bare
    have later := ih bareRest
    rw [Text.withReturns, List.flatMap_cons, ofText_cons]
    change ofText (_ ++ Text.withReturns s) = _
    by_cases feed : c = '\n'
    · subst feed
      rw [if_pos rfl, List.cons_append, List.singleton_append, ofText_cons, ofText_cons, later,
        push_feed, push_feed]
      rfl
    · rw [if_neg feed, List.singleton_append, ofText_cons, later,
        push_withReturn feed (Ne.symm notReturn)]

/-- No ending of a text without carriage returns has one. -/
theorem ending_ne_returnFeed {s : List Char} (bare : '\r' ∉ s) :
    ∀ line ∈ ofText s, line.ending ≠ .returnFeed := by
  intro line member returns
  apply bare
  rw [← toText_ofText s, toText, List.mem_flatMap]
  exact ⟨line, member, by simp [chars, returns, Ending.chars]⟩

theorem chars_withReturn {line : Line} (plain : '\n' ∉ line.body)
    (bare : line.ending ≠ .returnFeed) :
    line.withReturn.chars = Text.withReturns line.chars := by
  obtain ⟨body, ending⟩ := line
  rw [chars, chars, Text.withReturns_append, Text.withReturns_of_plain plain]
  cases ending with
  | missing => rfl
  | feed => rfl
  | returnFeed => exact absurd rfl bare

/-- Lines whose endings get carriage returns spell the text with carriage returns put in. -/
theorem toText_withReturn {lines : List Line} (plain : ∀ line ∈ lines, '\n' ∉ line.body)
    (bare : ∀ line ∈ lines, line.ending ≠ .returnFeed) :
    toText (lines.map withReturn) = Text.withReturns (toText lines) := by
  induction lines with
  | nil => rfl
  | cons line lines ih =>
    obtain ⟨plainHere, plainLater⟩ := List.forall_mem_cons.mp plain
    obtain ⟨bareHere, bareLater⟩ := List.forall_mem_cons.mp bare
    rw [List.map_cons, toText_cons, toText_cons, chars_withReturn plainHere bareHere,
      ih plainLater bareLater, Text.withReturns_append]

end Line

end Text

open Text (Line)

/-- A text with a carriage return put in front of every line feed. -/
def withReturns (text : String) : String :=
  String.ofList (Text.withReturns text.toList)

namespace Redirector

variable {redirector : Redirector}

/-- Nothing is told about endings. -/
theorem hits_withReturn (path : Path) (lines : List Line) :
    redirector.hits path (lines.map Line.withReturn) = redirector.hits path lines := by
  rw [hits, hits, List.zipIdx_map, List.filterMap_map]
  rfl

theorem newText_withReturns (puts : ∀ rule ∈ redirector.rules, '\n' ∉ rule.replacement.toList)
    {text : String} (bare : '\r' ∉ text.toList) :
    redirector.newText (withReturns text) = withReturns (redirector.newText text) := by
  have plain : ∀ line ∈ (Line.ofText text.toList).map (Line.mapBody redirector.newBody),
      '\n' ∉ line.body := by
    rw [List.forall_mem_map]
    exact fun line member => feed_not_mem_newBody puts
      (Line.forall_plain (Line.properLines_ofText _) line member)
  have bareEndings : ∀ line ∈ (Line.ofText text.toList).map (Line.mapBody redirector.newBody),
      line.ending ≠ .returnFeed := by
    rw [List.forall_mem_map]
    exact Line.ending_ne_returnFeed bare
  rw [newText, newText, withReturns, withReturns, String.toList_ofList, String.toList_ofList,
    Line.ofText_withReturns bare, ← Line.toText_withReturn plain bareEndings, List.map_map,
    List.map_map]
  rfl

/-- Redirecting a text whose line feeds all have carriage returns finds something exactly when
redirecting the text without them does, and then it tells the same lines, and the new text is the
other one with the carriage returns put in. This holds for all rules that put in no line feed and
whatever lines are protected. -/
theorem redirectText_withReturns
    (puts : ∀ rule ∈ redirector.rules, '\n' ∉ rule.replacement.toList) (path : Path)
    {text : String} (bare : '\r' ∉ text.toList) :
    redirector.redirectText path (withReturns text) =
      (redirector.redirectText path text).map fun found => (withReturns found.1, found.2) := by
  have told : redirector.hits path (Line.ofText (withReturns text).toList) =
      redirector.hits path (Line.ofText text.toList) := by
    rw [withReturns, String.toList_ofList, Line.ofText_withReturns bare, hits_withReturn]
  rw [redirectText_eq, redirectText_eq, told, newText_withReturns puts bare]
  split <;> rfl

/-- The redirection of one name, but not on lines that end with a mark. -/
def redirectingUnlessMarked (rule : Rule) (mark : Char) : Redirector :=
  { redirecting rule with isProtected := fun line => line.toList.getLast? == some mark }

/-- The first line is kept for what it ends with, the second one is empty, and the last one ends
with the name and has no ending. -/
theorem redirectText_withReturns_of_marked_line :
    (redirectingUnlessMarked ⟨"dict", "utils.dict", by decide⟩ ';').redirectText
        (.ofText "a.lua") (withReturns "dict();\n\ndict()\nx = dict") =
      some ("dict();\r\n\r\nutils.dict()\r\nx = utils.dict",
        [⟨.ofText "a.lua", 3, "dict()"⟩, ⟨.ofText "a.lua", 4, "x = dict"⟩]) := by
  have found : (redirectingUnlessMarked ⟨"dict", "utils.dict", by decide⟩ ';').redirectText
        (.ofText "a.lua") "dict();\n\ndict()\nx = dict" =
      some ("dict();\n\nutils.dict()\nx = utils.dict",
        [⟨.ofText "a.lua", 3, "dict()"⟩, ⟨.ofText "a.lua", 4, "x = dict"⟩]) :=
    rfl
  rw [redirectText_withReturns (List.forall_mem_singleton.mpr (by decide)) _ (by decide), found]
  rfl

end Redirector

end Redirect
