/-
# Rules

A rule redirects the bare uses of one name. A use is bare when the name stands alone: no
word character touches it on either side, and it does not follow a dot or a colon, which
would make it a member of something else. A rule looks for its name at the start of a
line and after each separator; the separator is kept, the name gives way to the
replacement, and the search goes on behind the name.
-/

import Redirect.Fault
import Redirect.Text.Word

namespace Redirect

/-- A name and what its bare uses are replaced by. -/
structure Rule where
  pattern : String
  replacement : String
  isIdentifier : Text.isIdentifier pattern.toList = true
  deriving DecidableEq

namespace Rule

/-- The rule for a name and a replacement; the name must be an identifier. -/
def make (pattern replacement : String) : Except Fault Rule :=
  if isIdentifier : Text.isIdentifier pattern.toList = true then
    .ok ⟨pattern, replacement, isIdentifier⟩
  else .error (.invalidPattern pattern)

/-- A separator is a character that a bare name may follow. -/
def isSeparator (c : Char) : Bool :=
  !Text.isWord c && c != '.' && c != ':'

/-- The name stands at the front of the text, and no word character follows it. -/
def standsAt (name s : List Char) : Bool :=
  name.isPrefixOf s && !(s.drop name.length).head?.any Text.isWord

/-- The name stands after some separator of the text. -/
def followsSeparator (name : List Char) : List Char → Bool
  | [] => false
  | c :: s => isSeparator c && standsAt name s || followsSeparator name s

/-- Replace the name after every separator. The first argument counts the characters that
a name found before still covers. -/
def replaceAfterSeparators (name new : List Char) : Nat → List Char → List Char
  | _, [] => []
  | covered + 1, _ :: s => replaceAfterSeparators name new covered s
  | 0, c :: s =>
    if isSeparator c && standsAt name s then
      c :: (new ++ replaceAfterSeparators name new name.length s)
    else c :: replaceAfterSeparators name new 0 s

/-- The rule has something to redirect in a line. -/
def isMatch (rule : Rule) (line : String) : Bool :=
  standsAt rule.pattern.toList line.toList || followsSeparator rule.pattern.toList line.toList

/-- The line with every bare use of the name replaced. -/
def apply (rule : Rule) (line : String) : String :=
  let name := rule.pattern.toList
  let new := rule.replacement.toList
  let s := line.toList
  String.ofList (if standsAt name s then new ++ replaceAfterSeparators name new name.length s
    else replaceAfterSeparators name new 0 s)

end Rule

/-- What a sequence of rules makes of a line. -/
structure Redirection where
  /-- The position of the rule that was applied. -/
  ruleIndex : Nat
  /-- The line after it. -/
  text : String
  deriving DecidableEq, Repr

namespace Rule

/-- The rules for pairs of a name and a replacement; the first name that is no identifier
is refused. -/
def ofPairs : List (String × String) → Except Fault (List Rule)
  | [] => .ok []
  | (pattern, replacement) :: rest => do
    let rule ← make pattern replacement
    let rules ← ofPairs rest
    .ok (rule :: rules)

/-- Apply the first rule that has something to redirect, and no other. -/
def firstMatch (rules : List Rule) (line : String) : Option Redirection :=
  (rules.zipIdx.find? fun entry => entry.1.isMatch line).map fun entry =>
    ⟨entry.2, entry.1.apply line⟩

end Rule

end Redirect
