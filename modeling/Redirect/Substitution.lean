/-
# Substituting and searching texts

Whole files are searched for a text, and every occurrence of it can be replaced; lines
and words do not matter. Each substitution makes a pass of its own over the tree, so a later
one sees what an earlier one has written.
-/

import Redirect.Action
import Redirect.Selector
import Redirect.Text.Substring

namespace Redirect

/-- A text and what its occurrences are replaced by. -/
structure Substitution where
  old : String
  new : String
  deriving DecidableEq, Repr

namespace Substitution

/-- The substitution of a text, which must not be empty. -/
def make (old new : String) : Except Fault Substitution :=
  if old.isEmpty then .error .emptySearchText else .ok ⟨old, new⟩

/-- The substitutions for pairs of texts; the first empty text is refused. -/
def ofPairs : List (String × String) → Except Fault (List Substitution)
  | [] => .ok []
  | (old, new) :: rest => do
    let substitution ← make old new
    let substitutions ← ofPairs rest
    .ok (substitution :: substitutions)

/-- The extensions of the files that are searched. -/
def defaultExtensions : List String := ["lua", "tml"]

/-- The substitutions made when none are given. -/
def defaultPairs : List (String × String) := [("resty.model", "resty.mvc")]

/-- The texts searched for when none are given. -/
def defaultTerms : List String := ["resty.model", "resty.mvc"]

end Substitution

/-- What a pass of a substitution has found. -/
structure SubstitutionOutcome where
  substitution : Substitution
  /-- The files that held the text, in the order of the walk. -/
  files : List Path
  /-- Whether the files were written. -/
  applied : Bool
  deriving DecidableEq, Repr

/-- The files that hold a text. -/
structure SearchMatch where
  needle : String
  files : List Path
  deriving DecidableEq, Repr

/-- A text stands somewhere in another one. -/
def holds (text needle : String) : Bool :=
  Text.occurs needle.toList text.toList

namespace Disk

/-- The files below a root with one of the extensions. -/
def candidates (disk : Disk) (extensions : List String) (root : Path) :
    Except Fault (List Path) := do
  let paths ← disk.filesBelowRoot root
  .ok (paths.filter (Selector.hasExtension extensions))

/-- The files among some that hold a text. -/
def holding (disk : Disk) (needle : String) : List Path → Except Fault (List Path)
  | [] => .ok []
  | path :: rest => do
    let text ← disk.readText path
    let others ← disk.holding needle rest
    .ok (if holds text needle then path :: others else others)

/-- The files below a root that hold each of some texts. -/
def search (disk : Disk) (root : Path) (extensions : List String) :
    List String → Except Fault (List SearchMatch)
  | [] => .ok []
  | needle :: rest => do
    let paths ← disk.candidates extensions root
    let files ← disk.holding needle paths
    let others ← disk.search root extensions rest
    .ok (⟨needle, files⟩ :: others)

end Disk

namespace Substitution

variable {μ : Type}

/-- The text with every occurrence of the old text replaced. -/
def apply (substitution : Substitution) (text : String) : String :=
  String.ofList (Text.replaceAll substitution.old.toList substitution.new.toList text.toList)

/-- Visit files in order. `onFile` is told about each file that holds the old text before
the file is written, and may stop the pass. -/
def visit (substitution : Substitution) (mode : Mode) (onFile : Path → Action μ Unit) :
    List Path → Action μ (List Path)
  | [] => pure []
  | path :: rest => do
    let text ← Action.look (·.readText path)
    if holds text substitution.old then
      onFile path
      Action.writeIf mode path (substitution.apply text)
      let others ← substitution.visit mode onFile rest
      pure (path :: others)
    else substitution.visit mode onFile rest

/-- Make one pass over the files below a root. -/
def pass (substitution : Substitution) (root : Path) (extensions : List String) (mode : Mode)
    (onFile : Path → Action μ Unit) : Action μ SubstitutionOutcome := do
  let paths ← Action.look (·.candidates extensions root)
  let files ← substitution.visit mode onFile paths
  pure ⟨substitution, files, mode.writes⟩

/-- Make one pass for each substitution, in order. -/
def passes (root : Path) (extensions : List String) (mode : Mode)
    (onFile : Path → Action μ Unit) : List Substitution → Action μ (List SubstitutionOutcome)
  | [] => pure []
  | substitution :: rest => do
    let outcome ← substitution.pass root extensions mode onFile
    let others ← passes root extensions mode onFile rest
    pure (outcome :: others)

end Substitution

end Redirect
