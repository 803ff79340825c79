/-
# Actions on a disk

An action reads and changes a disk and a memory of its own kind, and may end in a fault.
What it has changed before the fault stays changed.
-/

import Redirect.Fault

namespace Redirect

/-- A run changes files, or only shows what it would change. -/
inductive Mode where
  | dryRun
  | apply
  deriving DecidableEq, Repr

namespace Mode

/-- The mode that a flag asks for. -/
def ofFlag (write : Bool) : Mode :=
  if write then .apply else .dryRun

/-- Files are written. -/
def writes (mode : Mode) : Bool :=
  mode == .apply

end Mode

namespace Disk

/-- The text that a file holds. -/
def readText (disk : Disk) (path : Path) : Except Fault String :=
  match disk.read path with
  | .error error => .error (.unreadable path error)
  | .ok data =>
    match Utf8.decode data with
    | .error defect => .error (.notText path defect)
    | .ok text => .ok text

/-- The disk after a text was written to a file. -/
def writeText (disk : Disk) (path : Path) (text : String) : Except Fault Disk :=
  match disk.write path (Utf8.encode text) with
  | .error error => .error (.unwritable path error)
  | .ok disk => .ok disk

/-- The entries of a directory by name, each with its path and its kind. -/
def listing (disk : Disk) (path : Path) : Except Fault (List (Path × Kind)) :=
  match disk.list path with
  | .error error => .error (.unlistable path error)
  | .ok entries => .ok entries

/-- The regular files below a directory, depth first in the order of names. -/
def files (disk : Disk) (root : Path) : Except Fault (List Path) :=
  match disk.walk root with
  | .error failure => .error (.unlistable failure.path failure.error)
  | .ok paths => .ok paths

/-- The regular files below the root of a run, which has to be a directory. -/
def filesBelowRoot (disk : Disk) (root : Path) : Except Fault (List Path) :=
  if disk.isDirectory root then disk.files root else .error (.rootNotDirectory root)

end Disk

/-- What an action works on: a disk, and a memory of its own. -/
structure World (μ : Type) where
  disk : Disk
  memory : μ

/-- An action that changes a world and gives a result or a fault. -/
abbrev Action (μ α : Type) := EStateM Fault (World μ) α

namespace Action

variable {μ α : Type}

/-- Look at the disk. -/
def look (question : Disk → Except Fault α) : Action μ α := fun world =>
  match question world.disk with
  | .ok answer => .ok answer world
  | .error fault => .error fault world

/-- Change the disk. -/
def change (operation : Disk → Except Fault Disk) : Action μ Unit := fun world =>
  match operation world.disk with
  | .ok disk => .ok () { world with disk := disk }
  | .error fault => .error fault world

/-- Change the memory. -/
def remember (update : μ → μ) : Action μ Unit := fun world =>
  .ok () { world with memory := update world.memory }

/-- Write a text to a file, if the mode says so. -/
def writeIf (mode : Mode) (path : Path) (text : String) : Action μ Unit :=
  if mode.writes then change (·.writeText path text) else pure ()

end Action

end Redirect
