/-
# Operations on a disk

Reading and writing files, listing a directory, walking the files below it, and the
changes that people make to a tree between runs. A listing is sorted by name and tells
links from what they stand for. A walk lists its root and every directory that it finds in a
listing, so it goes depth first in the order of names and follows no link below its root.
-/

import Redirect.Disk.Resolve

namespace Redirect

namespace Disk

/-- What a file holds. -/
def read (disk : Disk) (path : Path) : Except OsError Bytes := do
  match ← disk.resolve .reading path with
  | .file _ data => .ok data
  | .directory _ _ => .error .isDirectory
  | .vacant _ => .error .notFound

/-- The disk after a file was written, made if it was missing. -/
def write (disk : Disk) (path : Path) (data : Bytes) : Except OsError Disk := do
  match ← disk.resolve .writing path with
  | .file location _ => .ok { disk with tree := disk.tree.set location (.file data) }
  | .directory _ _ => .error .isDirectory
  | .vacant location => .ok { disk with tree := disk.tree.set location (.file data) }

/-- The entries of a directory, in no particular order. -/
def entries (disk : Disk) (path : Path) : Except OsError (List (Name × Node)) := do
  match ← disk.resolve .reading path with
  | .file _ _ => .error .notDirectory
  | .directory _ entries => .ok entries
  | .vacant _ => .error .notFound

/-- Whether a path leads to a directory. -/
def isDirectory (disk : Disk) (path : Path) : Bool :=
  (disk.entries path).isOk

/-- The entries of a directory by name, each with its path and its kind. -/
def list (disk : Disk) (path : Path) : Except OsError (List (Path × Kind)) := do
  let entries ← disk.entries path
  .ok ((sortByName entries).map fun entry => (path.join entry.1, entry.2.kind))

/-- A directory that could not be listed, and why. -/
structure WalkError where
  path : Path
  error : OsError
  deriving DecidableEq, Repr

/-- All results of a sequence in a row, or the first error. -/
def gather {ε α : Type} : List (Except ε (List α)) → Except ε (List α)
  | [] => .ok []
  | first :: rest => do
    let found ← first
    let others ← gather rest
    .ok (found ++ others)

/-- The regular files at and below a listed entry. `enter` finds those below a directory. -/
def filesAt (enter : Path → Except WalkError (List Path)) (entry : Path × Kind) :
    Except WalkError (List Path) :=
  match entry.2 with
  | .file => .ok [entry.1]
  | .link => .ok []
  | .directory => enter entry.1

/-- The regular files below a directory, entry by entry as it is listed. `enter` finds those
below the directories in it. -/
def walkThrough (disk : Disk) (enter : Path → Except WalkError (List Path)) (path : Path) :
    Except WalkError (List Path) :=
  match disk.list path with
  | .error error => .error ⟨path, error⟩
  | .ok entries => gather (entries.map (filesAt enter))

/-- The regular files below a directory, through at most as many directories, one in the
other, as the first argument says. -/
def walkWithin (disk : Disk) : Nat → Path → Except WalkError (List Path)
  | 0, path => .error ⟨path, .nameTooLong⟩
  | depth + 1, path => disk.walkThrough (disk.walkWithin depth) path

/-- The regular files below a directory, depth first in the order of names. The name of each
directory on the way makes the path longer, so no path that can be listed leads through more
directories than the longest one has octets. -/
def walk (disk : Disk) (root : Path) : Except WalkError (List Path) :=
  disk.walkWithin (longestPath + 1) root

/-- The path of the working directory, when it is still there. -/
def workingPath (disk : Disk) : Except OsError Path :=
  match disk.tree.at? disk.workingLocation with
  | some (.directory _) =>
    .ok ⟨if disk.workingLocation.isEmpty then [slash]
      else disk.workingLocation.flatMap (slash :: ·)⟩
  | _ => .error .notFound

/-- Everything below the working directory by path: each node with its location there,
sorted by the octets of the path that slashes spell. -/
def contents (disk : Disk) : List (Path × Node) :=
  let found := ((disk.tree.at? disk.workingLocation).getD .empty).descendants
  (sortByName (found.map fun (location, node) =>
    ((location.flatMap (slash :: ·)).drop 1, node))).map fun (bytes, node) => (⟨bytes⟩, node)

/-- The directory that holds the last name of a path, as a location, and that name. -/
def holder? (disk : Disk) (path : Path) : Option (Location × Name) :=
  match (path.segments.filter fun segment => !segment.isEmpty).reverse with
  | [] => none
  | name :: before =>
    let start := if path.isAbsolute then [] else disk.workingLocation
    match descendWithin disk.tree .reading mostLinks start before.reverse with
    | .ok (.directory location _) => some (location, name)
    | _ => none

/-- The disk with a node under the last name of a path, if the directory that is to hold
it is there. -/
def place (disk : Disk) (path : Path) (node : Node) : Disk :=
  match disk.holder? path with
  | some (location, name) => { disk with tree := disk.tree.set (location ++ [name]) node }
  | none => disk

/-- The disk without what stands under the last name of a path. -/
def remove (disk : Disk) (path : Path) : Disk :=
  match disk.holder? path with
  | some (location, name) => { disk with tree := disk.tree.erase (location ++ [name]) }
  | none => disk

/-- The disk with a directory at a path, after the directories at the stages before it
were made. The stages are the paths that join more and more of the names to the first. -/
def makeDirectoriesFrom (disk : Disk) (stage : Path) : List Name → Disk
  | [] => disk
  | name :: rest =>
    let next := stage.join name
    let disk := if disk.isDirectory next then disk else disk.place next .empty
    disk.makeDirectoriesFrom next rest

/-- The disk with a directory at a path and at every stage on the way to it. -/
def makeDirectories (disk : Disk) (path : Path) : Disk :=
  disk.makeDirectoriesFrom ⟨if path.isAbsolute then [slash] else []⟩
    (path.segments.filter fun segment => !segment.isEmpty)

/-- The disk with a directory at every stage on the way to the last name of a path. -/
def makeWay (disk : Disk) (path : Path) : Disk :=
  disk.makeDirectoriesFrom ⟨if path.isAbsolute then [slash] else []⟩
    (path.segments.filter fun segment => !segment.isEmpty).dropLast

end Disk

end Redirect
