/-
# Directory trees

A tree of directories, files and symbolic links. A directory keeps its entries in no
particular order, as a disk does; everything that shows entries sorts them by name. A
location is the sequence of names that leads from the top of a tree to a node, through
directories only.
-/

import Redirect.Path
import Redirect.Text.Order

namespace Redirect

/-- A node of a directory tree. -/
inductive Node where
  /-- A regular file and what it holds. -/
  | file (data : Bytes)
  /-- A symbolic link and the path it stands for. -/
  | link (target : Path)
  /-- A directory and its entries. -/
  | directory (entries : List (Name × Node))

/-- The names that lead from the top of a tree to a node. -/
abbrev Location := List Name

/-- The kind of a node. -/
inductive Kind where
  | file
  | link
  | directory
  deriving DecidableEq, Repr

/-- Sort by name. -/
def sortByName {α : Type} (entries : List (Name × α)) : List (Name × α) :=
  entries.mergeSort fun first second => !Text.precedes UInt8.toNat second.1 first.1

namespace Node

/-- A directory without entries. -/
def empty : Node :=
  .directory []

/-- The kind of a node. -/
def kind : Node → Kind
  | .file _ => .file
  | .link _ => .link
  | .directory _ => .directory

/-- The entries of a directory. -/
def entries : Node → List (Name × Node)
  | .directory entries => entries
  | _ => []

/-- The entry of a directory with a name. -/
def child? (node : Node) (name : Name) : Option Node :=
  node.entries.lookup name

/-- The node at a location. -/
def at? (node : Node) : Location → Option Node
  | [] => some node
  | name :: rest => (node.child? name).bind fun child => child.at? rest

/-- Give a name to a node among the entries of a directory: an entry of that name is
replaced where it stands, else a new one is added. -/
def setEntry (name : Name) (node : Node) : List (Name × Node) → List (Name × Node)
  | [] => [(name, node)]
  | entry :: rest =>
    if entry.1 = name then (name, node) :: rest else entry :: setEntry name node rest

/-- Put a node at a location. Missing directories on the way are made; where a file or a
link is in the way, nothing changes. -/
def set (node : Node) (location : Location) (new : Node) : Node :=
  match location, node with
  | [], _ => new
  | name :: rest, .directory entries =>
    .directory (setEntry name (((entries.lookup name).getD empty).set rest new) entries)
  | _ :: _, other => other

/-- Take the node at a location away, with everything below it. -/
def erase (node : Node) (location : Location) : Node :=
  match location, node with
  | [name], .directory entries => .directory (entries.filter fun entry => entry.1 ≠ name)
  | name :: rest, .directory entries =>
    match entries.lookup name with
    | some child => .directory (setEntry name (child.erase rest) entries)
    | none => .directory entries
  | _, other => other

mutual

/-- The nodes below a node, each with its location, in no particular order. -/
def descendants : Node → List (Location × Node)
  | .directory entries => descendantsOf entries
  | _ => []

/-- The nodes of entries and the nodes below them, each with its location. -/
def descendantsOf : List (Name × Node) → List (Location × Node)
  | [] => []
  | (name, node) :: rest =>
    ([name], node) :: (descendants node).map (fun found => (name :: found.1, found.2)) ++
      descendantsOf rest

end

end Node

end Redirect
