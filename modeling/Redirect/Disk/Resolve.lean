/-
# From a path to a place on a disk

A path is resolved segment by segment. A name leads into a directory; two dots lead out
of it, and stay at the top; a link stands for its target, counted from the directory that
holds it or from the top. At most forty links are followed. What a path means when its
last name is missing depends on the purpose: for reading it is an error, for writing it
is a place where a file can be made.
-/

import Redirect.Disk.Node
import Redirect.Disk.OsError

namespace Redirect

/-- A tree and the location in it where relative paths begin. -/
structure Disk where
  tree : Node
  workingLocation : Location

namespace Disk

/-- What a path is resolved for. -/
inductive Purpose where
  | reading
  | writing
  deriving DecidableEq, Repr

/-- Where a path leads. -/
inductive Place where
  /-- To a file. -/
  | file (location : Location) (data : Bytes)
  /-- To a directory. -/
  | directory (location : Location) (entries : List (Name × Node))
  /-- To a missing name in a directory that is there. -/
  | vacant (location : Location)

/-- The longest name, in octets. -/
def longestName : Nat := 255

/-- The longest path, in octets. -/
def longestPath : Nat := 4095

/-- The number of links that one resolution follows. -/
def mostLinks : Nat := 40

/-- Go on from a directory along segments. `follow` goes on where a link leads. -/
def descend (tree : Node) (purpose : Purpose)
    (follow : Location → List Bytes → Except OsError Place) :
    Location → List Bytes → Except OsError Place
  | here, [] =>
    match tree.at? here with
    | some (.directory entries) => .ok (.directory here entries)
    | _ => .error .notFound
  | here, segment :: rest =>
    if segment.isEmpty || segment == [dot] then
      descend tree purpose follow here rest
    else if segment == [dot, dot] then
      descend tree purpose follow here.dropLast rest
    else if purpose = .writing && !rest.isEmpty && rest.all List.isEmpty then
      .error .isDirectory
    else if longestName < segment.length then
      .error .nameTooLong
    else
      let there := here ++ [segment]
      match tree.at? there with
      | none =>
        if purpose = .writing && rest.isEmpty then .ok (.vacant there) else .error .notFound
      | some (.directory _) => descend tree purpose follow there rest
      | some (.file data) =>
        if rest.isEmpty then .ok (.file there data) else .error .notDirectory
      | some (.link target) =>
        follow (if target.isAbsolute then [] else here) (target.segments ++ rest)

/-- Go on from a directory along segments, with at most as many links on the way as the
first argument says. -/
def descendWithin (tree : Node) (purpose : Purpose) :
    Nat → Location → List Bytes → Except OsError Place
  | 0 => descend tree purpose fun _ _ => .error .tooManyLinks
  | links + 1 => descend tree purpose (descendWithin tree purpose links)

/-- Refuse what no system call takes as a path. -/
def checkPath (path : Path) : Except OsError Unit :=
  if path.bytes.contains 0 then .error .zeroOctet
  else if path.bytes.isEmpty then .error .notFound
  else if longestPath < path.bytes.length then .error .nameTooLong
  else .ok ()

/-- Where a path leads. -/
def resolve (disk : Disk) (purpose : Purpose) (path : Path) : Except OsError Place := do
  checkPath path
  descendWithin disk.tree purpose mostLinks
    (if path.isAbsolute then [] else disk.workingLocation) path.segments

end Disk

end Redirect
