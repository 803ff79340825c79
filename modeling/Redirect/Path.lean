/-
# Paths

A path is a sequence of octets that slashes divide into segments. Paths are compared,
cut and classified by their components: empty segments and dots inside a path say
nothing, a leading slash is the root, two dots are the parent, and any other segment is
a name. Nothing here looks at a disk, so two dots are never resolved.
-/

import Redirect.Text.Utf8

namespace Redirect

/-- The octet that divides a path into segments. -/
def slash : UInt8 := 0x2F

/-- The octet that sets off an extension. -/
def dot : UInt8 := 0x2E

/-- The spelling of one entry in a directory. -/
abbrev Name := Bytes

/-- A path, as it was spelled. -/
structure Path where
  bytes : Bytes
  deriving DecidableEq, Repr, Inhabited

namespace Path

/-- The path that a text spells. -/
def ofText (text : String) : Path :=
  ⟨Utf8.encode text⟩

/-- The path as text for people to read. -/
def display (path : Path) : String :=
  Utf8.decodeLossy path.bytes

/-- The path as exact text, when it is one. -/
def text? (path : Path) : Option String :=
  Utf8.decode? path.bytes

/-- What a path is made of. -/
inductive Component where
  /-- The leading slash of an absolute path. -/
  | root
  /-- A leading single dot. -/
  | current
  /-- Two dots. -/
  | parent
  /-- A name. -/
  | normal (name : Name)
  deriving DecidableEq, Repr

/-- Put an octet in front of a path already divided at its slashes. -/
def pushSegment (b : UInt8) : List Bytes → List Bytes
  | [] => if b = slash then [[], []] else [[b]]
  | first :: rest => if b = slash then [] :: first :: rest else (b :: first) :: rest

/-- The stretches between slashes; empty ones are kept. -/
def segments (path : Path) : List Bytes :=
  path.bytes.foldr pushSegment [[]]

/-- An absolute path begins with a slash. -/
def isAbsolute (path : Path) : Bool :=
  path.bytes.head? == some slash

/-- A segment that is not the first one, as a component. -/
def componentOf? (segment : Bytes) : Option Component :=
  if segment.isEmpty || segment == [dot] then none
  else if segment == [dot, dot] then some .parent
  else some (.normal segment)

/-- The components of a path, in order. -/
def components (path : Path) : List Component :=
  if path.isAbsolute then
    .root :: path.segments.filterMap componentOf?
  else match path.segments with
    | [] => []
    | first :: rest =>
      if first == [dot] then .current :: rest.filterMap componentOf?
      else (first :: rest).filterMap componentOf?

/-- Two paths name the same place in any directory when their components agree. -/
def equivalent (first second : Path) : Bool :=
  first.components == second.components

/-- The name at the end of a path. A path that ends in two dots has none. -/
def fileName? (path : Path) : Option Name :=
  match path.components.getLast? with
  | some (.normal name) => some name
  | _ => none

/-- What follows the last dot of a name, unless nothing stands before that dot. -/
def extensionOf? (name : Name) : Option Bytes :=
  let after := (name.reverse.takeWhile (· != dot)).reverse
  if after.length + 1 < name.length then some after else none

/-- The extension of the name at the end of a path. -/
def extension? (path : Path) : Option Bytes :=
  path.fileName?.bind extensionOf?

/-- The extension, when it is a text. -/
def extensionText? (path : Path) : Option String :=
  path.extension?.bind Utf8.decode?

/-- The components of a path below another one; all of them when it is not below it. -/
def componentsBelow (root path : Path) : List Component :=
  (root.components.isPrefixOf? path.components).getD path.components

/-- The names of the directories that a path goes through below another path. -/
def directoriesBelow (root path : Path) : List Name :=
  (componentsBelow root path).dropLast.filterMap fun
    | .normal name => some name
    | _ => none

/-- The path of an entry in the directory that a path names. -/
def join (directory : Path) (name : Name) : Path :=
  match directory.bytes.getLast? with
  | none => ⟨name⟩
  | some last => ⟨directory.bytes ++ (if last = slash then name else slash :: name)⟩

end Path

end Redirect
