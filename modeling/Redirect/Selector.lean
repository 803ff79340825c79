/-
# Selection of files

Which files of a tree are looked into: those with a listed extension, unless their name
or a directory on the way to them from the root is excluded. Names and directories are
compared as people read them, an extension only when it is a text. Directories above the
root do not count, and a directory is excluded by its whole name only.
-/

import Redirect.Path

namespace Redirect

/-- What makes a file selected. -/
structure Selector where
  extensions : List String
  excludedNames : List String
  excludedSegments : List String
  deriving DecidableEq, Repr

namespace Selector

/-- The extension of a path is listed. -/
def hasExtension (extensions : List String) (path : Path) : Bool :=
  path.extensionText?.any extensions.contains

/-- The name at the end of a path as people read it. -/
def shownName (path : Path) : String :=
  (path.fileName?.map Utf8.decodeLossy).getD ""

/-- A path found below a root is selected. -/
def selects (selector : Selector) (root path : Path) : Bool :=
  hasExtension selector.extensions path &&
    !selector.excludedNames.contains (shownName path) &&
    !(root.directoriesBelow path).any fun name =>
      selector.excludedSegments.contains (Utf8.decodeLossy name)

end Selector

end Redirect
