/-
# Refusals of the operating system

The ways in which an operation on a disk or an output can be refused, with the wording
in which a message gives them.
-/

namespace Redirect

/-- Why an operation was refused. -/
inductive OsError where
  /-- A name on the way is missing. -/
  | notFound
  /-- A name on the way, or a listed one, is no directory. -/
  | notDirectory
  /-- A directory cannot be read or written like a file. -/
  | isDirectory
  /-- The output has no room left. -/
  | outOfSpace
  /-- The path, or a name in it, is longer than the system takes. -/
  | nameTooLong
  /-- Too many links were followed, as in a ring of links. -/
  | tooManyLinks
  /-- The path holds a zero octet. -/
  | zeroOctet
  deriving DecidableEq, Repr

/-- The wording of a refusal. -/
def OsError.message : OsError → String
  | .notFound => "No such file or directory (os error 2)"
  | .notDirectory => "Not a directory (os error 20)"
  | .isDirectory => "Is a directory (os error 21)"
  | .outOfSpace => "No space left on device (os error 28)"
  | .nameTooLong => "File name too long (os error 36)"
  | .tooManyLinks => "Too many levels of symbolic links (os error 40)"
  | .zeroOctet => "file name contained an unexpected NUL byte"

end Redirect
