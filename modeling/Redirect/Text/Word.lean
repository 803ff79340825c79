/-
# Word characters and identifiers

A word character is a letter, mark, decimal digit, connector or join control. A call is
recognised only where its name is not glued to one, so the class decides what counts as
a whole name. Identifiers are the ASCII names that a rule may redirect; each of their
characters is a word character.
-/

import Redirect.Text.Ranges
import Redirect.Text.WordTable

namespace Redirect.Text

/-- Letters, digits and the underscore in ASCII, and the tabulated characters beyond. -/
def isWord (c : Char) : Bool :=
  if c.toNat < 0x80 then c.isAlphanum || c == '_' else inRanges wordRanges c

/-- A character that may begin an identifier: an ASCII letter or the underscore. -/
def isIdentifierStart (c : Char) : Bool :=
  c.isAlpha || c == '_'

/-- A character that may continue an identifier: an ASCII letter or digit, or the underscore. -/
def isIdentifierPart (c : Char) : Bool :=
  c.isAlphanum || c == '_'

/-- A text is an identifier when it is not empty, begins with a letter or underscore,
and goes on with letters, digits and underscores. -/
def isIdentifier : List Char → Bool
  | [] => false
  | c :: rest => isIdentifierStart c && rest.all isIdentifierPart

end Redirect.Text
