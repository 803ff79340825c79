/-
# Places in a JSON text

A cursor is a place in a text: the text from there on, and the line and column of the
place. Lines count from one; the column is the number of octets since the line began, so
it is the column of the last octet read. A mistake names what is wrong and the place where
that was noticed: either the cursor itself, when the wrong octets have been read, or one
octet further, when the wrong octet was only looked at.
-/

import Redirect.Text.Quoted
import Redirect.Decimal.Shortest

namespace Redirect.Json

/-- A line and a column. -/
structure Position where
  line : Nat
  column : Nat
  deriving DecidableEq, Repr

namespace Position

/-- The position before the first octet. -/
def start : Position := ⟨1, 0⟩

/-- The position after a character. -/
def step (position : Position) (c : Char) : Position :=
  if c = '\n' then ⟨position.line + 1, 0⟩
  else ⟨position.line, position.column + c.utf8Size⟩

/-- The position after some octets of a text, or after all of it when it is shorter. -/
def past (position : Position) (octets : Nat) : List Char → Position
  | [] => position
  | c :: rest =>
    if octets = 0 then position
    else if octets < c.utf8Size then ⟨position.line, position.column + octets⟩
    else (position.step c).past (octets - c.utf8Size) rest

/-- The position after a whole text. -/
def pastAll (position : Position) (s : List Char) : Position :=
  s.foldl step position

end Position

/-- What a value was found to be, where another shape was called for. -/
inductive Found where
  | null
  | bool (value : Bool)
  | natural (value : Nat)
  | negative (magnitude : Nat)
  | fraction (negative : Bool) (value : Decimal.Binary64)
  | string (text : List Char)
  | array
  | object
  deriving DecidableEq, Repr

/-- Fractions in messages: written out between a hundred-thousandth and ten to the
sixteenth. -/
def fractionStyle : Decimal.Style := ⟨-5, 16⟩

/-- The wording for a value found. -/
def Found.describe : Found → String
  | .null => "null"
  | .bool value => "boolean `" ++ toString value ++ "`"
  | .natural value => "integer `" ++ toString value ++ "`"
  | .negative magnitude => "integer `-" ++ toString magnitude ++ "`"
  | .fraction isNegative value =>
    "floating point `" ++ String.ofList (fractionStyle.write isNegative value) ++ "`"
  | .string text => "string " ++ String.ofList (Text.quote text)
  | .array => "sequence"
  | .object => "map"

/-- What can be wrong with a JSON text that is to have a given shape. -/
inductive Problem where
  | endInValue
  | endInString
  | endInArray
  | endInObject
  | valueExpected
  | wordExpected
  | colonExpected
  | elementEndExpected
  | memberEndExpected
  | keyExpected
  | trailingComma
  | trailingText
  | badNumber
  | numberTooLarge
  | badEscape
  | controlInString
  | loneSurrogate
  | surrogateCutShort
  | wrongShape (found : Found) (expected : String)
  | tooFew (count : Nat) (expected : String)
  | missingField (name : String)
  | repeatedField (name : String)
  deriving DecidableEq, Repr

/-- The wording of a problem. -/
def Problem.message : Problem → String
  | .endInValue => "EOF while parsing a value"
  | .endInString => "EOF while parsing a string"
  | .endInArray => "EOF while parsing a list"
  | .endInObject => "EOF while parsing an object"
  | .valueExpected => "expected value"
  | .wordExpected => "expected ident"
  | .colonExpected => "expected `:`"
  | .elementEndExpected => "expected `,` or `]`"
  | .memberEndExpected => "expected `,` or `\x7d`"
  | .keyExpected => "key must be a string"
  | .trailingComma => "trailing comma"
  | .trailingText => "trailing characters"
  | .badNumber => "invalid number"
  | .numberTooLarge => "number out of range"
  | .badEscape => "invalid escape"
  | .controlInString => "control character (\\u0000-\\u001F) found while parsing a string"
  | .loneSurrogate => "lone leading surrogate in hex escape"
  | .surrogateCutShort => "unexpected end of hex escape"
  | .wrongShape found expected =>
    "invalid type: " ++ found.describe ++ ", expected " ++ expected
  | .tooFew count expected =>
    "invalid length " ++ toString count ++ ", expected " ++ expected
  | .missingField name => "missing field `" ++ name ++ "`"
  | .repeatedField name => "duplicate field `" ++ name ++ "`"

/-- A problem and the place where it was noticed. -/
structure Mistake where
  problem : Problem
  position : Position
  deriving DecidableEq, Repr

/-- The wording of a mistake. -/
def Mistake.message (mistake : Mistake) : String :=
  mistake.problem.message ++ " at line " ++ toString mistake.position.line ++
    " column " ++ toString mistake.position.column

/-- A place in a text. -/
structure Cursor where
  position : Position
  rest : List Char
  deriving DecidableEq, Repr

namespace Cursor

/-- The start of a text. -/
def ofText (s : List Char) : Cursor :=
  ⟨.start, s⟩

/-- A mistake at the cursor: the octets before it are wrong. -/
def wrongBefore {α : Type} (cursor : Cursor) (problem : Problem) : Except Mistake α :=
  .error ⟨problem, cursor.position⟩

/-- A mistake about the octet that follows the cursor, or about the end of the text. -/
def wrongAfter {α : Type} (cursor : Cursor) (problem : Problem) : Except Mistake α :=
  .error ⟨problem, cursor.position.past 1 cursor.rest⟩

/-- A mistake at the end of the text. -/
def wrongAtEnd {α : Type} (cursor : Cursor) (problem : Problem) : Except Mistake α :=
  .error ⟨problem, cursor.position.pastAll cursor.rest⟩

/-- The cursor after some characters. -/
def advance (count : Nat) (cursor : Cursor) : Cursor :=
  ⟨cursor.position.pastAll (cursor.rest.take count), cursor.rest.drop count⟩

/-- A blank between the tokens of a JSON text. -/
def isJsonBlank (c : Char) : Bool :=
  c == ' ' || c == '\n' || c == '\t' || c == '\r'

/-- The cursor after the blanks that follow it. -/
def skipBlanks (cursor : Cursor) : Cursor :=
  ⟨cursor.position.pastAll (cursor.rest.takeWhile isJsonBlank),
    cursor.rest.dropWhile isJsonBlank⟩

end Cursor

end Redirect.Json
