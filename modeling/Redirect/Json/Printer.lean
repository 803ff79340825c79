/-
# Writing JSON

The two written forms of a JSON value: on one line without blanks, and spread over lines
with two blanks for each level of nesting. Both write texts alike: quotes, backslashes
and controls are escaped, everything else stands for itself.
-/

import Redirect.Json.Basic

namespace Redirect.Json

/-- A digit in base sixteen, lower case. -/
def hexDigit (n : Nat) : Char :=
  Nat.digitChar (n % 16)

/-- A character as it stands inside a JSON string. -/
def escapeChar (c : Char) : List Char :=
  if c = '\x22' then ['\\', '\x22']
  else if c = '\\' then ['\\', '\\']
  else if c = '\x08' then ['\\', 'b']
  else if c = '\x0c' then ['\\', 'f']
  else if c = '\n' then ['\\', 'n']
  else if c = '\r' then ['\\', 'r']
  else if c = '\t' then ['\\', 't']
  else if c.toNat < 0x20 then ['\\', 'u', '0', '0', hexDigit (c.toNat / 16), hexDigit c.toNat]
  else [c]

/-- A text as a JSON string, quotes included. -/
def printString (s : List Char) : List Char :=
  '\x22' :: (s.flatMap escapeChar ++ ['\x22'])

/-- The digits of a natural number. -/
def printNat (n : Nat) : List Char :=
  Nat.toDigits 10 n

/-- The written form of a number. -/
def Number.print (n : Number) : List Char :=
  let sign := if n.negative then ['-'] else []
  let fraction := if n.fraction.isEmpty then []
    else '.' :: n.fraction.map fun digit => Nat.digitChar digit.val
  let exponent := match n.exponent with
    | none => []
    | some exponent =>
      'e' :: ((if exponent < 0 then ['-'] else []) ++ printNat exponent.natAbs)
  sign ++ printNat n.whole ++ fraction ++ exponent

/-- The written form of a truth value. -/
def printBool (value : Bool) : List Char :=
  if value then ['t', 'r', 'u', 'e'] else ['f', 'a', 'l', 's', 'e']

/-- The text `null`. -/
def printNull : List Char :=
  ['n', 'u', 'l', 'l']

mutual

/-- A value on one line. -/
def print : Json → List Char
  | .null => printNull
  | .bool value => printBool value
  | .number value => value.print
  | .string value => printString value.toList
  | .array elements => '[' :: (printElements elements ++ [']'])
  | .object members => '\x7b' :: (printMembers members ++ ['\x7d'])

/-- Elements with commas between them. -/
def printElements : List Json → List Char
  | [] => []
  | [last] => print last
  | first :: second :: rest => print first ++ ',' :: printElements (second :: rest)

/-- Members with commas between them. -/
def printMembers : List (String × Json) → List Char
  | [] => []
  | [(key, value)] => printString key.toList ++ ':' :: print value
  | (key, value) :: second :: rest =>
    printString key.toList ++ ':' :: (print value ++ ',' :: printMembers (second :: rest))

end

/-- The start of a line at a level of nesting. -/
def newLine (level : Nat) : List Char :=
  '\n' :: List.replicate (2 * level) ' '

mutual

/-- A value over lines, when it stands at a level of nesting. -/
def printPretty (level : Nat) : Json → List Char
  | .null => printNull
  | .bool value => printBool value
  | .number value => value.print
  | .string value => printString value.toList
  | .array elements =>
    if elements.isEmpty then ['[', ']']
    else '[' :: (prettyElements (level + 1) elements ++ newLine level ++ [']'])
  | .object members =>
    if members.isEmpty then ['\x7b', '\x7d']
    else '\x7b' :: (prettyMembers (level + 1) members ++ newLine level ++ ['\x7d'])

/-- Elements, each on lines of its own. -/
def prettyElements (level : Nat) : List Json → List Char
  | [] => []
  | [last] => newLine level ++ printPretty level last
  | first :: second :: rest =>
    newLine level ++ printPretty level first ++ ',' :: prettyElements level (second :: rest)

/-- Members, each on lines of its own. -/
def prettyMembers (level : Nat) : List (String × Json) → List Char
  | [] => []
  | [(key, value)] =>
    newLine level ++ printString key.toList ++ ':' :: ' ' :: printPretty level value
  | (key, value) :: second :: rest =>
    newLine level ++ printString key.toList ++ ':' :: ' ' ::
      (printPretty level value ++ ',' :: prettyMembers level (second :: rest))

end

/-- The text of a value on one line. -/
def compress (value : Json) : String :=
  String.ofList value.print

/-- The text of a value over lines. -/
def pretty (value : Json) : String :=
  String.ofList (value.printPretty 0)

end Redirect.Json
