/-
# Reading JSON scalars

Strings, numbers and the three words, read from a cursor. A string gives its characters
with the escapes resolved; a pair of surrogate escapes is one character. A number gives
a whole number when it is written without point and exponent and fits 64 bits, else the
binary fraction that its first digits, as many as fit 64 bits, and its exponent give in
two rounded steps.
-/

import Redirect.Json.Cursor

namespace Redirect.Json

/-- The value of a digit in base sixteen. -/
def hexValue? (c : Char) : Option Nat :=
  if c.isDigit then some (c.toNat - '0'.toNat)
  else if 'a' ≤ c ∧ c ≤ 'f' then some (c.toNat - 'a'.toNat + 10)
  else if 'A' ≤ c ∧ c ≤ 'F' then some (c.toNat - 'A'.toNat + 10)
  else none

/-- The value of four digits in base sixteen at the start of a text. -/
def fourHex? : List Char → Option Nat
  | a :: b :: c :: d :: _ => do
    let a ← hexValue? a
    let b ← hexValue? b
    let c ← hexValue? c
    let d ← hexValue? d
    some (((a * 16 + b) * 16 + c) * 16 + d)
  | _ => none

/-- Four digits in base sixteen after the cursor. Four octets are read before they are
looked at. -/
def readFourHex (cursor : Cursor) : Except Mistake Nat :=
  match fourHex? cursor.rest with
  | some value => .ok value
  | none =>
    if ((cursor.rest.take 4).flatMap String.utf8EncodeChar).length < 4 then
      cursor.wrongAtEnd .endInString
    else .error ⟨.badEscape, cursor.position.past 4 cursor.rest⟩

/-- A character given by its number after a backslash and a `u`, and how many characters
give it: four digits, or two surrogates, of which the second one has an escape of its
own. -/
def readUnicode (cursor : Cursor) : Except Mistake (Char × Nat) := do
  let high ← readFourHex cursor
  let cursor := cursor.advance 4
  if 0xDC00 ≤ high ∧ high ≤ 0xDFFF then
    cursor.wrongBefore .loneSurrogate
  else if high < 0xD800 ∨ 0xDBFF < high then
    .ok (Char.ofNat high, 4)
  else
    match cursor.rest with
    | [] => cursor.wrongAtEnd .endInString
    | '\\' :: 'u' :: _ =>
      let cursor := cursor.advance 2
      let low ← readFourHex cursor
      if low < 0xDC00 ∨ 0xDFFF < low then (cursor.advance 4).wrongBefore .loneSurrogate
      else .ok (Char.ofNat ((high - 0xD800) * 0x400 + (low - 0xDC00) + 0x10000), 10)
    | ['\\'] => cursor.wrongAtEnd .endInString
    | '\\' :: _ => (cursor.advance 1).wrongAfter .surrogateCutShort
    | _ => cursor.wrongAfter .surrogateCutShort

/-- The character that a letter after a backslash stands for. -/
def shortEscape? (c : Char) : Option Char :=
  if c = '\x22' ∨ c = '\\' ∨ c = '/' then some c
  else if c = 'b' then some '\x08'
  else if c = 'f' then some '\x0c'
  else if c = 'n' then some '\n'
  else if c = 'r' then some '\r'
  else if c = 't' then some '\t'
  else none

/-- Read the characters of a string after its opening quote. The first argument counts
the characters that an escape found before still covers. -/
def readStringFrom : Nat → Position → List Char → Except Mistake (List Char × Cursor)
  | _, position, [] => .error ⟨.endInString, position⟩
  | covered + 1, position, c :: rest => readStringFrom covered (position.step c) rest
  | 0, position, c :: rest =>
    if c = '\x22' then .ok ([], ⟨position.step c, rest⟩)
    else if c = '\\' then
      let here : Cursor := ⟨position.step c, rest⟩
      match rest with
      | [] => here.wrongAtEnd .endInString
      | letter :: after =>
        if letter = 'u' then do
          let found ← readUnicode ⟨here.position.step letter, after⟩
          let more ← readStringFrom (found.2 + 1) here.position rest
          .ok (found.1 :: more.1, more.2)
        else match shortEscape? letter with
          | some meant => do
            let more ← readStringFrom 1 here.position rest
            .ok (meant :: more.1, more.2)
          | none => here.wrongAfter .badEscape
    else if c.toNat < 0x20 then .error ⟨.controlInString, position.step c⟩
    else do
      let more ← readStringFrom 0 (position.step c) rest
      .ok (c :: more.1, more.2)

/-- Read a string after its opening quote: its characters, and the cursor after its
closing quote. -/
def readString (cursor : Cursor) : Except Mistake (List Char × Cursor) :=
  readStringFrom 0 cursor.position cursor.rest

/-- Read the rest of a word whose first letter has been read. -/
def readWord : List Char → Cursor → Except Mistake Cursor
  | [], cursor => .ok cursor
  | letter :: letters, cursor =>
    match cursor.rest with
    | [] => cursor.wrongBefore .endInValue
    | c :: _ =>
      if c = letter then readWord letters (cursor.advance 1)
      else cursor.wrongAfter .wordExpected

/-- The greatest whole number that a significand holds. -/
def greatestSignificand : Nat := Nat.pow 2 64 - 1

/-- The value of a decimal digit. -/
def digitValue (c : Char) : Nat :=
  c.toNat - '0'.toNat

/-- Take the digits of a whole part into a significand. Once a digit does not fit, it and
all that follow are counted instead. -/
def takeWhole (significand : Nat) : List Char → Nat × Nat
  | [] => (significand, 0)
  | c :: rest =>
    let next := significand * 10 + digitValue c
    if greatestSignificand < next then (significand, rest.length + 1)
    else takeWhole next rest

/-- Take the digits after the point into a significand, and lower the exponent for each.
Once a digit does not fit, it and all that follow are left out. -/
def takeFraction (significand : Nat) (exponent : Int) : List Char → Nat × Int
  | [] => (significand, exponent)
  | c :: rest =>
    let next := significand * 10 + digitValue c
    if greatestSignificand < next then (significand, exponent)
    else takeFraction next (exponent - 1) rest

/-- The greatest exponent that is told from greater ones. -/
def greatestExponent : Nat := Nat.pow 2 31 - 1

/-- The value of a row of digits, or how many of them are read until it is past the
greatest exponent. -/
def takeExponent (value count : Nat) : List Char → Except Nat Nat
  | [] => .ok value
  | c :: rest =>
    let next := value * 10 + digitValue c
    if greatestExponent < next then .error (count + 1) else takeExponent next (count + 1) rest

/-- A number divided by a power of ten below the greatest one. -/
def divideByTen (x : Decimal.Binary64) (exponent : Nat) : Option Decimal.Binary64 :=
  (Decimal.Binary64.powerOfTen? exponent).bind x.div?

/-- The binary fraction for a significand and an exponent of ten: the rounded significand
times or divided by the rounded power, or none when that is too large. A power below the
smallest is divided by in two steps. -/
def scaled? (significand : Nat) (exponent : Int) : Option Decimal.Binary64 := do
  let x ← Decimal.Binary64.ofRatio? significand 1
  if significand = 0 then some .zero
  else if 308 < exponent then none
  else if 0 ≤ exponent then
    x.mul? (← Decimal.Binary64.powerOfTen? exponent.toNat)
  else if -308 ≤ exponent then divideByTen x (-exponent).toNat
  else
    let x ← divideByTen x 308
    if -616 ≤ exponent then divideByTen x (-exponent - 308).toNat else some .zero

/-- The binary fraction for a significand and an exponent of ten, read up to the cursor. -/
def finishFraction (negative : Bool) (significand : Nat) (exponent : Int) (cursor : Cursor) :
    Except Mistake (Found × Cursor) :=
  match scaled? significand exponent with
  | some value => .ok (.fraction negative value, cursor)
  | none => cursor.wrongBefore .numberTooLarge

/-- Read the exponent of a number after its mark. -/
def readExponent (negative : Bool) (significand : Nat) (before : Int) (cursor : Cursor) :
    Except Mistake (Found × Cursor) :=
  let down := cursor.rest.head? == some '-'
  let cursor := if down || cursor.rest.head? == some '+' then cursor.advance 1 else cursor
  let digits := cursor.rest.takeWhile Char.isDigit
  if digits.isEmpty then
    if cursor.rest.isEmpty then cursor.wrongBefore .endInValue
    else cursor.wrongAfter .badNumber
  else
    match takeExponent 0 0 digits with
    | .ok value =>
      finishFraction negative significand (if down then before - value else before + value)
        (cursor.advance digits.length)
    | .error count =>
      if significand ≠ 0 ∧ !down then (cursor.advance count).wrongBefore .numberTooLarge
      else .ok (.fraction negative .zero, cursor.advance digits.length)

/-- Whether an exponent mark follows the cursor. -/
def atExponent (cursor : Cursor) : Bool :=
  cursor.rest.head? == some 'e' || cursor.rest.head? == some 'E'

/-- Read the digits after the point of a number. -/
def readFraction (negative : Bool) (significand : Nat) (before : Int) (cursor : Cursor) :
    Except Mistake (Found × Cursor) :=
  let digits := cursor.rest.takeWhile Char.isDigit
  if digits.isEmpty then
    cursor.wrongAfter (if cursor.rest.isEmpty then .endInValue else .badNumber)
  else
    let taken := takeFraction significand before digits
    let cursor := cursor.advance digits.length
    if atExponent cursor then readExponent negative taken.1 taken.2 (cursor.advance 1)
    else finishFraction negative taken.1 taken.2 cursor

/-- A whole number, when it fits 64 bits with its sign. Minus zero is a fraction. -/
def whole? (negative : Bool) (significand : Nat) : Option Found :=
  if !negative then some (.natural significand)
  else if significand = 0 ∨ Nat.pow 2 63 < significand then none
  else some (.negative significand)

/-- Read a number after its sign. -/
def readNumber (negative : Bool) (cursor : Cursor) : Except Mistake (Found × Cursor) :=
  let digits := cursor.rest.takeWhile Char.isDigit
  if digits.isEmpty then
    if cursor.rest.isEmpty then cursor.wrongBefore .endInValue
    else cursor.wrongAfter .badNumber
  else if digits.head? == some '0' && 1 < digits.length then
    (cursor.advance 1).wrongAfter .badNumber
  else
    let taken := takeWhole 0 digits
    let cursor := cursor.advance digits.length
    if cursor.rest.head? == some '.' then
      readFraction negative taken.1 taken.2 (cursor.advance 1)
    else if atExponent cursor then
      readExponent negative taken.1 taken.2 (cursor.advance 1)
    else match whole? negative taken.1 with
      | some found =>
        if taken.2 = 0 then .ok (found, cursor)
        else finishFraction negative taken.1 taken.2 cursor
      | none => finishFraction negative taken.1 taken.2 cursor

/-- The mistake of a value whose shape is not the expected one, at a cursor before it.
A scalar is read first, so a mistake inside it comes before the one about its shape; an
array or object is not entered. -/
def wrongShape {α : Type} (expected : String) (cursor : Cursor) : Except Mistake α := do
  let (found, cursor) ← match cursor.rest with
    | [] => cursor.wrongAfter .valueExpected
    | c :: _ =>
      let next := cursor.advance 1
      if c = 'n' then do .ok (Found.null, ← readWord ['u', 'l', 'l'] next)
      else if c = 't' then do .ok (Found.bool true, ← readWord ['r', 'u', 'e'] next)
      else if c = 'f' then do .ok (Found.bool false, ← readWord ['a', 'l', 's', 'e'] next)
      else if c = '-' then readNumber true next
      else if c.isDigit then readNumber false cursor
      else if c = '\x22' then do
        let (text, next) ← readString next
        .ok (Found.string text, next)
      else if c = '[' then .ok (Found.array, cursor)
      else if c = '\x7b' then .ok (Found.object, cursor)
      else cursor.wrongAfter .valueExpected
  cursor.wrongBefore (.wrongShape found expected)

end Redirect.Json
