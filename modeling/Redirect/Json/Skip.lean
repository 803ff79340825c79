/-
# Passing over a JSON value

A value that nobody asks for is only checked. The check is a machine that reads one
character at a time: its mode tells what may come next, and a stack tells which arrays
and objects are open. It looks at form alone, so a number may be too large to hold, a
surrogate may stand alone, and nesting may be of any depth.
-/

import Redirect.Json.Scalar

namespace Redirect.Json

/-- What is open around the place reached. -/
inductive Frame where
  | array
  | object
  deriving DecidableEq, Repr

/-- What may come next. -/
inductive Mode where
  /-- A value. -/
  | value
  /-- A value, or the end of the array that has just begun. -/
  | arrayStart
  /-- A key, or the end of the object that has just begun. -/
  | objectStart
  /-- A key. -/
  | key
  /-- The colon after a key. -/
  | colon
  /-- A comma, or the end of what is open. -/
  | after
  /-- A character of a string. -/
  | text (isKey : Bool)
  /-- The character after a backslash. -/
  | escape (isKey : Bool)
  /-- Digits of a character's number that have been looked at already. -/
  | hex (isKey : Bool) (left : Nat)
  /-- The letters that are left of a word. -/
  | word (letters : List Char)
  /-- The first digit of a number after its sign. -/
  | minus
  /-- What follows a leading zero. -/
  | zero
  /-- A further digit of the whole part. -/
  | whole
  /-- The first digit after the point. -/
  | point
  /-- A further digit after the point. -/
  | fraction
  /-- A sign or the first digit of an exponent. -/
  | mark
  /-- The first digit of an exponent after its sign. -/
  | markSign
  /-- A further digit of an exponent. -/
  | exponent
  deriving DecidableEq, Repr

/-- What the machine does with a character. -/
inductive Move where
  /-- Take it and go on. -/
  | go (mode : Mode) (frames : List Frame)
  /-- Take it: the value ends with it. -/
  | endWith
  /-- Leave it: the value has ended before it. -/
  | endBefore

/-- The move after the last character of a value inside what is open. -/
def ended : List Frame → Move
  | [] => .endWith
  | frame :: outer => .go .after (frame :: outer)

/-- The move on a character after a value that is inside what is open. -/
def stepAfter (frames : List Frame) (position : Position) (c : Char) (rest : List Char) :
    Except Mistake Move :=
  if Cursor.isJsonBlank c then .ok (.go .after frames)
  else
    let here : Cursor := ⟨position, c :: rest⟩
    match frames with
    | [] => .ok .endBefore
    | .array :: outer =>
      if c = ',' then .ok (.go .value frames)
      else if c = ']' then .ok (ended outer)
      else here.wrongAfter .elementEndExpected
    | .object :: outer =>
      if c = ',' then .ok (.go .key frames)
      else if c = '\x7d' then .ok (ended outer)
      else here.wrongAfter .memberEndExpected

/-- The move on a character that does not continue a number. -/
def stepPastNumber (frames : List Frame) (position : Position) (c : Char) (rest : List Char) :
    Except Mistake Move :=
  if frames.isEmpty then .ok .endBefore else stepAfter frames position c rest

/-- The move on the first character of a value. -/
def stepValue (frames : List Frame) (position : Position) (c : Char) (rest : List Char) :
    Except Mistake Move :=
  if c = 'n' then .ok (.go (.word ['u', 'l', 'l']) frames)
  else if c = 't' then .ok (.go (.word ['r', 'u', 'e']) frames)
  else if c = 'f' then .ok (.go (.word ['a', 'l', 's', 'e']) frames)
  else if c = '-' then .ok (.go .minus frames)
  else if c = '0' then .ok (.go .zero frames)
  else if c.isDigit then .ok (.go .whole frames)
  else if c = '\x22' then .ok (.go (.text false) frames)
  else if c = '[' then .ok (.go .arrayStart (.array :: frames))
  else if c = '\x7b' then .ok (.go .objectStart (.object :: frames))
  else Cursor.wrongAfter ⟨position, c :: rest⟩ .valueExpected

/-- The move on the first character of a key. -/
def stepKey (frames : List Frame) (position : Position) (c : Char) (rest : List Char) :
    Except Mistake Move :=
  if c = '\x22' then .ok (.go (.text true) frames)
  else Cursor.wrongAfter ⟨position, c :: rest⟩ .keyExpected

/-- The move on a character, with the text that follows it. -/
def step (mode : Mode) (frames : List Frame) (position : Position) (c : Char)
    (rest : List Char) : Except Mistake Move :=
  let here : Cursor := ⟨position, c :: rest⟩
  match mode with
  | .value =>
    if Cursor.isJsonBlank c then .ok (.go .value frames) else stepValue frames position c rest
  | .arrayStart =>
    if Cursor.isJsonBlank c then .ok (.go .arrayStart frames)
    else if c = ']' then .ok (ended frames.tail)
    else stepValue frames position c rest
  | .objectStart =>
    if Cursor.isJsonBlank c then .ok (.go .objectStart frames)
    else if c = '\x7d' then .ok (ended frames.tail)
    else stepKey frames position c rest
  | .key =>
    if Cursor.isJsonBlank c then .ok (.go .key frames) else stepKey frames position c rest
  | .colon =>
    if Cursor.isJsonBlank c then .ok (.go .colon frames)
    else if c = ':' then .ok (.go .value frames)
    else here.wrongAfter .colonExpected
  | .after => stepAfter frames position c rest
  | .text isKey =>
    if c = '\x22' then .ok (if isKey then .go .colon frames else ended frames)
    else if c = '\\' then .ok (.go (.escape isKey) frames)
    else if c.toNat < 0x20 then here.wrongBefore .controlInString
    else .ok (.go (.text isKey) frames)
  | .escape isKey =>
    if c = 'u' then do
      let _ ← readFourHex ⟨position.step c, rest⟩
      .ok (.go (.hex isKey 3) frames)
    else if (shortEscape? c).isSome then .ok (.go (.text isKey) frames)
    else here.wrongAfter .badEscape
  | .hex isKey 0 => .ok (.go (.text isKey) frames)
  | .hex isKey (left + 1) => .ok (.go (.hex isKey left) frames)
  | .word [] => .ok .endBefore
  | .word [last] => if c = last then .ok (ended frames) else here.wrongAfter .wordExpected
  | .word (letter :: letters) =>
    if c = letter then .ok (.go (.word letters) frames) else here.wrongAfter .wordExpected
  | .minus =>
    if c = '0' then .ok (.go .zero frames)
    else if c.isDigit then .ok (.go .whole frames)
    else here.wrongAfter .badNumber
  | .zero =>
    if c.isDigit then here.wrongAfter .badNumber
    else if c = '.' then .ok (.go .point frames)
    else if c = 'e' ∨ c = 'E' then .ok (.go .mark frames)
    else stepPastNumber frames position c rest
  | .whole =>
    if c.isDigit then .ok (.go .whole frames)
    else if c = '.' then .ok (.go .point frames)
    else if c = 'e' ∨ c = 'E' then .ok (.go .mark frames)
    else stepPastNumber frames position c rest
  | .point =>
    if c.isDigit then .ok (.go .fraction frames) else here.wrongAfter .badNumber
  | .fraction =>
    if c.isDigit then .ok (.go .fraction frames)
    else if c = 'e' ∨ c = 'E' then .ok (.go .mark frames)
    else stepPastNumber frames position c rest
  | .mark =>
    if c = '+' ∨ c = '-' then .ok (.go .markSign frames)
    else if c.isDigit then .ok (.go .exponent frames)
    else here.wrongAfter .badNumber
  | .markSign =>
    if c.isDigit then .ok (.go .exponent frames) else here.wrongAfter .badNumber
  | .exponent =>
    if c.isDigit then .ok (.go .exponent frames) else stepPastNumber frames position c rest

/-- What the end of the text cuts short when a value inside what is open has ended. -/
def openProblem? : List Frame → Option Problem
  | [] => none
  | .array :: _ => some .endInArray
  | .object :: _ => some .endInObject

/-- What the end of the text cuts short. A number may end with the text. -/
def endProblem? (frames : List Frame) : Mode → Option Problem
  | .value | .word _ => some .endInValue
  | .arrayStart => some .endInArray
  | .objectStart | .key | .colon => some .endInObject
  | .text _ | .escape _ | .hex _ _ => some .endInString
  | .minus | .point | .mark | .markSign => some .badNumber
  | .after | .zero | .whole | .fraction | .exponent => openProblem? frames

/-- Run the machine. -/
def skipFrom (mode : Mode) (frames : List Frame) (position : Position) :
    List Char → Except Mistake Cursor
  | [] =>
    match endProblem? frames mode with
    | some problem => .error ⟨problem, position⟩
    | none => .ok ⟨position, []⟩
  | c :: rest =>
    match step mode frames position c rest with
    | .error mistake => .error mistake
    | .ok (.go next frames) => skipFrom next frames (position.step c) rest
    | .ok .endWith => .ok ⟨position.step c, rest⟩
    | .ok .endBefore => .ok ⟨position, c :: rest⟩

/-- The cursor after the value that follows it. -/
def skipValue (cursor : Cursor) : Except Mistake Cursor :=
  skipFrom .value [] cursor.position cursor.rest

end Redirect.Json
