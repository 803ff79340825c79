/-
# Reading arrays and objects of a known shape

Arrays whose elements, and objects whose members, are read by a function that is given.
Reading goes from left to right and stops at the first mistake, so a mistake of shape
early in a text comes before one of form later in it.
-/

import Redirect.Json.Skip

namespace Redirect.Json

/-- Whether another element follows in an array, with the cursor before it; `first` tells
that none has been read. At the end of the array the cursor stays before its bracket. -/
def nextElement (first : Bool) (cursor : Cursor) : Except Mistake (Bool × Cursor) :=
  let cursor := cursor.skipBlanks
  match cursor.rest with
  | [] => cursor.wrongAfter .endInArray
  | c :: _ =>
    if c = ']' then .ok (false, cursor)
    else if first then .ok (true, cursor)
    else if c = ',' then
      let cursor := (cursor.advance 1).skipBlanks
      match cursor.rest with
      | [] => cursor.wrongAfter .endInValue
      | c :: _ => if c = ']' then cursor.wrongAfter .trailingComma else .ok (true, cursor)
    else cursor.wrongAfter .elementEndExpected

/-- The cursor after the bracket that ends an array. -/
def endArray (cursor : Cursor) : Except Mistake Cursor :=
  let cursor := cursor.skipBlanks
  match cursor.rest with
  | [] => cursor.wrongAfter .endInArray
  | c :: _ =>
    if c = ']' then .ok (cursor.advance 1)
    else if c = ',' then
      let cursor := (cursor.advance 1).skipBlanks
      match cursor.rest with
      | ']' :: _ => cursor.wrongAfter .trailingComma
      | _ => cursor.wrongAfter .trailingText
    else cursor.wrongAfter .trailingText

/-- Read elements up to the end of an array, at most as many as the first argument
says. -/
def readElements {α : Type} (element : Cursor → Except Mistake (α × Cursor)) :
    Nat → Bool → Cursor → Except Mistake (List α × Cursor)
  | 0, _, cursor => cursor.wrongAtEnd .endInArray
  | bound + 1, first, cursor => do
    let (more, cursor) ← nextElement first cursor
    if more then
      let (head, cursor) ← element cursor
      let (tail, cursor) ← readElements element bound false cursor
      .ok (head :: tail, cursor)
    else
      let cursor ← endArray cursor
      .ok ([], cursor)

/-- Read an array whose elements all have one shape. Every element takes a character of
the text, so the length of the text bounds their number. -/
def readArray {α : Type} (element : Cursor → Except Mistake (α × Cursor)) (cursor : Cursor) :
    Except Mistake (List α × Cursor) :=
  let cursor := cursor.skipBlanks
  match cursor.rest with
  | [] => cursor.wrongAfter .endInValue
  | c :: rest =>
    if c = '[' then readElements element (rest.length + 1) true (cursor.advance 1)
    else wrongShape "a sequence" cursor

/-- Read a string. -/
def readText (cursor : Cursor) : Except Mistake (String × Cursor) :=
  let cursor := cursor.skipBlanks
  match cursor.rest with
  | [] => cursor.wrongAfter .endInValue
  | c :: _ =>
    if c = '\x22' then do
      let (text, cursor) ← readString (cursor.advance 1)
      .ok (String.ofList text, cursor)
    else wrongShape "a string" cursor

/-- Whether another member follows in an object, with the cursor after the quote that
opens its key; `first` tells that none has been read. At the end of the object the cursor
stays before its brace. -/
def nextKey (first : Bool) (cursor : Cursor) : Except Mistake (Bool × Cursor) :=
  let cursor := cursor.skipBlanks
  match cursor.rest with
  | [] => cursor.wrongAfter .endInObject
  | c :: _ =>
    if c = '\x7d' then .ok (false, cursor)
    else if first then
      if c = '\x22' then .ok (true, cursor.advance 1) else cursor.wrongAfter .keyExpected
    else if c = ',' then
      let cursor := (cursor.advance 1).skipBlanks
      match cursor.rest with
      | [] => cursor.wrongAfter .endInValue
      | c :: _ =>
        if c = '\x22' then .ok (true, cursor.advance 1)
        else if c = '\x7d' then cursor.wrongAfter .trailingComma
        else cursor.wrongAfter .keyExpected
    else cursor.wrongAfter .memberEndExpected

/-- The cursor after the colon that follows a key. -/
def readColon (cursor : Cursor) : Except Mistake Cursor :=
  let cursor := cursor.skipBlanks
  match cursor.rest with
  | [] => cursor.wrongAfter .endInObject
  | c :: _ => if c = ':' then .ok (cursor.advance 1) else cursor.wrongAfter .colonExpected

/-- Read members up to the end of an object, at most as many as the first argument says.
`member` gets what the members before have given, a key, and the cursor after the key. -/
def readMembers {σ : Type} (member : σ → String → Cursor → Except Mistake (σ × Cursor)) :
    Nat → Bool → σ → Cursor → Except Mistake (σ × Cursor)
  | 0, _, _, cursor => cursor.wrongAtEnd .endInObject
  | bound + 1, first, state, cursor => do
    let (more, cursor) ← nextKey first cursor
    if more then
      let (key, cursor) ← readString cursor
      let (state, cursor) ← member state (String.ofList key) cursor
      readMembers member bound false state cursor
    else
      .ok (state, cursor.advance 1)

/-- Read the members of an object after its brace. Every member takes a character of the
text, so the length of the text bounds their number. -/
def readObject {σ : Type} (member : σ → String → Cursor → Except Mistake (σ × Cursor))
    (state : σ) (cursor : Cursor) : Except Mistake (σ × Cursor) :=
  readMembers member (cursor.rest.length + 1) true state cursor

/-- Read the value of a field that may occur once, after its key. `seen` is the value it
has had before. A repeated field is noticed where its object could end. -/
def readField {α : Type} (name : String) (seen : Option α)
    (value : Cursor → Except Mistake (α × Cursor)) (cursor : Cursor) :
    Except Mistake (α × Cursor) :=
  match seen with
  | some _ =>
    let cursor := cursor.skipBlanks
    match cursor.rest with
    | '\x7d' :: _ => (cursor.advance 1).wrongBefore (.repeatedField name)
    | _ => cursor.wrongBefore (.repeatedField name)
  | none => do
    let cursor ← readColon cursor
    value cursor

/-- Pass over a member of an object after its key. -/
def skipMember (cursor : Cursor) : Except Mistake Cursor := do
  let cursor ← readColon cursor
  skipValue cursor

/-- Nothing but blanks follows. -/
def endText (cursor : Cursor) : Except Mistake Unit :=
  let cursor := cursor.skipBlanks
  if cursor.rest.isEmpty then .ok () else cursor.wrongAfter .trailingText

end Redirect.Json
