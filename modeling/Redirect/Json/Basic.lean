/-
# JSON values

A JSON value as it is written: numbers keep their digits, and an object keeps its members
in the order in which they stand. Objects that a program builds up field by field keep
their members sorted by key, one member a key.
-/

import Redirect.Text.Order

namespace Redirect

/-- A number as it is written: a sign, a whole part, the digits after the point when there
are any, and an exponent of ten when there is one. -/
structure Json.Number where
  negative : Bool := false
  whole : Nat
  fraction : List (Fin 10) := []
  exponent : Option Int := none
  deriving DecidableEq, Repr

/-- A JSON value. -/
inductive Json where
  | null
  | bool (value : Bool)
  | number (value : Json.Number)
  | string (value : String)
  | array (elements : List Json)
  | object (members : List (String × Json))
  deriving Inhabited

namespace Json

/-- A natural number as a JSON value. -/
def ofNat (n : Nat) : Json :=
  .number { whole := n }

/-- An integer as a JSON value. -/
def ofInt (n : Int) : Json :=
  .number { negative := n < 0, whole := n.natAbs }

/-- A sequence of texts as a JSON value. -/
def ofStrings (texts : List String) : Json :=
  .array (texts.map .string)

/-- Give a key a value among members sorted by key: the member of that key is replaced,
else a new one goes where it belongs. -/
def insertMember (key : String) (value : Json) : List (String × Json) → List (String × Json)
  | [] => [(key, value)]
  | member :: rest =>
    if member.1 = key then (key, value) :: rest
    else if Text.precedes Char.toNat key.toList member.1.toList then (key, value) :: member :: rest
    else member :: insertMember key value rest

/-- The object with the given members, sorted by key. Of two members with one key the
later one stays. -/
def ofMembers (members : List (String × Json)) : Json :=
  .object (members.foldl (fun sorted member => insertMember member.1 member.2 sorted) [])

/-- The value of a member of an object. -/
def member? (key : String) : Json → Option Json
  | .object members => members.lookup key
  | _ => none

end Json

end Redirect
