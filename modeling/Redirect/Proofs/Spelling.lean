/-
# The spellings of a JSON value

A JSON value can be written in many ways: blanks may stand between tokens, a character of a string
may be escaped though it need not be, and an exponent has several forms. The relation here says of a
text that it is one of the ways, without saying how to read it. What the printer writes, on one line
or over lines, is one of them.
-/

import Mathlib.Tactic.SplitIfs
import Redirect.Json.Printer
import Redirect.Json.Scalar
import Redirect.Proofs.Stretches

namespace Redirect.Json

/-! ## Strings -/

/-- Some characters stand for a character inside a string: itself, if it is neither a quote nor a
backslash nor a control, a backslash with a letter, its number in base sixteen, or the numbers of
the two surrogates that it is made of. -/
inductive SpellsChar : Char → List Char → Prop
  | plain {c : Char} (notQuote : c ≠ '\x22') (notBackslash : c ≠ '\\')
      (noControl : 0x20 ≤ c.toNat) : SpellsChar c [c]
  | short {letter c : Char} (means : shortEscape? letter = some c) : SpellsChar c ['\\', letter]
  | unicode {first second third fourth c : Char}
      (number : fourHex? [first, second, third, fourth] = some c.toNat) :
      SpellsChar c ['\\', 'u', first, second, third, fourth]
  | pair {first second third fourth fifth sixth seventh eighth : Char} {high low : Nat}
      (highNumber : fourHex? [first, second, third, fourth] = some high)
      (lowNumber : fourHex? [fifth, sixth, seventh, eighth] = some low)
      (isHigh : 0xD800 ≤ high ∧ high ≤ 0xDBFF) (isLow : 0xDC00 ≤ low ∧ low ≤ 0xDFFF) :
      SpellsChar (.ofNat ((high - 0xD800) * 0x400 + (low - 0xDC00) + 0x10000))
        ['\\', 'u', first, second, third, fourth, '\\', 'u', fifth, sixth, seventh, eighth]

/-- The characters between the quotes of a string. -/
inductive SpellsText : List Char → List Char → Prop
  | nil : SpellsText [] []
  | cons {c : Char} {text s t : List Char} (first : SpellsChar c s) (rest : SpellsText text t) :
      SpellsText (c :: text) (s ++ t)

/-! ## Numbers -/

/-- The sign of an exponent. -/
def SpellsSign (exponent : Int) (s : List Char) : Prop :=
  s = ['-'] ∧ exponent ≤ 0 ∨ (s = [] ∨ s = ['+']) ∧ 0 ≤ exponent

/-- The exponent of a number, if it has one. -/
def SpellsExponent : Option Int → List Char → Prop
  | none, s => s = []
  | some exponent, s =>
    ∃ mark sign zeros, (mark = 'e' ∨ mark = 'E') ∧ SpellsSign exponent sign ∧
      s = mark :: (sign ++ (List.replicate zeros '0' ++ printNat exponent.natAbs))

/-- The digits after the point of a number, if it has any. -/
def printFraction (fraction : List (Fin 10)) : List Char :=
  if fraction.isEmpty then [] else '.' :: fraction.map fun digit => Nat.digitChar digit.val

/-- A number is written in one way up to its exponent. -/
def Number.Spells (n : Number) (s : List Char) : Prop :=
  ∃ exponent, SpellsExponent n.exponent exponent ∧
    s = (if n.negative then ['-'] else []) ++
      (printNat n.whole ++ (printFraction n.fraction ++ exponent))

/-! ## Values -/

/-- Blanks between tokens. -/
def Blanks (s : List Char) : Prop :=
  ∀ c ∈ s, Cursor.isJsonBlank c = true

mutual

/-- A text spells a value. -/
inductive Spells : Json → List Char → Prop
  | null : Spells .null printNull
  | bool (value : Bool) : Spells (.bool value) (printBool value)
  | number {value : Number} {s : List Char} (spells : value.Spells s) : Spells (.number value) s
  | string {value : String} {s : List Char} (spells : SpellsText value.toList s) :
      Spells (.string value) ('\x22' :: (s ++ ['\x22']))
  | emptyArray {blanks : List Char} (areBlanks : Blanks blanks) :
      Spells (.array []) ('[' :: (blanks ++ [']']))
  | array {first : Json} {rest : List Json} {blanks s t : List Char} (areBlanks : Blanks blanks)
      (spells : Spells first s) (others : SpellsElements rest t) :
      Spells (.array (first :: rest)) ('[' :: (blanks ++ (s ++ t)))
  | emptyObject {blanks : List Char} (areBlanks : Blanks blanks) :
      Spells (.object []) ('\x7b' :: (blanks ++ ['\x7d']))
  | object {first : String × Json} {rest : List (String × Json)} {blanks s t : List Char}
      (areBlanks : Blanks blanks) (spells : SpellsMember first s) (others : SpellsMembers rest t) :
      Spells (.object (first :: rest)) ('\x7b' :: (blanks ++ (s ++ t)))

/-- What follows an element of an array: the elements after it, and the bracket. -/
inductive SpellsElements : List Json → List Char → Prop
  | last {blanks : List Char} (areBlanks : Blanks blanks) : SpellsElements [] (blanks ++ [']'])
  | next {first : Json} {rest : List Json} {before after s t : List Char}
      (blanksBefore : Blanks before) (blanksAfter : Blanks after) (spells : Spells first s)
      (others : SpellsElements rest t) :
      SpellsElements (first :: rest) (before ++ ',' :: (after ++ (s ++ t)))

/-- A member of an object. -/
inductive SpellsMember : String × Json → List Char → Prop
  | member {key : String} {value : Json} {before after s t : List Char}
      (spellsKey : SpellsText key.toList s) (blanksBefore : Blanks before)
      (blanksAfter : Blanks after) (spells : Spells value t) :
      SpellsMember (key, value) ('\x22' :: (s ++ '\x22' :: (before ++ ':' :: (after ++ t))))

/-- What follows a member of an object: the members after it, and the brace. -/
inductive SpellsMembers : List (String × Json) → List Char → Prop
  | last {blanks : List Char} (areBlanks : Blanks blanks) :
      SpellsMembers [] (blanks ++ ['\x7d'])
  | next {first : String × Json} {rest : List (String × Json)} {before after s t : List Char}
      (blanksBefore : Blanks before) (blanksAfter : Blanks after) (spells : SpellsMember first s)
      (others : SpellsMembers rest t) :
      SpellsMembers (first :: rest) (before ++ ',' :: (after ++ (s ++ t)))

end

/-- A whole text spells a value, with blanks around it. -/
def SpellsAlone (value : Json) (text : String) : Prop :=
  ∃ before s after, Blanks before ∧ Spells value s ∧ Blanks after ∧
    text.toList = before ++ (s ++ after)

/-! ## How a value begins -/

/-- What a value is, without what it holds. -/
inductive Kind where
  | null
  | bool
  | number
  | string
  | array
  | object
  deriving DecidableEq, Repr

/-- The kind of a value. -/
def kind : Json → Kind
  | .null => .null
  | .bool _ => .bool
  | .number _ => .number
  | .string _ => .string
  | .array _ => .array
  | .object _ => .object

/-- The kind of the values that begin with a character, if any do. -/
def kindOf? (c : Char) : Option Kind :=
  if c = 'n' then some .null
  else if c = 't' ∨ c = 'f' then some .bool
  else if c = '-' ∨ c.isDigit = true then some .number
  else if c = '\x22' then some .string
  else if c = '[' then some .array
  else if c = '\x7b' then some .object
  else none

theorem ne_of_isDigit {c other : Char} (isDigit : c.isDigit = true)
    (notDigit : other.isDigit = false) : c ≠ other := by
  rintro rfl
  rw [isDigit] at notDigit
  cases notDigit

theorem isDigit_of_mem_printNat {n : Nat} {c : Char} (member : c ∈ printNat n) :
    c.isDigit = true :=
  Text.isDigit_of_mem_toDigits member

theorem kindOf?_of_isDigit {c : Char} (isDigit : c.isDigit = true) :
    kindOf? c = some .number := by
  rw [kindOf?, if_neg (ne_of_isDigit isDigit rfl),
    if_neg (not_or.mpr ⟨ne_of_isDigit isDigit rfl, ne_of_isDigit isDigit rfl⟩),
    if_pos (.inr isDigit)]

/-- The first character of a value tells its kind. -/
theorem exists_kindOf? {value : Json} {s : List Char} (spells : Spells value s) :
    ∃ c t, s = c :: t ∧ kindOf? c = some value.kind := by
  cases spells with
  | bool value => cases value <;> exact ⟨_, _, rfl, rfl⟩
  | @number value _ spells =>
    obtain ⟨exponent, -, rfl⟩ := spells
    cases value.negative with
    | true => exact ⟨_, _, rfl, rfl⟩
    | false =>
      cases printed : printNat value.whole with
      | nil => exact absurd printed Nat.toDigits_ne_nil
      | cons c digits =>
        have member : c ∈ printNat value.whole := printed ▸ List.mem_cons_self
        exact ⟨c, _, rfl, kindOf?_of_isDigit (isDigit_of_mem_printNat member)⟩
  | _ => exact ⟨_, _, rfl, rfl⟩

theorem ne_of_kindOf?_eq_none {c other : Char} {kind : Kind} (begins : kindOf? c = some kind)
    (noValue : kindOf? other = none) : c ≠ other := by
  rintro rfl
  rw [begins] at noValue
  cases noValue

theorem ne_of_kindOf?_ne {c other : Char} {kind : Kind} (begins : kindOf? c = some kind)
    (otherKind : Kind) (otherBegins : kindOf? other = some otherKind) (differ : kind ≠ otherKind) :
    c ≠ other := by
  rintro rfl
  exact differ (Option.some.inj (begins.symm.trans otherBegins))

/-- No value begins with a blank. -/
theorem isJsonBlank_eq_false {c : Char} {kind : Kind} (begins : kindOf? c = some kind) :
    Cursor.isJsonBlank c = false := by
  have noValue {blank : Char} (none : kindOf? blank = none) : (c == blank) = false :=
    beq_false_of_ne (ne_of_kindOf?_eq_none begins none)
  rw [Cursor.isJsonBlank, noValue rfl, noValue rfl, noValue rfl, noValue rfl]
  rfl

/-! ## What the printer writes -/

theorem blanks_nil : Blanks [] :=
  List.forall_mem_nil _

theorem hexValue?_hexDigit (n : Nat) : hexValue? (hexDigit n) = some (n % 16) := by
  have digits : ∀ digit < 16, hexValue? (Nat.digitChar digit) = some digit := by decide
  exact digits (n % 16) (Nat.mod_lt n (by decide))

theorem spellsChar_escapeChar (c : Char) : SpellsChar c (escapeChar c) := by
  rw [escapeChar]
  split_ifs with quote backslash back form line carriage tab control
  · exact .short (by rw [quote]; rfl)
  · exact .short (by rw [backslash]; rfl)
  · exact .short (by rw [back]; rfl)
  · exact .short (by rw [form]; rfl)
  · exact .short (by rw [line]; rfl)
  · exact .short (by rw [carriage]; rfl)
  · exact .short (by rw [tab]; rfl)
  · refine .unicode ?_
    have zero : hexValue? '0' = some 0 := rfl
    simp only [fourHex?, zero, hexValue?_hexDigit]
    show some _ = _
    congr 1
    omega
  · exact .plain quote backslash (by omega)

theorem spellsText_printed (s : List Char) : SpellsText s (s.flatMap escapeChar) := by
  induction s with
  | nil => exact .nil
  | cons c rest ih => exact .cons (spellsChar_escapeChar c) ih

theorem number_spells_print (n : Number) : n.Spells n.print := by
  obtain ⟨negative, whole, fraction, exponent⟩ := n
  have regroup (sign digits fraction exponent : List Char) :
      sign ++ digits ++ fraction ++ exponent = sign ++ (digits ++ (fraction ++ exponent)) := by
    rw [List.append_assoc, List.append_assoc]
  cases exponent with
  | none => exact ⟨[], rfl, regroup _ _ _ _⟩
  | some exponent =>
    have sign : SpellsSign exponent (if exponent < 0 then ['-'] else []) := by
      split
      · exact .inl ⟨rfl, by omega⟩
      · exact .inr ⟨.inl rfl, by omega⟩
    exact ⟨_, ⟨'e', _, 0, .inl rfl, sign, rfl⟩, regroup _ _ _ _⟩

/-- Whatever holds of a value where it holds of all elements or of the values of all members holds
of every value. -/
theorem forall_of_parts {P : Json → Prop} (null : P .null) (bool : ∀ value, P (.bool value))
    (number : ∀ value, P (.number value)) (string : ∀ value, P (.string value))
    (array : ∀ elements : List Json, (∀ element ∈ elements, P element) → P (.array elements))
    (object : ∀ members : List (String × Json), (∀ member ∈ members, P member.2) →
      P (.object members)) (value : Json) : P value :=
  @Json.rec P (fun elements => ∀ element ∈ elements, P element)
    (fun members => ∀ member ∈ members, P member.2) (fun member => P member.2) null bool number
    string array object (List.forall_mem_nil _)
    (fun _ _ first rest => List.forall_mem_cons.mpr ⟨first, rest⟩) (List.forall_mem_nil _)
    (fun _ _ first rest => List.forall_mem_cons.mpr ⟨first, rest⟩) (fun _ _ value => value) value

section Written

variable {line close : List Char}

/-- Elements behind the first one, each of them behind a comma and the same blanks. -/
theorem spellsElements_written (areBlanks : Blanks line) (blanksClose : Blanks close)
    {write : Json → List Char} {elements : List Json}
    (spells : ∀ element ∈ elements, Spells element (write element)) :
    SpellsElements elements
      (elements.flatMap (fun element => ',' :: (line ++ write element)) ++ (close ++ [']'])) := by
  induction elements with
  | nil => exact .last blanksClose
  | cons first rest ih =>
    obtain ⟨spellsFirst, spellsRest⟩ := List.forall_mem_cons.mp spells
    have spelled := SpellsElements.next blanks_nil areBlanks spellsFirst (ih spellsRest)
    rwa [List.flatMap_cons, List.append_assoc, List.cons_append, List.append_assoc]

/-- Members behind the first one, each of them behind a comma and the same blanks. -/
theorem spellsMembers_written (areBlanks : Blanks line) (blanksClose : Blanks close)
    {write : String × Json → List Char} {members : List (String × Json)}
    (spells : ∀ member ∈ members, SpellsMember member (write member)) :
    SpellsMembers members
      (members.flatMap (fun member => ',' :: (line ++ write member)) ++ (close ++ ['\x7d'])) := by
  induction members with
  | nil => exact .last blanksClose
  | cons first rest ih =>
    obtain ⟨spellsFirst, spellsRest⟩ := List.forall_mem_cons.mp spells
    have spelled := SpellsMembers.next blanks_nil areBlanks spellsFirst (ih spellsRest)
    rwa [List.flatMap_cons, List.append_assoc, List.cons_append, List.append_assoc]

end Written

theorem printElements_cons (first : Json) (rest : List Json) :
    printElements (first :: rest) =
      first.print ++ rest.flatMap fun element => ',' :: ([] ++ element.print) := by
  induction rest generalizing first with
  | nil => rw [printElements, List.flatMap_nil, List.append_nil]
  | cons second rest ih =>
    rw [printElements, ih, List.flatMap_cons]
    rfl

/-- The member of an object on one line. -/
def printMember (member : String × Json) : List Char :=
  printString member.1.toList ++ ':' :: member.2.print

theorem spells_printMember {member : String × Json} (spells : Spells member.2 member.2.print) :
    SpellsMember member (printMember member) := by
  have printed : printMember member = '\x22' :: (member.1.toList.flatMap escapeChar ++
      '\x22' :: ([] ++ ':' :: ([] ++ member.2.print))) := by
    rw [printMember, printString, List.cons_append, List.append_assoc]
    rfl
  rw [printed]
  exact .member (spellsText_printed _) blanks_nil blanks_nil spells

theorem printMembers_cons (first : String × Json) (rest : List (String × Json)) :
    printMembers (first :: rest) =
      printMember first ++ rest.flatMap fun member => ',' :: ([] ++ printMember member) := by
  induction rest generalizing first with
  | nil =>
    rw [List.flatMap_nil, List.append_nil]
    rfl
  | cons second rest ih =>
    simp only [printMembers, ih, printMember, List.flatMap_cons, List.append_assoc,
      List.cons_append, List.nil_append]

/-- What the printer writes on one line spells the value. -/
theorem spells_print (value : Json) : Spells value value.print := by
  induction value using forall_of_parts with
  | null => exact .null
  | bool value => exact .bool value
  | number value => exact .number (number_spells_print value)
  | string value => exact .string (spellsText_printed value.toList)
  | array elements spells =>
    cases elements with
    | nil => exact .emptyArray blanks_nil
    | cons first rest =>
      obtain ⟨spellsFirst, spellsRest⟩ := List.forall_mem_cons.mp spells
      have spelled := Spells.array blanks_nil spellsFirst
        (spellsElements_written blanks_nil blanks_nil spellsRest)
      rw [print, printElements_cons, List.append_assoc]
      exact spelled
  | object members spells =>
    cases members with
    | nil => exact .emptyObject blanks_nil
    | cons first rest =>
      obtain ⟨spellsFirst, spellsRest⟩ := List.forall_mem_cons.mp spells
      have others := spellsMembers_written blanks_nil blanks_nil
        fun member isMember => spells_printMember (spellsRest member isMember)
      have spelled := Spells.object blanks_nil (spells_printMember spellsFirst) others
      rw [print, printMembers_cons, List.append_assoc]
      exact spelled

theorem blanks_newLine (level : Nat) : Blanks (newLine level) := by
  refine List.forall_mem_cons.mpr ⟨rfl, fun c member => ?_⟩
  rw [List.eq_of_mem_replicate member]
  rfl

theorem prettyElements_cons (level : Nat) (first : Json) (rest : List Json) :
    prettyElements level (first :: rest) = newLine level ++ (first.printPretty level ++
      rest.flatMap fun element => ',' :: (newLine level ++ element.printPretty level)) := by
  induction rest generalizing first with
  | nil => rw [prettyElements, List.flatMap_nil, List.append_nil]
  | cons second rest ih =>
    rw [prettyElements, ih, List.flatMap_cons, List.append_assoc, List.cons_append,
      List.append_assoc]

/-- The member of an object on lines, when it stands at a level of nesting. -/
def prettyMember (level : Nat) (member : String × Json) : List Char :=
  printString member.1.toList ++ ':' :: ' ' :: member.2.printPretty level

theorem spells_prettyMember {level : Nat} {member : String × Json}
    (spells : Spells member.2 (member.2.printPretty level)) :
    SpellsMember member (prettyMember level member) := by
  have blank : Blanks [' '] := List.forall_mem_singleton.mpr rfl
  have spelled := SpellsMember.member (spellsText_printed member.1.toList) blanks_nil blank spells
  rwa [prettyMember, printString, List.cons_append, List.append_assoc]

theorem prettyMembers_cons (level : Nat) (first : String × Json) (rest : List (String × Json)) :
    prettyMembers level (first :: rest) = newLine level ++ (prettyMember level first ++
      rest.flatMap fun member => ',' :: (newLine level ++ prettyMember level member)) := by
  induction rest generalizing first with
  | nil =>
    rw [prettyMembers, List.flatMap_nil, List.append_nil, List.append_assoc]
    rfl
  | cons second rest ih =>
    simp only [prettyMembers, ih, prettyMember, List.flatMap_cons, List.append_assoc,
      List.cons_append]

/-- What the printer writes over lines spells the value. -/
theorem spells_printPretty (value : Json) (level : Nat) :
    Spells value (value.printPretty level) := by
  induction value using forall_of_parts generalizing level with
  | null => exact .null
  | bool value => exact .bool value
  | number value => exact .number (number_spells_print value)
  | string value => exact .string (spellsText_printed value.toList)
  | array elements spells =>
    cases elements with
    | nil => exact .emptyArray blanks_nil
    | cons first rest =>
      obtain ⟨spellsFirst, spellsRest⟩ := List.forall_mem_cons.mp spells
      have others := spellsElements_written (blanks_newLine (level + 1)) (blanks_newLine level)
        fun element isElement => spellsRest element isElement (level + 1)
      have spelled := Spells.array (blanks_newLine (level + 1)) (spellsFirst (level + 1)) others
      rwa [← List.append_assoc (first.printPretty _), ← List.append_assoc (newLine _),
        ← prettyElements_cons, ← List.append_assoc] at spelled
  | object members spells =>
    cases members with
    | nil => exact .emptyObject blanks_nil
    | cons first rest =>
      obtain ⟨spellsFirst, spellsRest⟩ := List.forall_mem_cons.mp spells
      have others := spellsMembers_written (blanks_newLine (level + 1)) (blanks_newLine level)
        fun member isMember => spells_prettyMember (spellsRest member isMember (level + 1))
      have spelled := Spells.object (blanks_newLine (level + 1))
        (spells_prettyMember (spellsFirst (level + 1))) others
      rwa [← List.append_assoc (prettyMember _ _), ← List.append_assoc (newLine _),
        ← prettyMembers_cons, ← List.append_assoc] at spelled

theorem spellsAlone_compress (value : Json) : SpellsAlone value value.compress :=
  ⟨[], value.print, [], blanks_nil, spells_print value, blanks_nil, by
    rw [compress, String.toList_ofList, List.append_nil, List.nil_append]⟩

end Redirect.Json
