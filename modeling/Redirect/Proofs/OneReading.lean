/-
# What a text spells

A text spells one JSON value at most, however values can be written. The first character of a value
tells its kind, and every part of it ends where it must: blanks in front of what is no blank, digits
in front of what is no digit, the text of a string in front of its quote, and a whole value where
the machine that passes over it stops.
-/

import Redirect.Proofs.Reading

namespace Redirect.Json

open Text (BeginsApart beginsApart_cons beginsApart_toDigits stretch_inj toDigits_append_inj)

variable {s t rest other : List Char}

/-! ## Where parts end -/

/-- Blanks are told from what follows them. -/
theorem blanks_inj {blanks others : List Char} {c d : Char} (areBlanks : Blanks blanks)
    (areBlanksToo : Blanks others) (visible : Cursor.isJsonBlank c = false)
    (visibleToo : Cursor.isJsonBlank d = false)
    (same : blanks ++ c :: rest = others ++ d :: other) : c = d ∧ rest = other := by
  obtain ⟨-, sameRest⟩ := stretch_inj areBlanks areBlanksToo (beginsApart_cons visible rest)
    (beginsApart_cons visibleToo other) same
  exact List.cons.inj sameRest

/-- The text of a string is told from what follows its quote. -/
theorem text_inj {text otherText : List Char} (spells : SpellsText text s)
    (spellsToo : SpellsText otherText t) (same : s ++ '\x22' :: rest = t ++ '\x22' :: other) :
    text = otherText ∧ rest = other := by
  obtain ⟨after, found⟩ := readString_text spells Position.start rest
  obtain ⟨afterToo, foundToo⟩ := readString_text spellsToo Position.start other
  rw [same, foundToo, Except.ok.injEq, Prod.mk.injEq, Cursor.mk.injEq] at found
  exact ⟨found.1.symm, found.2.2.symm⟩

theorem Spells.beginsApart {value : Json} (spells : Spells value s) (rest : List Char) :
    BeginsApart Cursor.isJsonBlank (s ++ rest) := by
  obtain ⟨c, t, rfl, begins⟩ := exists_kindOf? spells
  exact beginsApart_cons (isJsonBlank_eq_false begins) _

/-- A value is told from the blanks in front of it and from what follows it. -/
theorem value_inj {value otherValue : Json} {blanks others : List Char} (areBlanks : Blanks blanks)
    (areBlanksToo : Blanks others) (spells : Spells value s) (spellsToo : Spells otherValue t)
    (delimited : Delimited rest) (delimitedToo : Delimited other)
    (same : blanks ++ (s ++ rest) = others ++ (t ++ other)) : s = t ∧ rest = other := by
  obtain ⟨-, sameBehind⟩ := stretch_inj areBlanks areBlanksToo (spells.beginsApart rest)
    (spellsToo.beginsApart other) same
  have skipped := skipValue_of_spells spells blanks_nil delimited Position.start
  have skippedToo := skipValue_of_spells spellsToo blanks_nil delimitedToo Position.start
  rw [sameBehind, skippedToo, Except.ok.injEq, Cursor.mk.injEq] at skipped
  obtain ⟨-, rfl⟩ := skipped
  exact ⟨List.append_cancel_right sameBehind, rfl⟩

/-! ## Numbers -/

/-- Digits tell a number, whatever zeros stand in front of them. -/
theorem zeros_printNat_inj {zeros others n m : Nat}
    (same : List.replicate zeros '0' ++ printNat n = List.replicate others '0' ++ printNat m) :
    n = m := by
  have read (zeros n : Nat) :
      Nat.ofDigitChars 10 (List.replicate zeros '0' ++ printNat n) 0 = n := by
    rw [Nat.ofDigitChars_append, Nat.ofDigitChars_replicate_zero, Nat.mul_zero, printNat,
      Nat.ofDigitChars_ten_toDigits]
  rw [← read zeros n, same, read]

theorem beginsApart_zeros_printNat (zeros n : Nat) :
    BeginsApart (!·.isDigit) (List.replicate zeros '0' ++ printNat n) := by
  intro c begins
  rw [Bool.not_eq_false']
  rcases List.mem_append.mp (List.mem_of_mem_head? begins) with zero | digit
  · rw [List.eq_of_mem_replicate zero]
    rfl
  · exact isDigit_of_mem_printNat digit

theorem SpellsSign.isDigit_eq_false {exponent : Int} (spells : SpellsSign exponent s) :
    ∀ c ∈ s, (!c.isDigit) = true := by
  obtain ⟨rfl, -⟩ | ⟨rfl | rfl, -⟩ := spells
  · exact List.forall_mem_singleton.mpr rfl
  · exact List.forall_mem_nil _
  · exact List.forall_mem_singleton.mpr rfl

/-- A sign and an absolute value tell an exponent, though a sign may stand in front of zero. -/
theorem SpellsSign.unique {exponent otherExponent : Int} (spells : SpellsSign exponent s)
    (spellsToo : SpellsSign otherExponent s)
    (same : exponent.natAbs = otherExponent.natAbs) : exponent = otherExponent := by
  obtain ⟨rfl, isNegative⟩ | ⟨unsigned, isPositive⟩ := spells
  · obtain ⟨-, isNegativeToo⟩ | ⟨unsigned, -⟩ := spellsToo
    · omega
    · simp at unsigned
  · obtain ⟨rfl, -⟩ | ⟨-, isPositiveToo⟩ := spellsToo
    · simp at unsigned
    · omega

/-- An exponent begins with its mark. -/
theorem SpellsExponent.begins {exponent : Option Int} (spells : SpellsExponent exponent s) :
    ∀ c ∈ s.head?, c = 'e' ∨ c = 'E' := by
  cases exponent with
  | none =>
    obtain rfl := spells
    rintro _ ⟨⟩
  | some exponent =>
    obtain ⟨mark, sign, zeros, isMark, -, rfl⟩ := spells
    rintro _ ⟨⟩
    exact isMark

theorem SpellsExponent.unique {exponent otherExponent : Option Int}
    (spells : SpellsExponent exponent s) (spellsToo : SpellsExponent otherExponent s) :
    exponent = otherExponent := by
  cases exponent with
  | none =>
    obtain rfl := spells
    cases otherExponent with
    | none => rfl
    | some =>
      obtain ⟨_, _, _, -, -, same⟩ := spellsToo
      cases same
  | some exponent =>
    obtain ⟨mark, sign, zeros, -, spellsSign, rfl⟩ := spells
    cases otherExponent with
    | none => cases spellsToo
    | some otherExponent =>
      obtain ⟨otherMark, otherSign, others, -, spellsSignToo, same⟩ := spellsToo
      obtain ⟨-, sameBehind⟩ := List.cons.inj same
      obtain ⟨rfl, sameDigits⟩ := stretch_inj spellsSign.isDigit_eq_false
        spellsSignToo.isDigit_eq_false (beginsApart_zeros_printNat zeros _)
        (beginsApart_zeros_printNat others _) sameBehind
      rw [spellsSign.unique spellsSignToo (zeros_printNat_inj sameDigits)]

/-- A character of the part of a number that stands between its whole part and its exponent. -/
def isFractional (c : Char) : Bool :=
  c == '.' || c.isDigit

theorem eq_of_digitChar_eq : ∀ first second : Fin 10,
    Nat.digitChar first = Nat.digitChar second → first = second := by
  decide

theorem isDigit_digitChar : ∀ digit : Fin 10, (Nat.digitChar digit).isDigit = true := by
  decide

theorem isFractional_of_mem {fraction : List (Fin 10)} :
    ∀ c ∈ printFraction fraction, isFractional c = true := by
  cases fraction with
  | nil => exact List.forall_mem_nil _
  | cons first rest =>
    refine List.forall_mem_cons.mpr ⟨rfl, List.forall_mem_map.mpr fun digit _ => ?_⟩
    rw [isFractional, isDigit_digitChar, Bool.or_true]

theorem printFraction_injective : Function.Injective printFraction := by
  intro fraction otherFraction same
  cases fraction with
  | nil =>
    cases otherFraction with
    | nil => rfl
    | cons => cases same
  | cons first rest =>
    cases otherFraction with
    | nil => cases same
    | cons => exact (List.map_inj_right eq_of_digitChar_eq).mp (List.cons.inj same).2

section Parts

variable (begins : ∀ c ∈ rest.head?, c = 'e' ∨ c = 'E')
include begins

theorem beginsApart_isFractional : BeginsApart isFractional rest := by
  intro c isFirst
  obtain rfl | rfl := begins c isFirst <;> rfl

theorem beginsApart_isDigit (fraction : List (Fin 10)) :
    BeginsApart Char.isDigit (printFraction fraction ++ rest) := by
  cases fraction with
  | nil =>
    intro c isFirst
    obtain rfl | rfl := begins c isFirst <;> rfl
  | cons => exact beginsApart_cons rfl _

end Parts

theorem beginsApart_whole (n : Nat) (s : List Char) :
    BeginsApart (· == '-') (printNat n ++ s) :=
  beginsApart_toDigits (fun _ isDigit => beq_false_of_ne (ne_of_isDigit isDigit rfl)) n s

theorem eq_minus_of_mem (negative : Bool) :
    ∀ c ∈ (if negative then ['-'] else []), (c == '-') = true := by
  cases negative with
  | false => exact List.forall_mem_nil _
  | true => exact List.forall_mem_singleton.mpr rfl

/-- A text spells one number at most. -/
theorem Number.Spells.unique {n m : Number} (spells : n.Spells s) (spellsToo : m.Spells s) :
    n = m := by
  obtain ⟨negative, whole, fraction, exponent⟩ := n
  obtain ⟨otherNegative, otherWhole, otherFraction, otherExponent⟩ := m
  obtain ⟨u, spellsExponent, rfl⟩ := spells
  obtain ⟨v, spellsExponentToo, same⟩ := spellsToo
  obtain ⟨sameSign, sameBehind⟩ := stretch_inj (eq_minus_of_mem negative)
    (eq_minus_of_mem otherNegative) (beginsApart_whole _ _) (beginsApart_whole _ _) same
  obtain ⟨rfl, sameBehind⟩ := toDigits_append_inj (beginsApart_isDigit spellsExponent.begins _)
    (beginsApart_isDigit spellsExponentToo.begins _) sameBehind
  obtain ⟨sameFraction, rfl⟩ := stretch_inj isFractional_of_mem isFractional_of_mem
    (beginsApart_isFractional spellsExponent.begins)
    (beginsApart_isFractional spellsExponentToo.begins) sameBehind
  obtain rfl := printFraction_injective sameFraction
  obtain rfl := spellsExponent.unique spellsExponentToo
  have sameNegative : negative = otherNegative := by
    cases negative <;> cases otherNegative <;> simp at sameSign ⊢
  rw [sameNegative]

/-! ## Values -/

theorem kind_eq {value otherValue : Json} (spells : Spells value s)
    (spellsToo : Spells otherValue s) : value.kind = otherValue.kind := by
  obtain ⟨c, t, rfl, begins⟩ := exists_kindOf? spells
  obtain ⟨d, u, same, beginsToo⟩ := exists_kindOf? spellsToo
  obtain ⟨rfl, -⟩ := List.cons.inj same
  exact Option.some.inj (begins.symm.trans beginsToo)

/-- No text that spells the value spells another one. -/
def Unmistakable (value : Json) : Prop :=
  ∀ other s t, Spells value s → Spells other t → s = t → value = other

theorem SpellsElements.delimited {elements : List Json} (spells : SpellsElements elements s) :
    Delimited s :=
  List.append_nil s ▸ spells.apart []

theorem SpellsMembers.delimited {members : List (String × Json)}
    (spells : SpellsMembers members s) : Delimited s :=
  List.append_nil s ▸ spells.apart []

theorem SpellsElements.unique {elements others : List Json}
    (unmistakable : ∀ element ∈ elements, element.Unmistakable)
    (spells : SpellsElements elements s) (spellsToo : SpellsElements others t) (same : s = t) :
    elements = others := by
  induction elements generalizing others s t with
  | nil =>
    cases spells with
    | last areBlanks =>
      cases spellsToo with
      | last => rfl
      | next areBlanksToo => cases (blanks_inj areBlanks areBlanksToo rfl rfl same).1
  | cons first rest ih =>
    obtain ⟨isFirst, areOthers⟩ := List.forall_mem_cons.mp unmistakable
    cases spells with
    | next blanksBefore blanksAfter spells others =>
      cases spellsToo with
      | last areBlanksToo => cases (blanks_inj blanksBefore areBlanksToo rfl rfl same).1
      | next blanksBeforeToo blanksAfterToo spellsToo othersToo =>
        obtain ⟨-, sameBehind⟩ := blanks_inj blanksBefore blanksBeforeToo rfl rfl same
        obtain ⟨sameText, sameOthers⟩ := value_inj blanksAfter blanksAfterToo spells spellsToo
          others.delimited othersToo.delimited sameBehind
        rw [isFirst _ _ _ spells spellsToo sameText, ih areOthers others othersToo sameOthers]

/-- A member is told from the blanks in front of it and from what follows it. -/
theorem member_inj {member otherMember : String × Json} {blanks others : List Char}
    (unmistakable : member.2.Unmistakable) (areBlanks : Blanks blanks)
    (areBlanksToo : Blanks others) (spells : SpellsMember member s)
    (spellsToo : SpellsMember otherMember t) (delimited : Delimited rest)
    (delimitedToo : Delimited other) (same : blanks ++ (s ++ rest) = others ++ (t ++ other)) :
    member = otherMember ∧ rest = other := by
  cases spells with
  | member spellsKey blanksBefore blanksAfter spells =>
    cases spellsToo with
    | member spellsKeyToo blanksBeforeToo blanksAfterToo spellsToo =>
      simp only [List.cons_append, List.append_assoc] at same
      obtain ⟨-, sameText⟩ := blanks_inj areBlanks areBlanksToo rfl rfl same
      obtain ⟨sameKey, sameBehind⟩ := text_inj spellsKey spellsKeyToo sameText
      obtain ⟨-, sameBehind⟩ := blanks_inj blanksBefore blanksBeforeToo rfl rfl sameBehind
      obtain ⟨sameValue, sameRest⟩ := value_inj blanksAfter blanksAfterToo spells spellsToo
        delimited delimitedToo sameBehind
      obtain rfl := String.toList_inj.mp sameKey
      obtain rfl := unmistakable _ _ _ spells spellsToo sameValue
      exact ⟨rfl, sameRest⟩

theorem SpellsMembers.unique {members others : List (String × Json)}
    (unmistakable : ∀ member ∈ members, member.2.Unmistakable)
    (spells : SpellsMembers members s) (spellsToo : SpellsMembers others t) (same : s = t) :
    members = others := by
  induction members generalizing others s t with
  | nil =>
    cases spells with
    | last areBlanks =>
      cases spellsToo with
      | last => rfl
      | next areBlanksToo => cases (blanks_inj areBlanks areBlanksToo rfl rfl same).1
  | cons first rest ih =>
    obtain ⟨isFirst, areOthers⟩ := List.forall_mem_cons.mp unmistakable
    cases spells with
    | next blanksBefore blanksAfter spells others =>
      cases spellsToo with
      | last areBlanksToo => cases (blanks_inj blanksBefore areBlanksToo rfl rfl same).1
      | next blanksBeforeToo blanksAfterToo spellsToo othersToo =>
        obtain ⟨-, sameBehind⟩ := blanks_inj blanksBefore blanksBeforeToo rfl rfl same
        obtain ⟨sameMember, sameOthers⟩ := member_inj isFirst blanksAfter blanksAfterToo spells
          spellsToo others.delimited othersToo.delimited sameBehind
        rw [sameMember, ih areOthers others othersToo sameOthers]

/-- No value begins where a bracket or a brace closes. -/
theorem close_ne {value : Json} {blanks others : List Char} {c : Char} (areBlanks : Blanks blanks)
    (areBlanksToo : Blanks others) (spells : Spells value s)
    (visible : Cursor.isJsonBlank c = false) (noValue : kindOf? c = none) :
    blanks ++ c :: rest ≠ others ++ (s ++ other) := by
  obtain ⟨d, t, rfl, begins⟩ := exists_kindOf? spells
  intro same
  have sameFirst := (blanks_inj areBlanks areBlanksToo visible (isJsonBlank_eq_false begins) same).1
  exact ne_of_kindOf?_eq_none begins noValue sameFirst.symm

theorem unmistakable_array {elements : List Json}
    (areUnmistakable : ∀ element ∈ elements, element.Unmistakable) :
    (array elements).Unmistakable := by
  intro other s t spells spellsToo same
  have sameKind := kind_eq spells (same ▸ spellsToo)
  cases other with
  | array others =>
    cases spells with
    | emptyArray areBlanks =>
      cases spellsToo with
      | emptyArray => rfl
      | array areBlanksToo spellsToo =>
        exact absurd (List.cons.inj same).2 (close_ne areBlanks areBlanksToo spellsToo rfl rfl)
    | array areBlanks spells others =>
      obtain ⟨isFirst, areOthers⟩ := List.forall_mem_cons.mp areUnmistakable
      cases spellsToo with
      | emptyArray areBlanksToo =>
        exact absurd (List.cons.inj same).2.symm (close_ne areBlanksToo areBlanks spells rfl rfl)
      | array areBlanksToo spellsToo othersToo =>
        obtain ⟨sameText, sameOthers⟩ := value_inj areBlanks areBlanksToo spells spellsToo
          others.delimited othersToo.delimited (List.cons.inj same).2
        rw [isFirst _ _ _ spells spellsToo sameText,
          others.unique areOthers othersToo sameOthers]
  | _ => cases sameKind

theorem unmistakable_object {members : List (String × Json)}
    (areUnmistakable : ∀ member ∈ members, member.2.Unmistakable) :
    (object members).Unmistakable := by
  intro other s t spells spellsToo same
  have sameKind := kind_eq spells (same ▸ spellsToo)
  cases other with
  | object others =>
    cases spells with
    | emptyObject areBlanks =>
      cases spellsToo with
      | emptyObject => rfl
      | object areBlanksToo spellsToo =>
        cases spellsToo
        cases (blanks_inj areBlanks areBlanksToo rfl rfl (List.cons.inj same).2).1
    | object areBlanks spells others =>
      obtain ⟨isFirst, areOthers⟩ := List.forall_mem_cons.mp areUnmistakable
      cases spellsToo with
      | emptyObject areBlanksToo =>
        cases spells
        cases (blanks_inj areBlanks areBlanksToo rfl rfl (List.cons.inj same).2).1
      | object areBlanksToo spellsToo othersToo =>
        obtain ⟨sameMember, sameOthers⟩ := member_inj isFirst areBlanks areBlanksToo spells
          spellsToo others.delimited othersToo.delimited (List.cons.inj same).2
        rw [sameMember, others.unique areOthers othersToo sameOthers]
  | _ => cases sameKind

theorem eq_of_printBool_eq : ∀ first second : Bool,
    printBool first = printBool second → first = second := by
  decide

/-- Every value is unmistakable, however it is written. -/
theorem unmistakable (value : Json) : value.Unmistakable := by
  induction value using forall_of_parts with
  | array elements areUnmistakable => exact unmistakable_array areUnmistakable
  | object members areUnmistakable => exact unmistakable_object areUnmistakable
  | null =>
    intro other s t spells spellsToo same
    have sameKind := kind_eq spells (same ▸ spellsToo)
    cases other with
    | null => rfl
    | _ => cases sameKind
  | bool value =>
    intro other s t spells spellsToo same
    have sameKind := kind_eq spells (same ▸ spellsToo)
    cases other with
    | bool =>
      cases spells
      cases spellsToo
      rw [eq_of_printBool_eq _ _ same]
    | _ => cases sameKind
  | number value =>
    intro other s t spells spellsToo same
    have sameKind := kind_eq spells (same ▸ spellsToo)
    cases other with
    | number =>
      cases spells with
      | number spells =>
        cases spellsToo with
        | number spellsToo => rw [spells.unique (same ▸ spellsToo)]
    | _ => cases sameKind
  | string value =>
    intro other s t spells spellsToo same
    have sameKind := kind_eq spells (same ▸ spellsToo)
    cases other with
    | string =>
      cases spells with
      | string spells =>
        cases spellsToo with
        | string spellsToo =>
          have sameText := (text_inj spells spellsToo (List.cons.inj same).2).1
          rw [String.toList_inj.mp sameText]
    | _ => cases sameKind

/-- A text with blanks around a value spells no other value. -/
theorem SpellsAlone.unique {value otherValue : Json} {text : String}
    (spells : SpellsAlone value text) (spellsToo : SpellsAlone otherValue text) :
    value = otherValue := by
  obtain ⟨before, s, after, blanksBefore, spells, blanksAfter, written⟩ := spells
  obtain ⟨others, t, last, areBlanks, spellsToo, areBlanksToo, writtenToo⟩ := spellsToo
  have delimited {blanks : List Char} (areBlanks : Blanks blanks) : Delimited blanks :=
    fun c isFirst => delimits_of_isJsonBlank (areBlanks c (List.mem_of_mem_head? isFirst))
  obtain ⟨same, -⟩ := value_inj blanksBefore areBlanks spells spellsToo (delimited blanksAfter)
    (delimited areBlanksToo) (written.symm.trans writtenToo)
  exact value.unmistakable _ _ _ spells spellsToo same

end Redirect.Json
