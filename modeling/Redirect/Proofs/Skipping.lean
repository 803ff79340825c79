/-
# Passing over a spelled value

The machine that passes over values takes each spelling of a value, from its first character to its
last one, inside whatever is open around it. It stops at the same place in every case, so what
follows the value does not depend on the value.
-/

import Redirect.Json.Skip
import Redirect.Proofs.Spelling

namespace Redirect.Json

namespace Position

theorem pastAll_append (position : Position) (s t : List Char) :
    position.pastAll (s ++ t) = (position.pastAll s).pastAll t :=
  List.foldl_append

end Position

/-- A character that is no part of a number. -/
def Delimits (c : Char) : Prop :=
  c.isDigit = false ∧ c ≠ '.' ∧ c ≠ 'e' ∧ c ≠ 'E'

instance : DecidablePred Delimits :=
  fun _ => inferInstanceAs (Decidable (_ ∧ _))

/-- A number that stands in front of a text does not go on in it. -/
def Delimited (rest : List Char) : Prop :=
  ∀ c ∈ rest.head?, Delimits c

/-- What the machine does after a value that stands inside what is open. -/
def leave (frames : List Frame) (position : Position) (rest : List Char) : Except Mistake Cursor :=
  if frames.isEmpty then .ok ⟨position, rest⟩ else skipFrom .after frames position rest

/-- The machine takes a text and goes on in another mode. -/
def Takes (mode : Mode) (frames : List Frame) (s : List Char) (next : Mode)
    (inner : List Frame) : Prop :=
  ∀ position rest, skipFrom mode frames position (s ++ rest) =
    skipFrom next inner (position.pastAll s) rest

/-- The machine takes a text with which a value ends. -/
def Ends (mode : Mode) (frames : List Frame) (s : List Char) (outer : List Frame) : Prop :=
  ∀ position rest, Delimited rest → skipFrom mode frames position (s ++ rest) =
    leave outer (position.pastAll s) rest

section Moves

variable {mode next last : Mode} {frames inner outer : List Frame} {c : Char} {s t : List Char}

theorem Takes.nil : Takes mode frames [] mode frames :=
  fun _ _ => rfl

theorem Takes.append (first : Takes mode frames s next inner)
    (second : Takes next inner t last outer) : Takes mode frames (s ++ t) last outer := by
  intro position rest
  rw [List.append_assoc, first, second, Position.pastAll_append]

theorem Takes.ends (first : Takes mode frames s next inner) (second : Ends next inner t outer) :
    Ends mode frames (s ++ t) outer := by
  intro position rest delimited
  rw [List.append_assoc, first, second _ _ delimited, Position.pastAll_append]

/-- What follows a value inside what is open begins apart from it. -/
theorem Ends.inside {frame : Frame} (first : Ends mode frames s (frame :: inner))
    (second : Ends .after (frame :: inner) t outer) (apart : ∀ rest, Delimited (t ++ rest)) :
    Ends mode frames (s ++ t) outer := by
  intro position rest delimited
  rw [List.append_assoc, first _ _ (apart rest), Position.pastAll_append]
  exact second _ _ delimited

theorem takes_of_step
    (goes : ∀ position rest, step mode frames position c rest = .ok (.go next inner)) :
    Takes mode frames [c] next inner := by
  intro position rest
  rw [List.cons_append, skipFrom, goes]
  rfl

theorem ends_of_step
    (ends : ∀ position rest, step mode frames position c rest = .ok (ended outer)) :
    Ends mode frames [c] outer := by
  intro position rest _
  rw [List.cons_append, skipFrom, ends]
  cases outer <;> rfl

/-- Characters on which the machine stays in its mode. -/
theorem takes_of_stays {stays : Char → Prop}
    (onStays : ∀ c, stays c → ∀ position rest,
      step mode frames position c rest = .ok (.go mode frames))
    (all : ∀ c ∈ s, stays c) : Takes mode frames s mode frames := by
  induction s with
  | nil => exact .nil
  | cons c s ih =>
    obtain ⟨first, others⟩ := List.forall_mem_cons.mp all
    exact (takes_of_step (onStays c first)).append (ih others)

end Moves

variable {frames : List Frame}

/-- Modes between tokens. -/
def blankModes : List Mode :=
  [.value, .arrayStart, .objectStart, .key, .colon, .after]

theorem takes_blanks {mode : Mode} (between : mode ∈ blankModes) {blanks : List Char}
    (areBlanks : Blanks blanks) : Takes mode frames blanks mode frames := by
  refine takes_of_stays (fun c blank position rest => ?_) areBlanks
  simp only [blankModes, List.mem_cons, List.not_mem_nil, or_false] at between
  rcases between with rfl | rfl | rfl | rfl | rfl | rfl <;> exact if_pos blank

/-! ## Words and strings -/

theorem ends_word {letters : List Char} (nonempty : letters ≠ []) :
    Ends (.word letters) frames letters frames := by
  induction letters with
  | nil => exact absurd rfl nonempty
  | cons letter letters ih =>
    cases letters with
    | nil => exact ends_of_step fun _ _ => if_pos rfl
    | cons second others =>
      have goes : Takes (.word (letter :: second :: others)) frames [letter]
          (.word (second :: others)) frames := takes_of_step fun _ _ => if_pos rfl
      exact goes.ends (ih (List.cons_ne_nil _ _))

section Strings

variable {isKey : Bool} {c : Char} {s text : List Char}

theorem readFourHex_of_fourHex? {first second third fourth : Char} {number : Nat}
    (value : fourHex? [first, second, third, fourth] = some number) (position : Position)
    (rest : List Char) :
    readFourHex ⟨position, first :: second :: third :: fourth :: rest⟩ = .ok number := by
  have same : fourHex? (first :: second :: third :: fourth :: rest) = some number := value
  rw [readFourHex, same]

theorem takes_unicode {first second third fourth : Char} {number : Nat}
    (value : fourHex? [first, second, third, fourth] = some number) :
    Takes (.text isKey) frames ['\\', 'u', first, second, third, fourth] (.text isKey) frames := by
  intro position rest
  have escaped : step (.escape isKey) frames (position.step '\\') 'u'
      (first :: second :: third :: fourth :: rest) = .ok (.go (.hex isKey 3) frames) := by
    rw [step, if_pos rfl, readFourHex_of_fourHex? value]
    rfl
  have backslash : Takes (.text isKey) frames ['\\'] (.escape isKey) frames :=
    takes_of_step fun _ _ => rfl
  have digits : Takes (.hex isKey 3) frames ([first] ++ ([second] ++ ([third] ++ [fourth])))
      (.text isKey) frames :=
    (takes_of_step fun _ _ => rfl).append ((takes_of_step fun _ _ => rfl).append
      ((takes_of_step fun _ _ => rfl).append (takes_of_step fun _ _ => rfl)))
  calc skipFrom (.text isKey) frames position
        (['\\'] ++ 'u' :: first :: second :: third :: fourth :: rest)
      = skipFrom (.escape isKey) frames (position.step '\\')
          ('u' :: first :: second :: third :: fourth :: rest) := backslash _ _
    _ = skipFrom (.hex isKey 3) frames ((position.step '\\').step 'u')
          ([first, second, third, fourth] ++ rest) := by
        rw [skipFrom, escaped]
        rfl
    _ = _ := digits _ _

theorem takes_char (spells : SpellsChar c s) :
    Takes (.text isKey) frames s (.text isKey) frames := by
  cases spells with
  | plain notQuote notBackslash noControl =>
    refine takes_of_step fun position rest => ?_
    rw [step, if_neg notQuote, if_neg notBackslash, if_neg (by omega)]
  | @short letter _ means =>
    have notU : letter ≠ 'u' := by
      rintro rfl
      cases means
    have backslash : Takes (.text isKey) frames ['\\'] (.escape isKey) frames :=
      takes_of_step fun _ _ => rfl
    refine backslash.append (takes_of_step fun position rest => ?_)
    rw [step, if_neg notU, means]
    rfl
  | unicode number => exact takes_unicode number
  | pair highNumber lowNumber _ _ =>
    exact (takes_unicode highNumber).append (takes_unicode lowNumber)

theorem takes_text (spells : SpellsText text s) :
    Takes (.text isKey) frames s (.text isKey) frames := by
  induction spells with
  | nil => exact .nil
  | cons first _ ih => exact (takes_char first).append ih

end Strings

/-! ## Numbers -/

/-- A natural number is written without leading zeros. -/
theorem exists_printNat {n : Nat} (positive : 0 < n) :
    ∃ c digits, printNat n = c :: digits ∧ c ≠ '0' := by
  induction n using Nat.strongRecOn with
  | ind n ih =>
    by_cases small : n < 10
    · have notZero : ∀ digit < 10, 0 < digit → Nat.digitChar digit ≠ '0' := by decide
      exact ⟨_, [], Nat.toDigits_of_lt_base small, notZero n small positive⟩
    · have split : printNat n = printNat (n / 10) ++ [Nat.digitChar (n % 10)] :=
        Nat.toDigits_of_base_le (by decide) (by omega)
      obtain ⟨c, digits, printed, notZero⟩ := ih (n / 10) (by omega) (by omega)
      exact ⟨c, digits ++ [Nat.digitChar (n % 10)], by rw [split, printed]; rfl, notZero⟩

/-- Modes after the whole part of a number. -/
inductive AfterWhole : Mode → Prop
  | zero : AfterWhole .zero
  | whole : AfterWhole .whole

/-- Modes after the digits that may follow the point of a number. -/
inductive AfterFraction : Mode → Prop
  | whole {mode : Mode} (after : AfterWhole mode) : AfterFraction mode
  | fraction : AfterFraction .fraction

/-- Modes in which a number may end. -/
inductive EndsNumber : Mode → Prop
  | fraction {mode : Mode} (after : AfterFraction mode) : EndsNumber mode
  | exponent : EndsNumber .exponent

theorem step_digit {mode : Mode} (before : mode = .value ∨ mode = .minus) {c : Char}
    (isDigit : c.isDigit = true) (notZero : c ≠ '0') (position : Position) (rest : List Char) :
    step mode frames position c rest = .ok (.go .whole frames) := by
  rcases before with rfl | rfl
  · have notBlank : ¬Cursor.isJsonBlank c = true := by
      rw [isJsonBlank_eq_false (kindOf?_of_isDigit isDigit)]
      exact Bool.false_ne_true
    rw [step, if_neg notBlank, stepValue, if_neg (ne_of_isDigit isDigit rfl),
      if_neg (ne_of_isDigit isDigit rfl), if_neg (ne_of_isDigit isDigit rfl),
      if_neg (ne_of_isDigit isDigit rfl), if_neg notZero, if_pos isDigit]
  · rw [step, if_neg notZero, if_pos isDigit]

theorem takes_whole {mode : Mode} (before : mode = .value ∨ mode = .minus) (n : Nat) :
    ∃ next, AfterWhole next ∧ Takes mode frames (printNat n) next frames := by
  by_cases zero : n = 0
  · refine ⟨.zero, .zero, ?_⟩
    have printed : printNat n = ['0'] := by rw [zero]; rfl
    rw [printed]
    rcases before with rfl | rfl <;> exact takes_of_step fun _ _ => rfl
  · obtain ⟨c, digits, printed, notZero⟩ := exists_printNat (Nat.pos_of_ne_zero zero)
    have areDigits : ∀ digit ∈ c :: digits, digit.isDigit = true :=
      fun digit member => isDigit_of_mem_printNat (printed ▸ member)
    obtain ⟨isDigit, others⟩ := List.forall_mem_cons.mp areDigits
    have first : Takes mode frames [c] .whole frames :=
      takes_of_step (step_digit before isDigit notZero)
    refine ⟨.whole, .whole, ?_⟩
    rw [printed]
    exact first.append (takes_of_stays (fun _ digit _ _ => if_pos digit) others)

theorem takes_fraction {mode : Mode} (before : AfterWhole mode) (fraction : List (Fin 10)) :
    ∃ next, AfterFraction next ∧ Takes mode frames (printFraction fraction) next frames := by
  have isDigit : ∀ digit : Fin 10, (Nat.digitChar digit.val).isDigit = true := by decide
  cases fraction with
  | nil => exact ⟨mode, .whole before, .nil⟩
  | cons first others =>
    have point : Takes mode frames ['.'] .point frames := by
      cases before <;> exact takes_of_step fun _ _ => rfl
    have firstDigit : Takes .point frames [Nat.digitChar first.val] .fraction frames :=
      takes_of_step fun _ _ => if_pos (isDigit first)
    have otherDigits : Takes .fraction frames
        (others.map fun digit => Nat.digitChar digit.val) .fraction frames := by
      refine takes_of_stays (fun _ digit _ _ => if_pos digit) fun c member => ?_
      obtain ⟨digit, -, rfl⟩ := List.mem_map.mp member
      exact isDigit digit
    exact ⟨.fraction, .fraction, point.append (firstDigit.append otherDigits)⟩

theorem takes_exponent {mode : Mode} {s : List Char} {exponent : Option Int}
    (before : AfterFraction mode) (spells : SpellsExponent exponent s) :
    ∃ next, EndsNumber next ∧ Takes mode frames s next frames := by
  cases exponent with
  | none => exact ⟨mode, .fraction before, spells ▸ .nil⟩
  | some exponent =>
    obtain ⟨mark, sign, zeros, isMark, isSign, rfl⟩ := spells
    have marked : Takes mode frames [mark] .mark frames := by
      rcases isMark with rfl | rfl <;> rcases before with ⟨_ | _⟩ | _ <;>
        exact takes_of_step fun _ _ => rfl
    have signed : ∃ next, (next = .mark ∨ next = .markSign) ∧
        Takes .mark frames sign next frames := by
      rcases isSign with ⟨rfl, -⟩ | ⟨rfl | rfl, -⟩
      · exact ⟨.markSign, .inr rfl, takes_of_step fun _ _ => rfl⟩
      · exact ⟨.mark, .inl rfl, .nil⟩
      · exact ⟨.markSign, .inr rfl, takes_of_step fun _ _ => rfl⟩
    obtain ⟨afterSign, isAfter, takesSign⟩ := signed
    have areDigits : ∀ digit ∈ List.replicate zeros '0' ++ printNat exponent.natAbs,
        digit.isDigit = true := by
      refine List.forall_mem_append.mpr ⟨fun c member => ?_, fun c => isDigit_of_mem_printNat⟩
      rw [List.eq_of_mem_replicate member]
      rfl
    have digits : Takes afterSign frames (List.replicate zeros '0' ++ printNat exponent.natAbs)
        .exponent frames := by
      cases written : List.replicate zeros '0' ++ printNat exponent.natAbs with
      | nil =>
        obtain ⟨-, none⟩ := List.append_eq_nil_iff.mp written
        exact absurd none Nat.toDigits_ne_nil
      | cons c others =>
        rw [written] at areDigits
        obtain ⟨isDigit, rest⟩ := List.forall_mem_cons.mp areDigits
        have first : Takes afterSign frames [c] .exponent frames := by
          rcases isAfter with rfl | rfl
          · have notSign : ¬(c = '+' ∨ c = '-') :=
              not_or.mpr ⟨ne_of_isDigit isDigit rfl, ne_of_isDigit isDigit rfl⟩
            exact takes_of_step fun _ _ => (if_neg notSign).trans (if_pos isDigit)
          · exact takes_of_step fun _ _ => if_pos isDigit
        exact first.append (takes_of_stays (fun _ digit _ _ => if_pos digit) rest)
    exact ⟨.exponent, .exponent, marked.append (takesSign.append digits)⟩

/-- A number ends where a text begins that it does not go on in. -/
theorem ends_endsNumber {mode : Mode} (mayEnd : EndsNumber mode) : Ends mode frames [] frames := by
  intro position rest delimited
  show skipFrom mode frames position rest = leave frames position rest
  cases rest with
  | nil => rcases mayEnd with ⟨⟨_ | _⟩ | _⟩ | _ <;> cases frames <;> rfl
  | cons c rest =>
    obtain ⟨notDigit, notPoint, notMark, notCapital⟩ := delimited c rfl
    have passes : step mode frames position c rest = stepPastNumber frames position c rest := by
      rcases mayEnd with ⟨⟨_ | _⟩ | _⟩ | _ <;>
        simp [step, notDigit, notPoint, notMark, notCapital]
    rw [skipFrom, passes]
    cases frames <;> rfl

theorem ends_number {n : Number} {s : List Char} (spells : n.Spells s) :
    Ends .value frames s frames := by
  obtain ⟨exponent, spellsExponent, rfl⟩ := spells
  have signed : ∃ next, (next = .value ∨ next = .minus) ∧
      Takes .value frames (if n.negative then ['-'] else []) next frames := by
    cases n.negative with
    | true => exact ⟨.minus, .inr rfl, takes_of_step fun _ _ => rfl⟩
    | false => exact ⟨.value, .inl rfl, .nil⟩
  obtain ⟨afterSign, isSign, takesSign⟩ := signed
  obtain ⟨afterWhole, isWhole, takesWhole⟩ := takes_whole isSign n.whole
  obtain ⟨afterFraction, isFraction, takesFraction⟩ := takes_fraction isWhole n.fraction
  obtain ⟨last, mayEnd, takesExponent⟩ := takes_exponent isFraction spellsExponent
  have takes := takesSign.append (takesWhole.append (takesFraction.append takesExponent))
  have ends := takes.ends (ends_endsNumber mayEnd)
  rwa [List.append_nil] at ends

/-! ## Arrays and objects -/

theorem delimits_of_isJsonBlank {c : Char} (blank : Cursor.isJsonBlank c = true) : Delimits c := by
  simp only [Cursor.isJsonBlank, Bool.or_eq_true, beq_iff_eq] at blank
  rcases blank with ((rfl | rfl) | rfl) | rfl <;> decide

theorem delimited_cons {c : Char} (delimits : Delimits c) (rest : List Char) :
    Delimited (c :: rest) := by
  rintro _ ⟨⟩
  exact delimits

theorem delimited_blanks {blanks : List Char} {c : Char} (areBlanks : Blanks blanks)
    (delimits : Delimits c) (rest : List Char) : Delimited (blanks ++ c :: rest) := by
  cases blanks with
  | nil => exact delimited_cons delimits rest
  | cons blank others =>
    exact delimited_cons (delimits_of_isJsonBlank (areBlanks blank List.mem_cons_self)) _

theorem SpellsElements.apart {elements : List Json} {s : List Char}
    (spells : SpellsElements elements s) (rest : List Char) : Delimited (s ++ rest) := by
  cases spells with
  | last areBlanks =>
    rw [List.append_assoc]
    exact delimited_blanks areBlanks (by decide) _
  | next blanksBefore =>
    rw [List.append_assoc]
    exact delimited_blanks blanksBefore (by decide) _

theorem SpellsMembers.apart {members : List (String × Json)} {s : List Char}
    (spells : SpellsMembers members s) (rest : List Char) : Delimited (s ++ rest) := by
  cases spells with
  | last areBlanks =>
    rw [List.append_assoc]
    exact delimited_blanks areBlanks (by decide) _
  | next blanksBefore =>
    rw [List.append_assoc]
    exact delimited_blanks blanksBefore (by decide) _

/-- The first element of an array is taken like any other value. -/
theorem ends_arrayStart {value : Json} {s : List Char} {outer : List Frame}
    (spells : Spells value s) (ends : Ends .value frames s outer) :
    Ends .arrayStart frames s outer := by
  obtain ⟨c, t, rfl, begins⟩ := exists_kindOf? spells
  have notBlank : ¬Cursor.isJsonBlank c = true := by
    rw [isJsonBlank_eq_false begins]
    exact Bool.false_ne_true
  have notEnd : c ≠ ']' := ne_of_kindOf?_eq_none begins rfl
  intro position rest delimited
  have same : step .arrayStart frames position c (t ++ rest) =
      step .value frames position c (t ++ rest) := by
    rw [step, step, if_neg notBlank, if_neg notBlank, if_neg notEnd]
  rw [← ends position rest delimited, List.cons_append, skipFrom, skipFrom, same]

mutual

theorem ends_value {value : Json} {s : List Char} (spells : Spells value s)
    (frames : List Frame) : Ends .value frames s frames := by
  cases spells with
  | null =>
    have first : Takes .value frames ['n'] (.word ['u', 'l', 'l']) frames :=
      takes_of_step fun _ _ => rfl
    exact first.ends (ends_word (List.cons_ne_nil _ _))
  | bool value =>
    cases value with
    | true =>
      have first : Takes .value frames ['t'] (.word ['r', 'u', 'e']) frames :=
        takes_of_step fun _ _ => rfl
      exact first.ends (ends_word (List.cons_ne_nil _ _))
    | false =>
      have first : Takes .value frames ['f'] (.word ['a', 'l', 's', 'e']) frames :=
        takes_of_step fun _ _ => rfl
      exact first.ends (ends_word (List.cons_ne_nil _ _))
  | number spells => exact ends_number spells
  | string spells =>
    have quote : Takes .value frames ['\x22'] (.text false) frames := takes_of_step fun _ _ => rfl
    exact quote.ends ((takes_text spells).ends (ends_of_step fun _ _ => rfl))
  | emptyArray areBlanks =>
    have bracket : Takes .value frames ['['] .arrayStart (.array :: frames) :=
      takes_of_step fun _ _ => rfl
    exact bracket.ends ((takes_blanks (by decide) areBlanks).ends
      (ends_of_step fun _ _ => rfl))
  | array areBlanks spells others =>
    have bracket : Takes .value frames ['['] .arrayStart (.array :: frames) :=
      takes_of_step fun _ _ => rfl
    have inside := (ends_arrayStart spells (ends_value spells _)).inside
      (ends_elements others frames) others.apart
    exact bracket.ends ((takes_blanks (by decide) areBlanks).ends inside)
  | emptyObject areBlanks =>
    have brace : Takes .value frames ['\x7b'] .objectStart (.object :: frames) :=
      takes_of_step fun _ _ => rfl
    exact brace.ends ((takes_blanks (by decide) areBlanks).ends
      (ends_of_step fun _ _ => rfl))
  | object areBlanks spells others =>
    have brace : Takes .value frames ['\x7b'] .objectStart (.object :: frames) :=
      takes_of_step fun _ _ => rfl
    have inside := (ends_member spells frames (.inl rfl)).inside
      (ends_members others frames) others.apart
    exact brace.ends ((takes_blanks (by decide) areBlanks).ends inside)

theorem ends_elements {elements : List Json} {s : List Char} (spells : SpellsElements elements s)
    (frames : List Frame) : Ends .after (.array :: frames) s frames := by
  cases spells with
  | last areBlanks =>
    exact (takes_blanks (by decide) areBlanks).ends
      (ends_of_step fun _ _ => rfl)
  | next blanksBefore blanksAfter spells others =>
    have comma : Takes .after (.array :: frames) [','] .value (.array :: frames) :=
      takes_of_step fun _ _ => rfl
    have inside := (ends_value spells _).inside (ends_elements others frames) others.apart
    exact (takes_blanks (by decide) blanksBefore).ends
      (comma.ends ((takes_blanks (by decide) blanksAfter).ends inside))

theorem ends_member {member : String × Json} {s : List Char} (spells : SpellsMember member s)
    (frames : List Frame) {mode : Mode} (before : mode = .objectStart ∨ mode = .key) :
    Ends mode (.object :: frames) s (.object :: frames) := by
  cases spells with
  | member spellsKey blanksBefore blanksAfter spells =>
    have quote : Takes mode (.object :: frames) ['\x22'] (.text true) (.object :: frames) := by
      rcases before with rfl | rfl <;> exact takes_of_step fun _ _ => rfl
    have endQuote : Takes (.text true) (.object :: frames) ['\x22'] .colon (.object :: frames) :=
      takes_of_step fun _ _ => rfl
    have colon : Takes .colon (.object :: frames) [':'] .value (.object :: frames) :=
      takes_of_step fun _ _ => rfl
    have afterKey := (takes_blanks (by decide) blanksBefore).ends
      (colon.ends ((takes_blanks (by decide) blanksAfter).ends
        (ends_value spells _)))
    exact quote.ends ((takes_text spellsKey).ends (endQuote.ends afterKey))

theorem ends_members {members : List (String × Json)} {s : List Char}
    (spells : SpellsMembers members s) (frames : List Frame) :
    Ends .after (.object :: frames) s frames := by
  cases spells with
  | last areBlanks =>
    exact (takes_blanks (by decide) areBlanks).ends
      (ends_of_step fun _ _ => rfl)
  | next blanksBefore blanksAfter spells others =>
    have comma : Takes .after (.object :: frames) [','] .key (.object :: frames) :=
      takes_of_step fun _ _ => rfl
    have inside := (ends_member spells frames (.inr rfl)).inside (ends_members others frames)
      others.apart
    exact (takes_blanks (by decide) blanksBefore).ends
      (comma.ends ((takes_blanks (by decide) blanksAfter).ends inside))

end

/-- A value that nobody asks for is passed over as far as it goes. -/
theorem skipValue_of_spells {value : Json} {s blanks rest : List Char} (spells : Spells value s)
    (areBlanks : Blanks blanks) (delimited : Delimited rest) (position : Position) :
    skipValue ⟨position, blanks ++ (s ++ rest)⟩ =
      .ok ⟨position.pastAll (blanks ++ s), rest⟩ := by
  have ends := (takes_blanks (by decide) areBlanks).ends
    (ends_value spells [])
  rw [← List.append_assoc]
  exact ends position rest delimited

end Redirect.Json
