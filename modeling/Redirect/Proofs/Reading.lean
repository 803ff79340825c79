/-
# Reading a spelled value

Each reader of the configuration is told what it reads by a function on values: the text that a
string is, the list that an array is, what the members of an object come to. Whatever way a value is
spelled, the reader gives what the function gives and stops behind the value, and where the function
gives nothing the reader reports a mistake.
-/

import Redirect.Json.Sequence
import Redirect.Proofs.Skipping

namespace Redirect.Json

variable {α β σ : Type}

/-- The text that a string is. -/
def text? : Json → Option String
  | .string text => some text
  | _ => none

/-- What is read from the elements of an array, if something is read from each. -/
def elements? (read : Json → Option α) : Json → Option (List α)
  | .array elements => elements.mapM read
  | _ => none

/-- Things of which each is read back from its own value are read back from the array of all. -/
theorem elements?_array_map (json : α → Json) (read : Json → Option α)
    (back : ∀ a, read (json a) = some a) (things : List α) :
    elements? read (.array (things.map json)) = some things := by
  show (things.map json).mapM read = some things
  induction things with
  | nil => rfl
  | cons thing things ih =>
    rw [List.map_cons, List.mapM_cons, back, ih]
    rfl

/-! ## What a reader gives -/

/-- A reader that is to give something gives it and stops in front of the rest; a reader that is to
give nothing reports a mistake. -/
def Gives (rest : List Char) : Option α → Except Mistake (α × Cursor) → Prop
  | some a, result => ∃ position, result = .ok (a, ⟨position, rest⟩)
  | none, result => ∃ mistake, result = .error mistake

theorem Gives.bind {middle rest : List Char} {meaning : Option α} {further : α → Option β}
    {result : Except Mistake (α × Cursor)} {next : α × Cursor → Except Mistake (β × Cursor)}
    (first : Gives middle meaning result)
    (second : ∀ a position, Gives rest (further a) (next (a, ⟨position, middle⟩))) :
    Gives rest (meaning >>= further) (result >>= next) := by
  cases meaning with
  | none =>
    obtain ⟨mistake, rfl⟩ := first
    exact ⟨mistake, rfl⟩
  | some a =>
    obtain ⟨position, rfl⟩ := first
    exact second a position

theorem Gives.map {rest : List Char} {meaning : Option α} {result : Except Mistake (α × Cursor)}
    (gives : Gives rest meaning result) (f : α → β) :
    Gives rest (meaning.map f) (result >>= fun found => .ok (f found.1, found.2)) := by
  cases meaning with
  | none =>
    obtain ⟨mistake, rfl⟩ := gives
    exact ⟨mistake, rfl⟩
  | some a =>
    obtain ⟨position, rfl⟩ := gives
    exact ⟨position, rfl⟩

theorem Gives.exists_error {rest : List Char} {meaning : Option α}
    {result : Except Mistake (α × Cursor)} {next : α × Cursor → Except Mistake (β × Cursor)}
    (first : Gives rest meaning result)
    (errs : ∀ a position, ∃ mistake, next (a, ⟨position, rest⟩) = .error mistake) :
    ∃ mistake, (result >>= next) = .error mistake := by
  cases meaning with
  | none =>
    obtain ⟨mistake, rfl⟩ := first
    exact ⟨mistake, rfl⟩
  | some a =>
    obtain ⟨position, rfl⟩ := first
    exact errs a position

/-- A reader reads every spelling of every value as a function on values tells. -/
def Reads (read : Cursor → Except Mistake (α × Cursor)) (meaning : Json → Option α) : Prop :=
  ∀ value s, Spells value s → ∀ position blanks rest, Blanks blanks → Delimited rest →
    Gives rest (meaning value) (read ⟨position, blanks ++ (s ++ rest)⟩)

theorem exists_error_bind {first : Except Mistake α} {next : α → Except Mistake β}
    (errs : ∀ a, ∃ mistake, next a = .error mistake) :
    ∃ mistake, (first >>= next) = .error mistake := by
  cases first with
  | error mistake => exact ⟨mistake, rfl⟩
  | ok a => exact errs a

theorem exists_wrongShape (expected : String) (cursor : Cursor) :
    ∃ mistake, (wrongShape expected cursor : Except Mistake (α × Cursor)) = .error mistake := by
  rw [wrongShape]
  split
  · exact exists_error_bind fun _ => ⟨_, rfl⟩
  · split_ifs <;> exact exists_error_bind fun _ => ⟨_, rfl⟩

theorem skipBlanks_blanks {blanks s : List Char} (areBlanks : Blanks blanks)
    (notBlank : ∀ c ∈ s.head?, Cursor.isJsonBlank c = false) (position : Position) :
    Cursor.skipBlanks ⟨position, blanks ++ s⟩ = ⟨position.pastAll blanks, s⟩ := by
  have none : s.takeWhile Cursor.isJsonBlank = [] ∧ s.dropWhile Cursor.isJsonBlank = s := by
    cases s with
    | nil => exact ⟨rfl, rfl⟩
    | cons c s =>
      have stops := notBlank c rfl
      exact ⟨by rw [List.takeWhile_cons, stops]; rfl, by rw [List.dropWhile_cons, stops]; rfl⟩
  rw [Cursor.skipBlanks, List.takeWhile_append_of_pos areBlanks,
    List.dropWhile_append_of_pos areBlanks, none.1, none.2, List.append_nil]

theorem skipBlanks_cons {blanks : List Char} (areBlanks : Blanks blanks) {c : Char}
    (notBlank : Cursor.isJsonBlank c = false) (position : Position) (rest : List Char) :
    Cursor.skipBlanks ⟨position, blanks ++ c :: rest⟩ = ⟨position.pastAll blanks, c :: rest⟩ := by
  refine skipBlanks_blanks areBlanks ?_ position
  rintro _ ⟨⟩
  exact notBlank

theorem skipBlanks_spelled {value : Json} {s blanks : List Char} (spells : Spells value s)
    (areBlanks : Blanks blanks) (position : Position) (rest : List Char) :
    Cursor.skipBlanks ⟨position, blanks ++ (s ++ rest)⟩ =
      ⟨position.pastAll blanks, s ++ rest⟩ := by
  obtain ⟨c, t, rfl, begins⟩ := exists_kindOf? spells
  exact skipBlanks_cons areBlanks (isJsonBlank_eq_false begins) position (t ++ rest)

/-! ## Strings -/

theorem readStringFrom_covered (s rest : List Char) (position : Position) :
    readStringFrom s.length position (s ++ rest) =
      readStringFrom 0 (position.pastAll s) rest := by
  induction s generalizing position with
  | nil => rfl
  | cons c s ih => exact ih (position.step c)

theorem readUnicode_of_fourHex? {first second third fourth c : Char}
    (number : fourHex? [first, second, third, fourth] = some c.toNat) (position : Position)
    (rest : List Char) :
    readUnicode ⟨position, first :: second :: third :: fourth :: rest⟩ = .ok (c, 4) := by
  -- The number of a character is the number of no surrogate.
  have valid : c.toNat < 0xD800 ∨ 0xDFFF < c.toNat ∧ c.toNat < 0x110000 := c.valid
  rw [readUnicode, readFourHex_of_fourHex? number]
  show (if 0xDC00 ≤ c.toNat ∧ c.toNat ≤ 0xDFFF then _ else
    if c.toNat < 0xD800 ∨ 0xDBFF < c.toNat then _ else _) = _
  rw [if_neg (by omega), if_pos (by omega), Char.ofNat_toNat]

theorem readUnicode_pair {first second third fourth fifth sixth seventh eighth : Char}
    {high low : Nat} (highNumber : fourHex? [first, second, third, fourth] = some high)
    (lowNumber : fourHex? [fifth, sixth, seventh, eighth] = some low)
    (isHigh : 0xD800 ≤ high ∧ high ≤ 0xDBFF) (isLow : 0xDC00 ≤ low ∧ low ≤ 0xDFFF)
    (position : Position) (rest : List Char) :
    readUnicode ⟨position, first :: second :: third :: fourth :: '\\' :: 'u' :: fifth :: sixth ::
      seventh :: eighth :: rest⟩ =
        .ok (.ofNat ((high - 0xD800) * 0x400 + (low - 0xDC00) + 0x10000), 10) := by
  rw [readUnicode, readFourHex_of_fourHex? highNumber]
  show (if 0xDC00 ≤ high ∧ high ≤ 0xDFFF then _ else
    if high < 0xD800 ∨ 0xDBFF < high then _ else
      readFourHex ⟨_, fifth :: sixth :: seventh :: eighth :: rest⟩ >>= fun low =>
        if low < 0xDC00 ∨ 0xDFFF < low then _ else
          .ok (Char.ofNat ((high - 0xD800) * 0x400 + (low - 0xDC00) + 0x10000), 10)) = _
  rw [if_neg (by omega), if_neg (by omega), readFourHex_of_fourHex? lowNumber]
  exact if_neg (by omega)

theorem readStringFrom_unicode {c : Char} {s rest : List Char} {position : Position}
    (found : readUnicode ⟨(position.step '\\').step 'u', s ++ rest⟩ = .ok (c, s.length)) :
    readStringFrom 0 position ('\\' :: 'u' :: (s ++ rest)) =
      (readStringFrom 0 (position.pastAll ('\\' :: 'u' :: s)) rest >>= fun more =>
        .ok (c :: more.1, more.2)) := by
  show (readUnicode _ >>= fun found =>
    readStringFrom (found.2 + 1) (position.step '\\') (('u' :: s) ++ rest) >>= fun more =>
      .ok (found.1 :: more.1, more.2)) = _
  rw [found]
  exact congrArg (· >>= fun more => .ok (c :: more.1, more.2))
    (readStringFrom_covered ('u' :: s) rest (position.step '\\'))

theorem readStringFrom_char {c : Char} {s : List Char} (spells : SpellsChar c s)
    (position : Position) (rest : List Char) :
    readStringFrom 0 position (s ++ rest) =
      (readStringFrom 0 (position.pastAll s) rest >>= fun more => .ok (c :: more.1, more.2)) := by
  cases spells with
  | plain notQuote notBackslash noControl =>
    rw [List.cons_append, readStringFrom, if_neg notQuote, if_neg notBackslash, if_neg (by omega)]
    rfl
  | @short letter _ means =>
    have notU : letter ≠ 'u' := by
      rintro rfl
      cases means
    simp only [List.cons_append, List.nil_append, readStringFrom, Char.reduceEq, if_false, if_true,
      if_neg notU, means]
    rfl
  | @unicode first second third fourth _ number =>
    have found := readUnicode_of_fourHex? number ((position.step '\\').step 'u') rest
    exact readStringFrom_unicode (s := [first, second, third, fourth]) found
  | @pair first second third fourth fifth sixth seventh eighth _ _ highNumber lowNumber isHigh
      isLow =>
    have found := readUnicode_pair highNumber lowNumber isHigh isLow
      ((position.step '\\').step 'u') rest
    exact readStringFrom_unicode (s := [first, second, third, fourth, '\\', 'u', fifth, sixth,
      seventh, eighth]) found

theorem readString_text {text s : List Char} (spells : SpellsText text s) (position : Position)
    (rest : List Char) :
    ∃ after, readString ⟨position, s ++ '\x22' :: rest⟩ = .ok (text, ⟨after, rest⟩) := by
  show ∃ after, readStringFrom 0 position (s ++ '\x22' :: rest) = .ok (text, ⟨after, rest⟩)
  induction spells generalizing position with
  | nil => exact ⟨_, rfl⟩
  | cons first _ ih =>
    obtain ⟨after, others⟩ := ih (position.pastAll _)
    rw [List.append_assoc, readStringFrom_char first, others]
    exact ⟨after, rfl⟩

theorem advance_one (position : Position) (c : Char) (rest : List Char) :
    Cursor.advance 1 ⟨position, c :: rest⟩ = ⟨position.step c, rest⟩ :=
  rfl

theorem reads_text : Reads readText text? := by
  intro value s spells position blanks rest areBlanks _
  rw [readText, skipBlanks_spelled spells areBlanks]
  obtain ⟨c, t, rfl, begins⟩ := exists_kindOf? spells
  show Gives rest _ (if c = '\x22' then _ else wrongShape "a string" _)
  cases value with
  | string text =>
    cases spells with
    | @string _ s spells =>
      obtain ⟨after, found⟩ := readString_text spells
        ((position.pastAll blanks).step '\x22') rest
      rw [if_pos rfl, List.cons_append, List.append_assoc, advance_one, List.singleton_append,
        found]
      refine ⟨after, ?_⟩
      show Except.ok (String.ofList text.toList, (⟨after, rest⟩ : Cursor)) = _
      rw [String.ofList_toList]
  | _ =>
    rw [if_neg (ne_of_kindOf?_ne begins .string rfl nofun)]
    exact exists_wrongShape _ _

/-! ## Arrays -/

section Arrays

variable {elements : List Json} {first : Json} {s t blanks before after rest : List Char}

theorem nextElement_first (spells : Spells first s) (areBlanks : Blanks blanks)
    (position : Position) (rest : List Char) :
    nextElement true ⟨position, blanks ++ (s ++ rest)⟩ =
      .ok (true, ⟨position.pastAll blanks, s ++ rest⟩) := by
  rw [nextElement, skipBlanks_spelled spells areBlanks]
  obtain ⟨c, t, rfl, begins⟩ := exists_kindOf? spells
  exact if_neg (ne_of_kindOf?_eq_none begins rfl)

theorem nextElement_next (spells : Spells first s) (blanksBefore : Blanks before)
    (blanksAfter : Blanks after) (position : Position) (rest : List Char) :
    ∃ reached, nextElement false ⟨position, before ++ ',' :: (after ++ (s ++ rest))⟩ =
      .ok (true, ⟨reached, s ++ rest⟩) := by
  have afterComma : (Cursor.advance 1
      ⟨position.pastAll before, ',' :: (after ++ (s ++ rest))⟩).skipBlanks =
        ⟨((position.pastAll before).step ',').pastAll after, s ++ rest⟩ :=
    skipBlanks_spelled spells blanksAfter _ rest
  rw [nextElement, skipBlanks_cons blanksBefore rfl]
  simp only [afterComma, Char.reduceEq, Bool.false_eq_true, if_false, if_true]
  obtain ⟨c, t, rfl, begins⟩ := exists_kindOf? spells
  exact ⟨_, if_neg (ne_of_kindOf?_eq_none begins rfl)⟩

theorem nextElement_last (isFirst : Bool) (areBlanks : Blanks blanks) (position : Position)
    (rest : List Char) :
    nextElement isFirst ⟨position, blanks ++ ']' :: rest⟩ =
      .ok (false, ⟨position.pastAll blanks, ']' :: rest⟩) := by
  rw [nextElement, skipBlanks_cons areBlanks rfl]
  exact if_pos rfl

theorem endArray_last (areBlanks : Blanks blanks) (position : Position) (rest : List Char) :
    endArray ⟨position, blanks ++ ']' :: rest⟩ =
      .ok ⟨(position.pastAll blanks).step ']', rest⟩ := by
  rw [endArray, skipBlanks_cons areBlanks rfl]
  exact if_pos rfl

theorem exists_endArray_next (areBlanks : Blanks blanks) (position : Position)
    (rest : List Char) :
    ∃ mistake, endArray ⟨position, blanks ++ ',' :: rest⟩ = .error mistake := by
  rw [endArray, skipBlanks_cons areBlanks rfl]
  simp only [Char.reduceEq, if_false, if_true]
  split <;> exact ⟨_, rfl⟩

variable {read : Cursor → Except Mistake (α × Cursor)} {meaning : Json → Option α} {bound : Nat}

/-- One more element, and what the elements after it give. -/
theorem gives_element (reads : Reads read meaning) {isFirst : Bool} {cursor : Cursor}
    {position : Position} (spells : Spells first s) (others : SpellsElements elements t)
    (more : nextElement isFirst cursor = .ok (true, ⟨position, s ++ (t ++ rest)⟩))
    (further : ∀ position, Gives rest (elements.mapM meaning)
      (readElements read bound false ⟨position, t ++ rest⟩)) :
    Gives rest ((first :: elements).mapM meaning)
      (readElements read (bound + 1) isFirst cursor) := by
  have head := reads first s spells position [] (t ++ rest) blanks_nil (others.apart rest)
  rw [readElements, more, List.mapM_cons]
  exact head.bind fun _ position => (further position).bind fun _ _ => ⟨_, rfl⟩

theorem gives_readElements_last (isFirst : Bool) (areBlanks : Blanks blanks)
    (position : Position) (rest : List Char) :
    Gives rest ([].mapM meaning)
      (readElements read (bound + 1) isFirst ⟨position, blanks ++ ']' :: rest⟩) := by
  rw [readElements, nextElement_last isFirst areBlanks]
  show Gives rest (some []) (endArray ⟨position.pastAll blanks, [] ++ ']' :: rest⟩ >>= fun cursor =>
    .ok ([], cursor))
  rw [endArray_last blanks_nil]
  exact ⟨_, rfl⟩

theorem gives_readElements (reads : Reads read meaning) (spells : SpellsElements elements s)
    (fits : elements.length < bound) (position : Position) (rest : List Char) :
    Gives rest (elements.mapM meaning) (readElements read bound false ⟨position, s ++ rest⟩) := by
  induction elements generalizing s bound position with
  | nil =>
    cases spells with
    | @last blanks areBlanks =>
      obtain ⟨bound, rfl⟩ := Nat.exists_eq_add_one_of_ne_zero (Nat.ne_of_gt fits)
      rw [List.append_assoc]
      exact gives_readElements_last false areBlanks position rest
  | cons first elements ih =>
    cases spells with
    | @next _ _ before after s t blanksBefore blanksAfter spellsFirst others =>
      obtain ⟨bound, rfl⟩ := Nat.exists_eq_add_one_of_ne_zero (Nat.ne_zero_of_lt fits)
      have fitsOthers : elements.length < bound := Nat.lt_of_succ_lt_succ fits
      obtain ⟨reached, more⟩ := nextElement_next spellsFirst blanksBefore blanksAfter position
        (t ++ rest)
      simp only [List.append_assoc, List.cons_append]
      exact gives_element reads spellsFirst others more
        fun position => ih others fitsOthers position

theorem SpellsElements.length_lt (spells : SpellsElements elements s) :
    elements.length < s.length := by
  induction elements generalizing s with
  | nil =>
    cases spells with
    | last => rw [List.length_append]; exact Nat.lt_add_left _ (Nat.zero_lt_one)
  | cons first elements ih =>
    cases spells with
    | next _ _ _ others =>
      have shorter := ih others
      simp only [List.length_append, List.length_cons]
      omega

theorem reads_array (reads : Reads read meaning) : Reads (readArray read) (elements? meaning) := by
  intro value s spells position blanks rest areBlanks _
  rw [readArray, skipBlanks_spelled spells areBlanks]
  obtain ⟨c, t, rfl, begins⟩ := exists_kindOf? spells
  show Gives rest _ (if c = '[' then
    readElements read ((t ++ rest).length + 1) true ⟨_, t ++ rest⟩ else wrongShape _ _)
  cases value with
  | array elements =>
    cases spells with
    | @emptyArray inner areBlanks =>
      rw [if_pos rfl, List.append_assoc]
      exact gives_readElements_last true areBlanks _ rest
    | @array first elements inner s t areBlanks spells others =>
      -- Every element takes a character, so the reader is allowed enough of them.
      have fits : elements.length < (inner ++ (s ++ (t ++ rest))).length := by
        have shorter := others.length_lt
        simp only [List.length_append]
        omega
      rw [if_pos rfl, List.append_assoc, List.append_assoc]
      exact gives_element reads spells others (nextElement_first spells areBlanks _ _)
        fun position => gives_readElements reads others fits position rest
  | _ =>
    rw [if_neg (ne_of_kindOf?_ne begins .array rfl nofun)]
    exact exists_wrongShape _ _

end Arrays

/-! ## Objects -/

section Objects

variable {members : List (String × Json)} {value : Json} {key : String}
variable {s t u blanks before after rest : List Char}

/-- A reader of members reads every member as a function on keys and values tells, whatever the
members before it have given. -/
def ReadsMember (read : σ → String → Cursor → Except Mistake (σ × Cursor))
    (add : σ → String × Json → Option σ) : Prop :=
  ∀ state key value s, Spells value s → ∀ position before after rest, Blanks before →
    Blanks after → Delimited rest → Gives rest (add state (key, value))
      (read state key ⟨position, before ++ ':' :: (after ++ (s ++ rest))⟩)

/-- What a field that may occur once is given. -/
def once (meaning : Json → Option α) : Option α → Json → Option α
  | some _, _ => none
  | none, value => meaning value

theorem once_eq_some {meaning : Json → Option α} {seen : Option α} {a : α}
    (given : once meaning seen value = some a) : seen = none := by
  cases seen with
  | none => rfl
  | some => cases given

theorem readColon_colon (areBlanks : Blanks before) (position : Position) (rest : List Char) :
    readColon ⟨position, before ++ ':' :: rest⟩ =
      .ok ⟨(position.pastAll before).step ':', rest⟩ := by
  rw [readColon, skipBlanks_cons areBlanks rfl]
  exact if_pos rfl

theorem gives_readField {read : Cursor → Except Mistake (α × Cursor)}
    {meaning : Json → Option α} (reads : Reads read meaning) (name : String) (seen : Option α)
    (spells : Spells value s) (position : Position) (blanksBefore : Blanks before)
    (blanksAfter : Blanks after) (delimited : Delimited rest) :
    Gives rest (once meaning seen value)
      (readField name seen read ⟨position, before ++ ':' :: (after ++ (s ++ rest))⟩) := by
  cases seen with
  | none =>
    show Gives rest (meaning value) (readColon _ >>= read)
    rw [readColon_colon blanksBefore]
    exact reads value s spells _ after rest blanksAfter delimited
  | some seen =>
    rw [readField]
    split <;> exact ⟨_, rfl⟩

theorem exists_skipMember (spells : Spells value s) (position : Position)
    (blanksBefore : Blanks before) (blanksAfter : Blanks after) (delimited : Delimited rest) :
    ∃ reached, skipMember ⟨position, before ++ ':' :: (after ++ (s ++ rest))⟩ =
      .ok ⟨reached, rest⟩ := by
  rw [skipMember, readColon_colon blanksBefore]
  exact ⟨_, skipValue_of_spells spells blanksAfter delimited _⟩

theorem nextKey_first (areBlanks : Blanks blanks) (position : Position) (rest : List Char) :
    nextKey true ⟨position, blanks ++ '\x22' :: rest⟩ =
      .ok (true, ⟨(position.pastAll blanks).step '\x22', rest⟩) := by
  rw [nextKey, skipBlanks_cons areBlanks rfl]
  rfl

theorem nextKey_next (blanksBefore : Blanks before) (blanksAfter : Blanks after)
    (position : Position) (rest : List Char) :
    ∃ reached, nextKey false ⟨position, before ++ ',' :: (after ++ '\x22' :: rest)⟩ =
      .ok (true, ⟨reached, rest⟩) := by
  have afterComma : (Cursor.advance 1
      ⟨position.pastAll before, ',' :: (after ++ '\x22' :: rest)⟩).skipBlanks =
        ⟨((position.pastAll before).step ',').pastAll after, '\x22' :: rest⟩ :=
    skipBlanks_cons blanksAfter rfl _ rest
  rw [nextKey, skipBlanks_cons blanksBefore rfl]
  simp only [afterComma, Char.reduceEq, Bool.false_eq_true, if_false, if_true]
  exact ⟨_, rfl⟩

theorem nextKey_last (isFirst : Bool) (areBlanks : Blanks blanks) (position : Position)
    (rest : List Char) :
    nextKey isFirst ⟨position, blanks ++ '\x7d' :: rest⟩ =
      .ok (false, ⟨position.pastAll blanks, '\x7d' :: rest⟩) := by
  rw [nextKey, skipBlanks_cons areBlanks rfl]
  exact if_pos rfl

variable {read : σ → String → Cursor → Except Mistake (σ × Cursor)}
variable {add : σ → String × Json → Option σ} {bound : Nat}

/-- One more member, and what the members after it give. -/
theorem gives_member (reads : ReadsMember read add) {isFirst : Bool} {cursor : Cursor}
    {position : Position} (spellsKey : SpellsText key.toList s) (blanksBefore : Blanks before)
    (blanksAfter : Blanks after) (spells : Spells value t) (others : SpellsMembers members u)
    (more : nextKey isFirst cursor = .ok (true, ⟨position,
      s ++ '\x22' :: (before ++ ':' :: (after ++ (t ++ (u ++ rest))))⟩))
    (further : ∀ state position, Gives rest (members.foldlM add state)
      (readMembers read bound false state ⟨position, u ++ rest⟩)) (state : σ) :
    Gives rest (((key, value) :: members).foldlM add state)
      (readMembers read (bound + 1) isFirst state cursor) := by
  obtain ⟨afterKey, foundKey⟩ := readString_text spellsKey position
    (before ++ ':' :: (after ++ (t ++ (u ++ rest))))
  have member := reads state key value t spells afterKey before after (u ++ rest) blanksBefore
    blanksAfter (others.apart rest)
  rw [readMembers, more, List.foldlM_cons]
  show Gives rest _ (readString _ >>= _)
  rw [foundKey]
  show Gives rest _ (read state (String.ofList key.toList) _ >>= _)
  rw [String.ofList_toList]
  exact member.bind further

theorem gives_readMembers_last (isFirst : Bool) (areBlanks : Blanks blanks) (state : σ)
    (position : Position) (rest : List Char) :
    Gives rest ([].foldlM add state)
      (readMembers read (bound + 1) isFirst state ⟨position, blanks ++ '\x7d' :: rest⟩) := by
  rw [readMembers, nextKey_last isFirst areBlanks]
  exact ⟨_, rfl⟩

theorem gives_readMembers (reads : ReadsMember read add) (spells : SpellsMembers members s)
    (fits : members.length < bound) (state : σ) (position : Position) (rest : List Char) :
    Gives rest (members.foldlM add state)
      (readMembers read bound false state ⟨position, s ++ rest⟩) := by
  induction members generalizing s bound state position with
  | nil =>
    cases spells with
    | @last blanks areBlanks =>
      obtain ⟨bound, rfl⟩ := Nat.exists_eq_add_one_of_ne_zero (Nat.ne_of_gt fits)
      rw [List.append_assoc]
      exact gives_readMembers_last false areBlanks state position rest
  | cons first members ih =>
    cases spells with
    | @next _ _ outside inside s t blanksOutside blanksInside spellsFirst others =>
      obtain ⟨bound, rfl⟩ := Nat.exists_eq_add_one_of_ne_zero (Nat.ne_zero_of_lt fits)
      have fitsOthers : members.length < bound := Nat.lt_of_succ_lt_succ fits
      cases spellsFirst with
      | member spellsKey blanksBefore blanksAfter spells =>
        simp only [List.append_assoc, List.cons_append]
        obtain ⟨reached, more⟩ := nextKey_next blanksOutside blanksInside position _
        exact gives_member reads spellsKey blanksBefore blanksAfter spells others more
          (fun state position => ih others fitsOthers state position) state

theorem SpellsMembers.length_lt (spells : SpellsMembers members s) :
    members.length < s.length := by
  induction members generalizing s with
  | nil =>
    cases spells with
    | last => rw [List.length_append]; exact Nat.lt_add_left _ (Nat.zero_lt_one)
  | cons first members ih =>
    cases spells with
    | next _ _ _ others =>
      have shorter := ih others
      simp only [List.length_append, List.length_cons]
      omega

/-- The members of an object are read one after the other. -/
theorem gives_readObject (reads : ReadsMember read add) (spells : Spells (.object members) s)
    (state : σ) (position : Position) (rest : List Char) :
    ∃ t, s = '\x7b' :: t ∧
      Gives rest (members.foldlM add state) (readObject read state ⟨position, t ++ rest⟩) := by
  cases spells with
  | @emptyObject blanks areBlanks =>
    refine ⟨_, rfl, ?_⟩
    rw [readObject, List.append_assoc]
    exact gives_readMembers_last true areBlanks state position rest
  | @object first members blanks s t areBlanks spells others =>
    refine ⟨_, rfl, ?_⟩
    have fits : members.length < (blanks ++ (s ++ (t ++ rest))).length := by
      have shorter := others.length_lt
      simp only [List.length_append]
      omega
    rw [readObject, List.append_assoc, List.append_assoc]
    cases spells with
    | member spellsKey blanksBefore blanksAfter spells =>
      simp only [List.append_assoc, List.cons_append] at fits ⊢
      exact gives_member reads spellsKey blanksBefore blanksAfter spells others
        (nextKey_first areBlanks position _)
        (fun state position => gives_readMembers reads others fits state position rest) state

end Objects

end Redirect.Json
