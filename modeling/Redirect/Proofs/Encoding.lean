/-
# Texts survive being written

The octets of a text are read back as that text: each character comes out as one piece, which
covers exactly its own octets. Nothing else is read as a text: octets are read as the text whose
octets they are.
-/

import Mathlib.Tactic.SplitIfs
import Redirect.Text.Utf8

namespace Redirect.Utf8

/-! ## One character -/

theorem toNat_ofNat {n : Nat} (small : n < 256) : (UInt8.ofNat n).toNat = n := by
  rw [UInt8.toNat_ofNat', Nat.mod_eq_of_lt small]

theorem isTail_iff (b : UInt8) : isTail b = true ↔ 0x80 ≤ b.toNat ∧ b.toNat ≤ 0xBF := by
  simp only [isTail, Bool.and_eq_true, decide_eq_true_eq, UInt8.le_iff_toNat_le, UInt8.reduceToNat]

theorem isSecondOfThree_iff (a b : UInt8) :
    isSecondOfThree a b = true ↔ (0x80 ≤ b.toNat ∧ b.toNat ≤ 0xBF) ∧
      (a.toNat = 0xE0 → 0xA0 ≤ b.toNat) ∧ (a.toNat = 0xED → b.toNat ≤ 0x9F) := by
  simp only [isSecondOfThree, ← UInt8.toNat_inj, UInt8.reduceToNat]
  split_ifs
  · simp only [Bool.and_eq_true, decide_eq_true_eq, UInt8.le_iff_toNat_le, UInt8.reduceToNat]
    omega
  · simp only [Bool.and_eq_true, decide_eq_true_eq, UInt8.le_iff_toNat_le, UInt8.reduceToNat]
    omega
  · rw [isTail_iff]
    omega

theorem isSecondOfFour_iff (a b : UInt8) :
    isSecondOfFour a b = true ↔ (0x80 ≤ b.toNat ∧ b.toNat ≤ 0xBF) ∧
      (a.toNat = 0xF0 → 0x90 ≤ b.toNat) ∧ (a.toNat = 0xF4 → b.toNat ≤ 0x8F) := by
  simp only [isSecondOfFour, ← UInt8.toNat_inj, UInt8.reduceToNat]
  split_ifs
  · simp only [Bool.and_eq_true, decide_eq_true_eq, UInt8.le_iff_toNat_le, UInt8.reduceToNat]
    omega
  · simp only [Bool.and_eq_true, decide_eq_true_eq, UInt8.le_iff_toNat_le, UInt8.reduceToNat]
    omega
  · rw [isTail_iff]
    omega

theorem isTail_ofNat {n : Nat} (small : n < 64) : isTail (UInt8.ofNat (n + 0x80)) = true := by
  rw [isTail_iff, toNat_ofNat (show n + 0x80 < 256 by omega)]
  omega

theorem front_one {v : Nat} (range : v < 0x80) (rest : Bytes) :
    front (UInt8.ofNat v) rest = .char (Char.ofNat v) := by
  have value := toNat_ofNat (show v < 256 by omega)
  have isLow : UInt8.ofNat v < 0x80 := by
    rw [UInt8.lt_iff_toNat_lt, value]
    exact range
  rw [front.eq_def, if_pos isLow, value]

theorem front_two {v : Nat} (lower : 0x80 ≤ v) (upper : v ≤ 0x7FF) (rest : Bytes) :
    front (UInt8.ofNat (v / 64 % 0x20 + 0xC0)) (UInt8.ofNat (v % 0x40 + 0x80) :: rest) =
      .char (Char.ofNat v) := by
  have first := toNat_ofNat (show v / 64 % 0x20 + 0xC0 < 256 by omega)
  have second := toNat_ofNat (show v % 0x40 + 0x80 < 256 by omega)
  have joined : (v / 64 % 0x20 + 0xC0) % 0x20 * 0x40 + (v % 0x40 + 0x80) % 0x40 = v := by omega
  simp only [front, UInt8.lt_iff_toNat_lt, first, UInt8.reduceToNat]
  rw [if_neg (by omega), if_neg (by omega), if_pos (by omega),
    if_pos (isTail_ofNat (by omega)), ofTwo, first, second, joined]

theorem front_three {v : Nat} (lower : 0x800 ≤ v) (upper : v ≤ 0xFFFF)
    (valid : v < 0xD800 ∨ 0xDFFF < v) (rest : Bytes) :
    front (UInt8.ofNat (v / 4096 % 0x10 + 0xE0))
        (UInt8.ofNat (v / 64 % 0x40 + 0x80) :: UInt8.ofNat (v % 0x40 + 0x80) :: rest) =
      .char (Char.ofNat v) := by
  have first := toNat_ofNat (show v / 4096 % 0x10 + 0xE0 < 256 by omega)
  have second := toNat_ofNat (show v / 64 % 0x40 + 0x80 < 256 by omega)
  have third := toNat_ofNat (show v % 0x40 + 0x80 < 256 by omega)
  have joined : (v / 4096 % 0x10 + 0xE0) % 0x10 * 0x1000 +
      (v / 64 % 0x40 + 0x80) % 0x40 * 0x40 + (v % 0x40 + 0x80) % 0x40 = v := by omega
  have continues : isSecondOfThree (UInt8.ofNat (v / 4096 % 0x10 + 0xE0))
      (UInt8.ofNat (v / 64 % 0x40 + 0x80)) = true := by
    rw [isSecondOfThree_iff, first, second]
    omega
  simp only [front, UInt8.lt_iff_toNat_lt, first, UInt8.reduceToNat]
  rw [if_neg (by omega), if_neg (by omega), if_neg (by omega), if_pos (by omega),
    if_pos continues, if_pos (isTail_ofNat (by omega)), ofThree, first, second, third, joined]

theorem front_four {v : Nat} (lower : 0x10000 ≤ v) (upper : v ≤ 0x10FFFF) (rest : Bytes) :
    front (UInt8.ofNat (v / 262144 % 0x08 + 0xF0))
        (UInt8.ofNat (v / 4096 % 0x40 + 0x80) :: UInt8.ofNat (v / 64 % 0x40 + 0x80) ::
          UInt8.ofNat (v % 0x40 + 0x80) :: rest) =
      .char (Char.ofNat v) := by
  have first := toNat_ofNat (show v / 262144 % 0x08 + 0xF0 < 256 by omega)
  have second := toNat_ofNat (show v / 4096 % 0x40 + 0x80 < 256 by omega)
  have third := toNat_ofNat (show v / 64 % 0x40 + 0x80 < 256 by omega)
  have fourth := toNat_ofNat (show v % 0x40 + 0x80 < 256 by omega)
  have joined : (v / 262144 % 0x08 + 0xF0) % 0x08 * 0x40000 +
      (v / 4096 % 0x40 + 0x80) % 0x40 * 0x1000 + (v / 64 % 0x40 + 0x80) % 0x40 * 0x40 +
      (v % 0x40 + 0x80) % 0x40 = v := by omega
  have continues : isSecondOfFour (UInt8.ofNat (v / 262144 % 0x08 + 0xF0))
      (UInt8.ofNat (v / 4096 % 0x40 + 0x80)) = true := by
    rw [isSecondOfFour_iff, first, second]
    omega
  simp only [front, UInt8.lt_iff_toNat_lt, first, UInt8.reduceToNat]
  rw [if_neg (by omega), if_neg (by omega), if_neg (by omega), if_neg (by omega),
    if_pos (by omega), if_pos continues, if_pos (isTail_ofNat (by omega)),
    if_pos (isTail_ofNat (by omega)), ofFour, first, second, third, fourth, joined]

/-- The first octet of a character and those that follow it make up that character. -/
theorem front_utf8EncodeChar (c : Char) (rest : Bytes) :
    ∃ a tail, String.utf8EncodeChar c = a :: tail ∧ front a (tail ++ rest) = .char c := by
  have isChar : Char.ofNat c.val.toNat = c := Char.ofNat_toNat c
  have valid : c.val.toNat < 0xD800 ∨ 0xDFFF < c.val.toNat ∧ c.val.toNat < 0x110000 := c.valid
  rw [String.utf8EncodeChar]
  generalize c.val.toNat = v at isChar valid
  subst isChar
  split
  · exact ⟨_, _, rfl, front_one (by omega) _⟩
  split
  · exact ⟨_, _, rfl, front_two (by omega) (by omega) _⟩
  split
  · exact ⟨_, _, rfl, front_three (by omega) (by omega) (by omega) _⟩
  · exact ⟨_, _, rfl, front_four (by omega) (by omega) _⟩

/-! ## Whole texts -/

theorem piecesFrom_covered (covered rest : Bytes) :
    piecesFrom covered.length (covered ++ rest) = piecesFrom 0 rest := by
  induction covered with
  | nil => rfl
  | cons a covered ih => exact ih

theorem piecesFrom_utf8EncodeChar (c : Char) (rest : Bytes) :
    piecesFrom 0 (String.utf8EncodeChar c ++ rest) = .char c :: piecesFrom 0 rest := by
  obtain ⟨a, tail, encoded, isChar⟩ := front_utf8EncodeChar c rest
  have size : tail.length = c.utf8Size - 1 := by
    rw [← String.length_utf8EncodeChar, encoded]
    rfl
  rw [encoded, List.cons_append, piecesFrom, isChar, Piece.length, ← size, piecesFrom_covered]

theorem pieces_encode (text : String) : pieces (encode text) = text.toList.map Piece.char := by
  rw [pieces, encode]
  induction text.toList with
  | nil => rfl
  | cons c s ih => rw [List.flatMap_cons, piecesFrom_utf8EncodeChar, ih, List.map_cons]

theorem decodePieces_map_char (index : Nat) (s : List Char) :
    decodePieces index (s.map Piece.char) = .ok s := by
  induction s generalizing index with
  | nil => rfl
  | cons c s ih =>
    rw [List.map_cons, decodePieces, ih]
    rfl

/-- The octets of a text spell that text. -/
theorem decode_encode (text : String) : decode (encode text) = .ok text := by
  rw [decode, pieces_encode, decodePieces_map_char]
  show Except.ok (String.ofList text.toList) = .ok text
  rw [String.ofList_toList]

/-! ## What is read as a text -/

theorem val_ofNat {v : Nat} (valid : v < 0xD800 ∨ 0xDFFF < v ∧ v < 0x110000) :
    (Char.ofNat v).val.toNat = v := by
  have isChar : v.isValidChar := valid
  rw [Char.ofNat, dif_pos isChar]
  rfl

theorem ofNat_eq {n : Nat} {b : UInt8} (same : n = b.toNat) : UInt8.ofNat n = b := by
  rw [same, UInt8.ofNat_toNat]

theorem utf8EncodeChar_one {a : UInt8} (isLow : a < 0x80) :
    String.utf8EncodeChar (Char.ofNat a.toNat) = [a] := by
  simp only [UInt8.lt_iff_toNat_lt, UInt8.reduceToNat] at isLow
  rw [String.utf8EncodeChar, val_ofNat (by omega)]
  rw [if_pos (by omega), ofNat_eq rfl]

theorem utf8EncodeChar_two {a b : UInt8} (lower : ¬a < 0xC2) (upper : a < 0xE0)
    (second : isTail b = true) : String.utf8EncodeChar (ofTwo a b) = [a, b] := by
  simp only [UInt8.lt_iff_toNat_lt, UInt8.reduceToNat] at lower upper
  rw [isTail_iff] at second
  rw [ofTwo, String.utf8EncodeChar, val_ofNat (by omega)]
  rw [if_neg (by omega), if_pos (by omega), ofNat_eq (b := a) (by omega),
    ofNat_eq (b := b) (by omega)]

theorem utf8EncodeChar_three {a b c : UInt8} (lower : ¬a < 0xE0) (upper : a < 0xF0)
    (second : isSecondOfThree a b = true) (third : isTail c = true) :
    String.utf8EncodeChar (ofThree a b c) = [a, b, c] := by
  simp only [UInt8.lt_iff_toNat_lt, UInt8.reduceToNat] at lower upper
  rw [isTail_iff] at third
  rw [isSecondOfThree_iff] at second
  rw [ofThree, String.utf8EncodeChar, val_ofNat (by omega)]
  rw [if_neg (by omega), if_neg (by omega), if_pos (by omega), ofNat_eq (b := a) (by omega),
    ofNat_eq (b := b) (by omega), ofNat_eq (b := c) (by omega)]

theorem utf8EncodeChar_four {a b c d : UInt8} (lower : ¬a < 0xF0) (upper : a < 0xF5)
    (second : isSecondOfFour a b = true) (third : isTail c = true) (fourth : isTail d = true) :
    String.utf8EncodeChar (ofFour a b c d) = [a, b, c, d] := by
  simp only [UInt8.lt_iff_toNat_lt, UInt8.reduceToNat] at lower upper
  rw [isTail_iff] at third fourth
  rw [isSecondOfFour_iff] at second
  rw [ofFour, String.utf8EncodeChar, val_ofNat (by omega)]
  rw [if_neg (by omega), if_neg (by omega), if_neg (by omega), ofNat_eq (b := a) (by omega),
    ofNat_eq (b := b) (by omega), ofNat_eq (b := c) (by omega), ofNat_eq (b := d) (by omega)]

/-- A character that is found at the front of some octets is spelled there. -/
theorem exists_of_front {a : UInt8} {rest : Bytes} {c : Char} (found : front a rest = .char c) :
    ∃ tail others, rest = tail ++ others ∧ String.utf8EncodeChar c = a :: tail := by
  rw [front.eq_def] at found
  split_ifs at found with isLow stray two three four
  · cases found
    exact ⟨[], rest, rfl, utf8EncodeChar_one isLow⟩
  · cases rest with
    | nil => cases found
    | cons b others =>
      simp only at found
      split_ifs at found with second
      cases found
      exact ⟨[b], others, rfl, utf8EncodeChar_two stray two second⟩
  · rcases rest with _ | ⟨b, _ | ⟨c, others⟩⟩ <;> simp only at found
    · cases found
    · split_ifs at found
    · split_ifs at found with second third
      cases found
      exact ⟨[b, c], others, rfl, utf8EncodeChar_three two three second third⟩
  · rcases rest with _ | ⟨b, _ | ⟨c, _ | ⟨d, others⟩⟩⟩ <;> simp only at found
    · cases found
    · split_ifs at found
    · split_ifs at found
    · split_ifs at found with second third fourth
      cases found
      exact ⟨[b, c, d], others, rfl, utf8EncodeChar_four three four second third fourth⟩

theorem eq_map_char_of_decodePieces {index : Nat} {found : List Piece} {s : List Char}
    (spelled : decodePieces index found = .ok s) : found = s.map Piece.char := by
  induction found generalizing index s with
  | nil =>
    cases spelled
    rfl
  | cons piece found ih =>
    cases piece with
    | broken length => cases spelled
    | cut length => cases spelled
    | char c =>
      rw [decodePieces] at spelled
      cases later : decodePieces (index + c.utf8Size) found with
      | error defect =>
        rw [later] at spelled
        cases spelled
      | ok t =>
        rw [later] at spelled
        cases spelled
        rw [ih later]
        rfl

theorem eq_flatMap_of_pieces {bytes : Bytes} {s : List Char}
    (spelled : piecesFrom 0 bytes = s.map Piece.char) :
    bytes = s.flatMap String.utf8EncodeChar := by
  induction s generalizing bytes with
  | nil =>
    cases bytes with
    | nil => rfl
    | cons a rest => cases spelled
  | cons c s ih =>
    cases bytes with
    | nil => cases spelled
    | cons a rest =>
      obtain ⟨isFirst, later⟩ := List.cons.inj spelled
      obtain ⟨tail, others, rfl, encoded⟩ := exists_of_front isFirst
      have size : tail.length = (front a (tail ++ others)).length - 1 := by
        rw [isFirst, Piece.length, ← String.length_utf8EncodeChar, encoded]
        rfl
      rw [← size, piecesFrom_covered] at later
      rw [List.flatMap_cons, encoded, ← ih later]
      rfl

/-- The octets that are read as a text are the octets of that text. -/
theorem decode_eq_ok_iff (bytes : Bytes) (text : String) :
    decode bytes = .ok text ↔ encode text = bytes := by
  constructor
  · intro spelled
    rw [decode] at spelled
    cases found : decodePieces 0 (pieces bytes) with
    | error defect =>
      rw [found] at spelled
      cases spelled
    | ok s =>
      rw [found] at spelled
      cases spelled
      have isText := eq_map_char_of_decodePieces found
      rw [encode, String.toList_ofList, ← eq_flatMap_of_pieces isText]
  · rintro rfl
    exact decode_encode text

/-- A text is shown as it is. -/
theorem decodeLossy_encode (text : String) : decodeLossy (encode text) = text := by
  have shown : Piece.shown ∘ Piece.char = id := rfl
  rw [decodeLossy, pieces_encode, List.map_map, shown, List.map_id, String.ofList_toList]

theorem decode?_eq_some_iff (bytes : Bytes) (text : String) :
    decode? bytes = some text ↔ encode text = bytes := by
  rw [← decode_eq_ok_iff, decode?]
  cases decode bytes <;> simp [Except.toOption]

end Redirect.Utf8
