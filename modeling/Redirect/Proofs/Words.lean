/-
# Words of a line

A line is taken apart into words, which are maximal runs of word characters, and the single
characters between them. A word is bare when neither a dot nor a colon stands before it. What
a rule does to a line is then told word by word: it gives every bare word that spells its
name the new text, whatever else stands on the line, and it finds something exactly when
there is such a word.
-/

import Mathlib
import Redirect.Rule

namespace Redirect

namespace Text

/-- A token of a line: a word, or a character between words. -/
inductive Token where
  | gap (c : Char)
  | word (name : List Char)
  deriving DecidableEq, Repr

/-- Put a word character in front of a line already taken apart: it joins a word that comes
first there. -/
def extendWord (c : Char) : List Token → List Token
  | [] => [.word [c]]
  | .gap d :: rest => .word [c] :: .gap d :: rest
  | .word name :: rest => .word (c :: name) :: rest

/-- Put a character in front of a line already taken apart. -/
def pushToken (c : Char) (tokens : List Token) : List Token :=
  if isWord c then extendWord c tokens else .gap c :: tokens

/-- The tokens of a line, in order. -/
def tokens (s : List Char) : List Token :=
  s.foldr pushToken []

/-- A text begins with a word character. -/
def startsWord (s : List Char) : Bool :=
  s.head?.any isWord

/-- A text of word characters alone, and of one at least. -/
def IsRun (s : List Char) : Prop :=
  s ≠ [] ∧ ∀ c ∈ s, isWord c = true

/-- Tokens that a text falls into: no word is empty, and none could be longer. -/
inductive Divides : List Char → List Token → Prop
  | nil : Divides [] []
  | gap {c : Char} {s : List Char} {tokens : List Token} (between : isWord c = false)
      (rest : Divides s tokens) : Divides (c :: s) (.gap c :: tokens)
  | word {name s : List Char} {tokens : List Token} (run : IsRun name)
      (ends : startsWord s = false) (rest : Divides s tokens) :
      Divides (name ++ s) (.word name :: tokens)

/-! ## Every text falls into its tokens, and into no others -/

theorem startsWord_run_append {name : List Char} (run : IsRun name) (s : List Char) :
    startsWord (name ++ s) = true := by
  obtain ⟨nonempty, words⟩ := run
  cases name with
  | nil => exact absurd rfl nonempty
  | cons c name => exact words c List.mem_cons_self

/-- No word comes first in a text that does not begin with a word character. -/
theorem not_run_append {name s : List Char} (run : IsRun name)
    (ends : startsWord (name ++ s) = false) : False := by
  rw [startsWord_run_append run] at ends
  cases ends

theorem Divides.push {s : List Char} {tokens : List Token} (divides : Divides s tokens)
    (c : Char) : Divides (c :: s) (pushToken c tokens) := by
  cases isWordChar : isWord c with
  | false =>
    rw [pushToken, if_neg (by simp [isWordChar])]
    exact .gap isWordChar divides
  | true =>
    have single : IsRun [c] := ⟨List.cons_ne_nil c [], by simpa using isWordChar⟩
    rw [pushToken, if_pos isWordChar]
    cases divides with
    | nil => exact .word single rfl .nil
    | gap between rest => exact .word single between (.gap between rest)
    | @word name s tokens run ends rest =>
      have longer : IsRun (c :: name) := by
        refine ⟨List.cons_ne_nil c name, ?_⟩
        intro other member
        rcases List.mem_cons.mp member with rfl | member
        · exact isWordChar
        · exact run.2 other member
      exact .word longer ends rest

theorem divides_tokens (s : List Char) : Divides s (tokens s) := by
  induction s with
  | nil => exact .nil
  | cons c s ih => exact ih.push c

theorem tokens_cons (c : Char) (s : List Char) : tokens (c :: s) = pushToken c (tokens s) :=
  rfl

theorem pushToken_of_not_startsWord {c : Char} {s : List Char} (isWordChar : isWord c = true)
    (ends : startsWord s = false) : pushToken c (tokens s) = .word [c] :: tokens s := by
  rw [pushToken, if_pos isWordChar]
  cases s with
  | nil => rfl
  | cons d s =>
    have between : ¬isWord d = true := by
      rw [Bool.not_eq_true]
      exact ends
    rw [tokens_cons, pushToken, if_neg between, extendWord]

theorem tokens_run_append {name s : List Char} (run : IsRun name)
    (ends : startsWord s = false) : tokens (name ++ s) = .word name :: tokens s := by
  obtain ⟨nonempty, words⟩ := run
  induction name with
  | nil => exact absurd rfl nonempty
  | cons c name ih =>
    have isWordChar := words c List.mem_cons_self
    rw [List.cons_append, tokens_cons]
    cases name with
    | nil => exact pushToken_of_not_startsWord isWordChar ends
    | cons d name =>
      have others := fun other member => words other (List.mem_cons_of_mem c member)
      rw [ih (List.cons_ne_nil d name) others, pushToken, if_pos isWordChar, extendWord]

/-- A text falls into its tokens only. -/
theorem Divides.tokens_eq {s : List Char} {found : List Token} (divides : Divides s found) :
    tokens s = found := by
  induction divides with
  | nil => rfl
  | gap between rest ih => rw [tokens_cons, ih, pushToken, if_neg (by simp [between])]
  | word run ends rest ih => rw [tokens_run_append run ends, ih]

theorem startsWord_append {s other : List Char} (first : startsWord s = false)
    (second : startsWord other = false) : startsWord (s ++ other) = false := by
  cases s with
  | nil => exact second
  | cons c s => exact first

/-- Texts side by side fall into their own tokens when no word goes on from one to the other. -/
theorem Divides.append {s other : List Char} {found others : List Token}
    (divides : Divides s found) (dividesOther : Divides other others)
    (apart : startsWord other = false) : Divides (s ++ other) (found ++ others) := by
  induction divides with
  | nil => exact dividesOther
  | gap between rest ih => exact .gap between ih
  | word run ends rest ih =>
    rw [List.append_assoc]
    exact .word run (startsWord_append ends apart) ih

theorem tokens_run {name : List Char} (run : IsRun name) : tokens name = [.word name] := by
  have alone := tokens_run_append (s := []) run rfl
  rwa [List.append_nil] at alone

end Text

namespace Rule

open Text

/-! ## Bare names -/

/-- The bare words among tokens, in order. The first argument says that a word at the front
would be bare. -/
def bareNames (free : Bool) : List Token → List (List Char)
  | [] => []
  | .gap c :: rest => bareNames (isSeparator c) rest
  | .word name :: rest => if free then name :: bareNames false rest else bareNames false rest

/-- The text of tokens in which each bare word is replaced by a text of its own. -/
def substitute (new : List Char → List Char) (free : Bool) : List Token → List Char
  | [] => []
  | .gap c :: rest => c :: substitute new (isSeparator c) rest
  | .word name :: rest => (if free then new name else name) ++ substitute new false rest

/-- What a rule makes of the rest of a line, when the characters before it allow a bare name
or do not. -/
def replaceFrom (name new : List Char) (free : Bool) (s : List Char) : List Char :=
  if free && standsAt name s then new ++ replaceAfterSeparators name new name.length s
  else replaceAfterSeparators name new 0 s

section Scan

variable {name new : List Char}

/-- A name stands where a word begins just when the word spells the name. -/
theorem standsAt_append {word s : List Char} (names : ∀ c ∈ name, isWord c = true)
    (words : ∀ c ∈ word, isWord c = true) (ends : startsWord s = false) :
    standsAt name (word ++ s) = decide (name = word) := by
  induction name generalizing word with
  | nil =>
    cases word with
    | nil =>
      show (!startsWord s) = true
      rw [ends]
      rfl
    | cons c word =>
      show (!isWord c) = decide ([] = c :: word)
      rw [words c List.mem_cons_self]
      simp
  | cons a name ih =>
    have isWordChar := names a List.mem_cons_self
    have others := fun c member => names c (List.mem_cons_of_mem a member)
    cases word with
    | nil =>
      cases s with
      | nil => rfl
      | cons b s =>
        have different : (a == b) = false := by
          apply beq_eq_false_iff_ne.mpr
          rintro rfl
          exact Bool.noConfusion (isWordChar.symm.trans ends)
        simp [standsAt, List.isPrefixOf, different]
    | cons c word =>
      have inner := ih others fun other member => words other (List.mem_cons_of_mem c member)
      have split : standsAt (a :: name) (c :: word ++ s) =
          ((a == c) && standsAt name (word ++ s)) := by
        rw [standsAt, standsAt, ← Bool.and_assoc]
        rfl
      rw [split, inner]
      by_cases same : a = c
      · simp [same]
      · simp [same]

theorem standsAt_of_not_startsWord {s : List Char} (run : IsRun name)
    (ends : startsWord s = false) : standsAt name s = false := by
  have empty : standsAt name ([] ++ s) = decide (name = []) :=
    standsAt_append run.2 (List.forall_mem_nil _) ends
  rw [List.nil_append] at empty
  rw [empty]
  exact decide_eq_false run.1

theorem isSeparator_of_isWord {c : Char} (isWordChar : isWord c = true) :
    isSeparator c = false := by
  rw [isSeparator, isWordChar]
  rfl

theorem followsSeparator_append {word : List Char} (words : ∀ c ∈ word, isWord c = true)
    (s : List Char) : followsSeparator name (word ++ s) = followsSeparator name s := by
  induction word with
  | nil => rfl
  | cons c word ih =>
    rw [List.cons_append, followsSeparator, isSeparator_of_isWord (words c List.mem_cons_self),
      ih fun other member => words other (List.mem_cons_of_mem c member)]
    rfl

theorem replaceAfterSeparators_append {word : List Char}
    (words : ∀ c ∈ word, isWord c = true) (s : List Char) :
    replaceAfterSeparators name new 0 (word ++ s) =
      word ++ replaceAfterSeparators name new 0 s := by
  induction word with
  | nil => rfl
  | cons c word ih =>
    rw [List.cons_append, replaceAfterSeparators,
      isSeparator_of_isWord (words c List.mem_cons_self),
      ih fun other member => words other (List.mem_cons_of_mem c member)]
    rfl

theorem replaceAfterSeparators_covered (covered s : List Char) :
    replaceAfterSeparators name new covered.length (covered ++ s) =
      replaceAfterSeparators name new 0 s := by
  induction covered with
  | nil => rfl
  | cons c covered ih => exact ih

theorem replaceAfterSeparators_cons (c : Char) (s : List Char) :
    replaceAfterSeparators name new 0 (c :: s) =
      c :: replaceFrom name new (isSeparator c) s := by
  rw [replaceAfterSeparators, replaceFrom]
  split
  · rfl
  · rfl

/-- Scanning a line for a name from left to right replaces its bare words one by one. -/
theorem replaceFrom_eq_substitute (new : List Char) (run : IsRun name) {s : List Char}
    {tokens : List Token} (divides : Divides s tokens) (free : Bool) :
    replaceFrom name new free s =
      substitute (fun word => if name = word then new else word) free tokens := by
  induction divides generalizing free with
  | nil =>
    rw [replaceFrom, standsAt_of_not_startsWord run rfl, Bool.and_false]
    rfl
  | @gap c s tokens between rest ih =>
    have stands : standsAt name (c :: s) = false := standsAt_of_not_startsWord run between
    rw [replaceFrom, stands, Bool.and_false, if_neg Bool.false_ne_true,
      replaceAfterSeparators_cons, ih, substitute]
  | @word word s tokens wordRun ends rest ih =>
    have rest : replaceAfterSeparators name new 0 s =
        substitute (fun word => if name = word then new else word) false tokens := ih false
    rw [replaceFrom, standsAt_append run.2 wordRun.2 ends, substitute, ← rest]
    by_cases found : free = true ∧ name = word
    · obtain ⟨rfl, rfl⟩ := found
      simp [replaceAfterSeparators_covered]
    · rw [replaceAfterSeparators_append wordRun.2]
      cases free with
      | false => rfl
      | true =>
        have different : name ≠ word := fun same => found ⟨rfl, same⟩
        simp [different]

/-- A name is found in a line just when it is one of the bare words. -/
theorem found_eq_mem_bareNames (run : IsRun name) {s : List Char} {tokens : List Token}
    (divides : Divides s tokens) (free : Bool) :
    (free && standsAt name s || followsSeparator name s) =
      decide (name ∈ bareNames free tokens) := by
  induction divides generalizing free with
  | nil =>
    rw [standsAt_of_not_startsWord run rfl, Bool.and_false]
    rfl
  | @gap c s tokens between rest ih =>
    have stands : standsAt name (c :: s) = false := standsAt_of_not_startsWord run between
    rw [stands, Bool.and_false, Bool.false_or, followsSeparator, ih, bareNames]
  | @word word s tokens wordRun ends rest ih =>
    have others : followsSeparator name s = decide (name ∈ bareNames false tokens) := ih false
    rw [standsAt_append run.2 wordRun.2 ends, followsSeparator_append wordRun.2, others,
      bareNames]
    cases free with
    | false => simp
    | true => simp [List.mem_cons]

end Scan

/-! ## What a rule does -/

theorem isIdentifierPart_of_isIdentifierStart {c : Char} (start : isIdentifierStart c = true) :
    isIdentifierPart c = true := by
  rw [isIdentifierPart, Char.isAlphanum, Bool.or_right_comm]
  exact Bool.or_eq_true_iff.mpr (.inl start)

/-- The characters of identifiers are visible ones of ASCII. -/
theorem toNat_of_isIdentifierPart {c : Char} (part : isIdentifierPart c = true) :
    0x21 ≤ c.toNat ∧ c.toNat < 0x7F := by
  simp only [isIdentifierPart, Char.isAlphanum, Char.isAlpha, Char.isUpper, Char.isLower,
    Char.isDigit, Bool.or_eq_true, Bool.and_eq_true, decide_eq_true_eq, beq_iff_eq,
    UInt32.le_iff_toNat_le, ge_iff_le] at part
  change ((65 ≤ c.toNat ∧ c.toNat ≤ 90 ∨ 97 ≤ c.toNat ∧ c.toNat ≤ 122) ∨
    48 ≤ c.toNat ∧ c.toNat ≤ 57) ∨ c = '_' at part
  rcases part with ((upper | lower) | digit) | rfl
  · omega
  · omega
  · omega
  · decide

theorem isWord_of_isIdentifierPart {c : Char} (part : isIdentifierPart c = true) :
    isWord c = true := by
  have small := (toNat_of_isIdentifierPart part).2
  rw [isWord, if_pos (small.trans (by decide))]
  exact part

theorem isRun_of_isIdentifier {s : List Char} (isIdentifier : Text.isIdentifier s = true) :
    IsRun s := by
  cases s with
  | nil => cases isIdentifier
  | cons c s =>
    rw [Text.isIdentifier, Bool.and_eq_true, List.all_eq_true] at isIdentifier
    obtain ⟨start, parts⟩ := isIdentifier
    refine ⟨List.cons_ne_nil c s, ?_⟩
    intro other member
    rcases List.mem_cons.mp member with rfl | member
    · exact isWord_of_isIdentifierPart (isIdentifierPart_of_isIdentifierStart start)
    · exact isWord_of_isIdentifierPart (parts other member)

/-- What a rule puts in place of a bare word. -/
def newWord (rule : Rule) (word : List Char) : List Char :=
  if rule.pattern.toList = word then rule.replacement.toList else word

theorem isRun_pattern (rule : Rule) : IsRun rule.pattern.toList :=
  isRun_of_isIdentifier rule.isIdentifier

/-- A rule finds something in a line just when its name is a bare word of it. -/
theorem isMatch_iff_mem_bareNames (rule : Rule) (line : String) :
    rule.isMatch line = true ↔
      rule.pattern.toList ∈ bareNames true (tokens line.toList) := by
  have found := found_eq_mem_bareNames rule.isRun_pattern (divides_tokens line.toList) true
  rw [Bool.true_and] at found
  rw [isMatch, found, decide_eq_true_iff]

/-- A rule gives the bare words that spell its name the new text, and keeps everything else. -/
theorem toList_apply (rule : Rule) (line : String) :
    (rule.apply line).toList = substitute rule.newWord true (tokens line.toList) := by
  have scanned := replaceFrom_eq_substitute rule.replacement.toList
    rule.isRun_pattern (divides_tokens line.toList) true
  rw [replaceFrom, Bool.true_and] at scanned
  rw [apply, String.toList_ofList, scanned]
  rfl

end Rule

end Redirect
