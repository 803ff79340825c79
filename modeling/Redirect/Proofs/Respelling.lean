/-
# Lines after a rule was applied

Replacing bare words leaves a line whose tokens are known: those of the new texts stand where
the words stood, and no word grows together with its neighbours. So the bare names of the new
line are those of the old one, each given up for the bare names of the text that replaced it.
-/

import Mathlib.Data.List.Basic
import Redirect.Proofs.Words

namespace Redirect

namespace Rule

open Text

/-- The tokens of a line in which each bare word was replaced by a text of its own. -/
def respell (new : List Char → List Char) (free : Bool) : List Token → List Token
  | [] => []
  | .gap c :: rest => .gap c :: respell new (isSeparator c) rest
  | .word name :: rest =>
    (if free then tokens (new name) else [.word name]) ++ respell new false rest

section Tokens

variable {new : List Char → List Char} {s : List Char} {found : List Token}

theorem startsWord_substitute (new : List Char → List Char) (divides : Divides s found)
    (ends : startsWord s = false) (free : Bool) :
    startsWord (substitute new free found) = false := by
  cases divides with
  | nil => rfl
  | gap between rest => exact between
  | word run _ rest => exact (not_run_append run ends).elim

/-- A line falls into the expected tokens after a replacement. -/
theorem divides_substitute (new : List Char → List Char) (divides : Divides s found)
    (free : Bool) :
    Divides (substitute new free found) (respell new free found) := by
  induction divides generalizing free with
  | nil => exact .nil
  | gap between rest ih => exact .gap between (ih _)
  | @word name s rest run ends divides ih =>
    have ends := startsWord_substitute new divides ends false
    cases free with
    | false => exact .word run ends (ih false)
    | true => exact (divides_tokens (new name)).append (ih false) ends

theorem bareNames_of_not_startsWord (divides : Divides s found) (ends : startsWord s = false)
    (free other : Bool) : bareNames free found = bareNames other found := by
  cases divides with
  | nil => rfl
  | gap between rest => rfl
  | word run _ rest => exact (not_run_append run ends).elim

theorem bareNames_append (front : List Token) (divides : Divides s found)
    (ends : startsWord s = false) (free : Bool) :
    bareNames free (front ++ found) = bareNames free front ++ bareNames false found := by
  induction front generalizing free with
  | nil => exact bareNames_of_not_startsWord divides ends free false
  | cons token front ih =>
    cases token with
    | gap c => exact ih (isSeparator c)
    | word name =>
      rw [List.cons_append, bareNames, bareNames, ih false]
      cases free with
      | false => rfl
      | true => rfl

/-- A replaced word gives way to the bare names of its new text. -/
theorem bareNames_respell (divides : Divides s found) (free : Bool) :
    bareNames free (respell new free found) =
      (bareNames free found).flatMap fun name => bareNames true (tokens (new name)) := by
  induction divides generalizing free with
  | nil => rfl
  | gap between rest ih => exact ih _
  | @word name s rest run ends divides ih =>
    have dividesNew := divides_substitute new divides false
    have ends := startsWord_substitute new divides ends false
    cases free with
    | false => exact ih false
    | true =>
      rw [respell, if_pos rfl, bareNames_append _ dividesNew ends, ih false, bareNames,
        if_pos rfl, List.flatMap_cons]

theorem isRun_of_mem_bareNames (divides : Divides s found) {free : Bool} {name : List Char}
    (member : name ∈ bareNames free found) : IsRun name := by
  induction divides generalizing free with
  | nil => cases member
  | gap between rest ih => exact ih member
  | word run ends rest ih =>
    rw [bareNames] at member
    cases free with
    | false => exact ih member
    | true =>
      rcases List.mem_cons.mp member with rfl | member
      · exact run
      · exact ih member

/-! ## Replacing once more -/

theorem substitute_of_not_startsWord (new : List Char → List Char) (divides : Divides s found)
    (ends : startsWord s = false) (free other : Bool) :
    substitute new free found = substitute new other found := by
  cases divides with
  | nil => rfl
  | gap between rest => rfl
  | word run _ rest => exact (not_run_append run ends).elim

theorem substitute_append (new : List Char → List Char) (front : List Token)
    (divides : Divides s found) (ends : startsWord s = false) (free : Bool) :
    substitute new free (front ++ found) =
      substitute new free front ++ substitute new false found := by
  induction front generalizing free with
  | nil => exact substitute_of_not_startsWord new divides ends free false
  | cons token front ih =>
    cases token with
    | gap c => exact congrArg (List.cons c) (ih (isSeparator c))
    | word name => rw [List.cons_append, substitute, substitute, ih false, List.append_assoc]

/-- A replacement after another one is a single replacement, by texts in which the bare words
were replaced in their turn. -/
theorem substitute_respell (outer : List Char → List Char) (divides : Divides s found)
    (free : Bool) :
    substitute outer free (respell new free found) =
      substitute (fun name => substitute outer true (tokens (new name))) free found := by
  induction divides generalizing free with
  | nil => rfl
  | @gap c s rest between divides ih => exact congrArg (List.cons c) (ih _)
  | @word name s rest run ends divides ih =>
    have dividesNew := divides_substitute new divides false
    have ends := startsWord_substitute new divides ends false
    cases free with
    | false => exact congrArg (name ++ ·) (ih false)
    | true => rw [respell, if_pos rfl, substitute_append _ _ dividesNew ends, ih false, substitute,
        if_pos rfl]

theorem substitute_congr (new other : List Char → List Char) (free : Bool)
    (same : ∀ name ∈ bareNames free found, new name = other name) :
    substitute new free found = substitute other free found := by
  induction found generalizing free with
  | nil => rfl
  | cons token rest ih =>
    cases token with
    | gap c => exact congrArg (List.cons c) (ih _ same)
    | word name =>
      cases free with
      | false => exact congrArg (name ++ ·) (ih false same)
      | true =>
        obtain ⟨here, later⟩ := List.forall_mem_cons.mp same
        rw [substitute, substitute, if_pos rfl, if_pos rfl, here, ih false later]

/-- Bare words that are replaced by themselves leave the line as it is. -/
theorem substitute_eq_self (divides : Divides s found) (free : Bool)
    (same : ∀ name ∈ bareNames free found, new name = name) :
    substitute new free found = s := by
  rw [substitute_congr new id free same]
  clear same
  induction divides generalizing free with
  | nil => rfl
  | gap between rest ih => rw [substitute, ih]
  | word run ends rest ih => rw [substitute, id, ite_self, ih]

/-! ## Characters of the new line -/

theorem substitute_ne_nil (fills : ∀ name, name ≠ [] → new name ≠ [])
    (divides : Divides s found) (nonempty : s ≠ []) (free : Bool) :
    substitute new free found ≠ [] := by
  cases divides with
  | nil => exact absurd rfl nonempty
  | gap between rest => exact List.cons_ne_nil _ _
  | @word name s rest run ends divides =>
    rw [substitute]
    cases free with
    | false => exact List.append_ne_nil_of_left_ne_nil run.1 _
    | true => exact List.append_ne_nil_of_left_ne_nil (fills name run.1) _

theorem not_mem_substitute {c : Char} (plain : ∀ name, c ∉ name → c ∉ new name)
    (divides : Divides s found) (absent : c ∉ s) (free : Bool) :
    c ∉ substitute new free found := by
  induction divides generalizing free with
  | nil => exact absent
  | gap between rest ih =>
    obtain ⟨different, others⟩ := List.ne_and_not_mem_of_not_mem_cons absent
    exact List.not_mem_cons_of_ne_of_not_mem different (ih others _)
  | @word name s rest run ends divides ih =>
    obtain ⟨inName, others⟩ := not_or.mp (List.mem_append.not.mp absent)
    rw [substitute, List.mem_append]
    rintro (inWord | later)
    · cases free with
      | false => exact inName inWord
      | true => exact plain name inName inWord
    · exact ih others false later

theorem getLast?_append_ne {c : Char} {front back : List Char}
    (ends : back.getLast? ≠ some c) (alone : back = [] → front.getLast? ≠ some c) :
    (front ++ back).getLast? ≠ some c := by
  rw [List.getLast?_append]
  cases last : back.getLast? with
  | none => exact alone (List.getLast?_eq_none_iff.mp last)
  | some d =>
    rw [last] at ends
    exact ends

theorem getLast?_of_append_ne {c : Char} {front back : List Char}
    (ends : (front ++ back).getLast? ≠ some c) :
    back.getLast? ≠ some c ∧ (back = [] → front.getLast? ≠ some c) := by
  rw [List.getLast?_append] at ends
  constructor
  · intro last
    rw [last] at ends
    exact ends rfl
  · rintro rfl
    exact ends

/-- A line gets another last character only from the text that replaces its last word. -/
theorem getLast?_substitute_ne {c : Char} (fills : ∀ name, name ≠ [] → new name ≠ [])
    (bare : ∀ name, name.getLast? ≠ some c → (new name).getLast? ≠ some c)
    (divides : Divides s found) (ends : s.getLast? ≠ some c) (free : Bool) :
    (substitute new free found).getLast? ≠ some c := by
  induction divides generalizing free with
  | nil => exact ends
  | @gap d s rest between divides ih =>
    rw [← List.singleton_append] at ends
    obtain ⟨later, alone⟩ := getLast?_of_append_ne ends
    rw [substitute, ← List.singleton_append]
    apply getLast?_append_ne (ih later _)
    intro nothing
    by_cases empty : s = []
    · exact alone empty
    · exact absurd nothing (substitute_ne_nil fills divides empty _)
  | @word name s rest run wordEnds divides ih =>
    obtain ⟨later, alone⟩ := getLast?_of_append_ne ends
    rw [substitute]
    apply getLast?_append_ne (ih later false)
    intro nothing
    by_cases empty : s = []
    · cases free with
      | false => exact alone empty
      | true => exact bare name (alone empty)
    · exact absurd nothing (substitute_ne_nil fills divides empty false)

end Tokens

section Apply

variable {rule other : Rule} {head : List Char}

/-- A rule whose new text holds one bare name gives up its own name for that one. -/
theorem bareNames_apply
    (leads : bareNames true (tokens rule.replacement.toList) = [head]) (line : String) :
    bareNames true (tokens (rule.apply line).toList) =
      (bareNames true (tokens line.toList)).map fun name =>
        if rule.pattern.toList = name then head else name := by
  have divides := divides_tokens line.toList
  have respelled := (divides_substitute rule.newWord divides true).tokens_eq
  rw [toList_apply, respelled, bareNames_respell divides, List.map_eq_flatMap]
  apply List.flatMap_congr
  intro name member
  rw [newWord]
  split
  · exact leads
  · rw [tokens_run (isRun_of_mem_bareNames divides member)]
    rfl

/-- Applying a rule takes its own name from a line. It neither takes nor adds another name,
unless its new text leads with that one. -/
theorem isMatch_apply_iff
    (leads : bareNames true (tokens rule.replacement.toList) = [head])
    (apart : head ≠ other.pattern.toList) (line : String) :
    other.isMatch (rule.apply line) = true ↔
      other.isMatch line = true ∧ other.pattern ≠ rule.pattern := by
  rw [isMatch_iff_mem_bareNames, isMatch_iff_mem_bareNames, bareNames_apply leads, List.mem_map]
  constructor
  · rintro ⟨name, member, same⟩
    by_cases own : rule.pattern.toList = name
    · rw [if_pos own] at same
      exact absurd same apart
    · rw [if_neg own] at same
      subst same
      exact ⟨member, fun equal => own (by rw [equal])⟩
  · rintro ⟨member, different⟩
    refine ⟨_, member, if_neg ?_⟩
    intro same
    exact different (String.toList_inj.mp same.symm)

end Apply

end Rule

end Redirect
