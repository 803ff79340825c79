/-
# Markers and inserted text

Where a rule only puts a block of text before some words of a line, the old line is the new
one without the blocks. A text that can neither reach into such a block nor begin in it stands
in the new line only if it stood in the old one, so blocks like these complete no marker.
-/

import Mathlib.Data.List.Chain
import Redirect.Markers
import Redirect.Proofs.Occurrences
import Redirect.Proofs.Words

namespace Redirect

namespace Text

/-- The second text is the first one with copies of a block put into it. -/
inductive Inserted (block : List Char) : List Char → List Char → Prop
  | nil : Inserted block [] []
  | keep (c : Char) {old new : List Char} (rest : Inserted block old new) :
      Inserted block (c :: old) (c :: new)
  | block {old new : List Char} (rest : Inserted block old new) :
      Inserted block old (block ++ new)

/-- A needle that shares no place with a block: no part of it goes on into the block, and no
end of the block begins it. -/
structure Foreign (needle block : List Char) : Prop where
  enters : ∀ c ∈ block.head?, c ∉ needle
  leaves : ∀ rest ∈ block.tails, rest ≠ [] → ¬rest <+: needle ∧ ¬needle <+: rest

variable {needle block old new : List Char}

theorem Inserted.append (inserted : Inserted block old new) (s : List Char) :
    Inserted block (s ++ old) (s ++ new) := by
  induction s with
  | nil => exact inserted
  | cons c s ih => exact .keep c ih

/-- A text that the block does not interrupt stands before the insertion where it stands
after it. -/
theorem Inserted.begins_of_begins (inserted : Inserted block old new)
    (apart : ∀ c ∈ block.head?, c ∉ needle) (stands : needle <+: new) : needle <+: old := by
  induction inserted generalizing needle with
  | nil => exact stands
  | keep c rest ih =>
    cases needle with
    | nil => exact List.nil_prefix
    | cons d needle =>
      obtain ⟨rfl, goesOn⟩ := List.cons_prefix_cons.mp stands
      have others := fun other member inside =>
        apart other member (List.mem_cons_of_mem d inside)
      exact List.cons_prefix_cons.mpr ⟨rfl, ih others goesOn⟩
  | block rest ih =>
    cases block with
    | nil => exact ih apart stands
    | cons b block =>
      cases needle with
      | nil => exact List.nil_prefix
      | cons d needle =>
        obtain ⟨rfl, -⟩ := List.cons_prefix_cons.mp stands
        exact absurd List.mem_cons_self (apart d rfl)

/-- An occurrence in two texts side by side stands in the second or begins in the first. -/
theorem occurs_append {s other : List Char} (found : occurs needle (s ++ other) = true) :
    occurs needle other = true ∨ ∃ rest ∈ s.tails, rest ≠ [] ∧ needle <+: rest ++ other := by
  induction s with
  | nil => exact .inl found
  | cons c s ih =>
    rcases (occurs_cons_iff c (s ++ other)).mp found with here | later
    · exact .inr ⟨c :: s, (List.mem_tails _ _).mpr (List.suffix_refl _), List.cons_ne_nil c s,
        here⟩
    · rcases ih later with there | ⟨rest, isTail, nonempty, stands⟩
      · exact .inl there
      · have isSuffix := ((List.mem_tails _ _).mp isTail).trans (List.suffix_cons c s)
        exact .inr ⟨rest, (List.mem_tails _ _).mpr isSuffix, nonempty, stands⟩

/-- Inserted blocks complete no occurrence of a needle that is foreign to them. -/
theorem Inserted.occurs_of_occurs (inserted : Inserted block old new)
    (isForeign : Foreign needle block) (found : occurs needle new = true) :
    occurs needle old = true := by
  induction inserted with
  | nil => exact found
  | @keep c old new rest ih =>
    rw [occurs_cons_iff] at found ⊢
    rcases found with here | later
    · exact .inl ((Inserted.keep c rest).begins_of_begins isForeign.enters here)
    · exact .inr (ih later)
  | block rest ih =>
    rcases occurs_append found with there | ⟨tail, isTail, nonempty, stands⟩
    · exact ih there
    · obtain ⟨notLeft, notRight⟩ := isForeign.leaves tail isTail nonempty
      rcases List.prefix_or_prefix_of_prefix stands (List.prefix_append tail _) with
        inside | beyond
      · exact absurd inside notRight
      · exact absurd beyond notLeft

/-- No word begins within a text: a word character in it stands at the front or behind another
one. -/
def Unbroken (needle : List Char) : Prop :=
  needle.IsChain fun first second => isWord second = true → isWord first = true

instance (needle : List Char) : Decidable (Unbroken needle) :=
  inferInstanceAs (Decidable (needle.IsChain _))

/-- The second text is the first one with copies of a block put before words in it. The first
argument says that a word character comes before the two texts. -/
inductive PutBeforeWords (block : List Char) : Bool → List Char → List Char → Prop
  | nil (inWord : Bool) : PutBeforeWords block inWord [] []
  | keep {inWord : Bool} (c : Char) {old new : List Char}
      (rest : PutBeforeWords block (isWord c) old new) :
      PutBeforeWords block inWord (c :: old) (c :: new)
  | put {c : Char} {old new : List Char} (starts : isWord c = true)
      (rest : PutBeforeWords block true old new) :
      PutBeforeWords block false (c :: old) (block ++ c :: new)

/-- An unbroken text goes on after the insertion where it went on before. -/
theorem PutBeforeWords.begins {inWord : Bool} (put : PutBeforeWords block inWord old new)
    (unbroken : Unbroken needle) (goesOn : ∀ c ∈ needle.head?, isWord c = true → inWord = true)
    (stands : needle <+: old) : needle <+: new := by
  induction put generalizing needle with
  | nil => exact stands
  | keep c rest ih =>
    cases needle with
    | nil => exact List.nil_prefix
    | cons d needle =>
      obtain ⟨rfl, later⟩ := List.cons_prefix_cons.mp stands
      obtain ⟨next, unbroken⟩ := List.isChain_cons.mp unbroken
      exact List.cons_prefix_cons.mpr ⟨rfl, ih unbroken next later⟩
  | put starts rest ih =>
    cases needle with
    | nil => exact List.nil_prefix
    | cons d needle =>
      obtain ⟨rfl, -⟩ := List.cons_prefix_cons.mp stands
      exact absurd (goesOn d rfl starts) Bool.false_ne_true

theorem occurs_append_left (s : List Char) {other : List Char}
    (found : occurs needle other = true) : occurs needle (s ++ other) = true := by
  induction s with
  | nil => exact found
  | cons c s ih => exact (occurs_cons_iff c (s ++ other)).mpr (.inr ih)

/-- An occurrence of an unbroken text outlasts the insertion. -/
theorem PutBeforeWords.occurs {inWord : Bool} (put : PutBeforeWords block inWord old new)
    (unbroken : Unbroken needle) (found : occurs needle old = true) :
    occurs needle new = true := by
  induction put with
  | nil => exact found
  | @keep inWord c old new rest ih =>
    rw [occurs_cons_iff] at found ⊢
    rcases found with here | later
    · have kept : PutBeforeWords block true (c :: old) (c :: new) := .keep c rest
      exact .inl (kept.begins unbroken (fun _ _ _ => rfl) here)
    · exact .inr (ih later)
  | @put c old new starts rest ih =>
    apply occurs_append_left
    rw [occurs_cons_iff] at found ⊢
    rcases found with here | later
    · have kept : PutBeforeWords block true (c :: old) (c :: new) := .keep c (starts ▸ rest)
      exact .inl (kept.begins unbroken (fun _ _ _ => rfl) here)
    · exact .inr (ih later)

theorem PutBeforeWords.append {name : List Char} (words : ∀ c ∈ name, isWord c = true)
    (put : PutBeforeWords block true old new) :
    PutBeforeWords block true (name ++ old) (name ++ new) := by
  induction name with
  | nil => exact put
  | cons c name ih =>
    have rest := ih fun other member => words other (List.mem_cons_of_mem c member)
    exact .keep c (words c List.mem_cons_self ▸ rest)

end Text

namespace Rule

open Text

/-- Putting a block before some bare words inserts it into the line. -/
theorem inserted_substitute {block s : List Char} {tokens : List Token}
    {new : List Char → List Char}
    (puts : ∀ name, new name = name ∨ new name = block ++ name) (divides : Divides s tokens)
    (free : Bool) : Inserted block s (substitute new free tokens) := by
  induction divides generalizing free with
  | nil => exact .nil
  | gap between rest ih => exact .keep _ (ih _)
  | @word name s tokens run ends rest ih =>
    have kept := (ih false).append name
    rw [substitute]
    cases free with
    | false => exact kept
    | true =>
      rw [if_pos rfl]
      rcases puts name with same | put
      · rw [same]
        exact kept
      · rw [put, List.append_assoc]
        exact .block kept

/-- The block stands before words only. -/
theorem putBeforeWords_substitute {block s : List Char} {tokens : List Token}
    {new : List Char → List Char}
    (puts : ∀ name, new name = name ∨ new name = block ++ name) (divides : Divides s tokens)
    (free : Bool) {inWord : Bool} (apart : startsWord s = true → inWord = false) :
    PutBeforeWords block inWord s (substitute new free tokens) := by
  induction divides generalizing free inWord with
  | nil => exact .nil inWord
  | gap between rest ih => exact .keep _ (ih _ fun _ => between)
  | @word name s tokens run ends rest ih =>
    have later : PutBeforeWords block true s (substitute new false tokens) :=
      ih false fun starts => Bool.noConfusion (ends.symm.trans starts)
    cases apart (startsWord_run_append run s)
    obtain ⟨nonempty, words⟩ := run
    cases name with
    | nil => exact absurd rfl nonempty
    | cons c name =>
      have starts := words c List.mem_cons_self
      have others : PutBeforeWords block true (name ++ s) (name ++ substitute new false tokens) :=
        later.append fun other member => words other (List.mem_cons_of_mem c member)
      have kept : PutBeforeWords block false (c :: (name ++ s))
          (c :: (name ++ substitute new false tokens)) := .keep c (starts ▸ others)
      rw [substitute]
      cases free with
      | false => exact kept
      | true =>
        rw [if_pos rfl]
        rcases puts (c :: name) with same | put
        · rw [same]
          exact kept
        · rw [put, List.append_assoc]
          exact .put starts others

/-- A rule whose new text is its name behind a block puts that block before its name. -/
theorem newWord_of_qualifies {rule : Rule} {block : List Char}
    (qualifies : rule.replacement.toList = block ++ rule.pattern.toList) (name : List Char) :
    rule.newWord name = name ∨ rule.newWord name = block ++ name := by
  rw [newWord]
  split
  · rename_i own
    exact .inr (by rw [qualifies, own])
  · exact .inl rfl

/-- A rule whose new text is its name behind a block inserts that block. -/
theorem inserted_apply {rule : Rule} {block : List Char}
    (qualifies : rule.replacement.toList = block ++ rule.pattern.toList) (line : String) :
    Inserted block line.toList (rule.apply line).toList := by
  rw [toList_apply]
  exact inserted_substitute (newWord_of_qualifies qualifies) (divides_tokens line.toList) true

end Rule

/-- A line that no marker protects is not protected either after a rule has put a block before
its name, if the markers are foreign to the block. -/
theorem Markers.protects_apply {markers : Markers} {rule : Rule} {block : List Char}
    (qualifies : rule.replacement.toList = block ++ rule.pattern.toList)
    (isForeign : ∀ marker ∈ markers.texts, Text.Foreign marker.toList block) {line : String}
    (unprotected : markers.protects line = false) :
    markers.protects (rule.apply line) = false := by
  rw [protects, List.any_eq_false] at unprotected ⊢
  intro marker member found
  have inserted := Rule.inserted_apply qualifies line
  exact unprotected marker member (inserted.occurs_of_occurs (isForeign marker member) found)

/-- A line keeps its protection when a rule puts a block before its name, if no word begins
within a marker. -/
theorem Markers.protects_apply_of_protects {markers : Markers} {rule : Rule} {block : List Char}
    (qualifies : rule.replacement.toList = block ++ rule.pattern.toList)
    (unbroken : ∀ marker ∈ markers.texts, Text.Unbroken marker.toList) {line : String}
    (isProtected : markers.protects line = true) :
    markers.protects (rule.apply line) = true := by
  rw [protects, List.any_eq_true] at isProtected ⊢
  obtain ⟨marker, member, found⟩ := isProtected
  have put : Text.PutBeforeWords block false line.toList (rule.apply line).toList := by
    rw [Rule.toList_apply]
    exact Rule.putBeforeWords_substitute (Rule.newWord_of_qualifies qualifies)
      (Text.divides_tokens line.toList) true fun _ => rfl
  exact ⟨marker, member, put.occurs (unbroken marker member) found⟩

end Redirect
