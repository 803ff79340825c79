/-
# Qualified names

A qualified name is an identifier, the head, and more identifiers behind it, each joined to
the one before by a dot or a colon. Its members follow a joint, so the head is its only bare
name, and it has no character that could end a line. Rules whose new texts are qualified names
with foreign heads bring no name of a rule into a line.
-/

import Redirect.Proofs.Repeated

namespace Redirect

namespace Text

/-- The characters that join an identifier to the one before it. -/
def isJoint (c : Char) : Bool :=
  c == '.' || c == ':'

/-- Identifiers in a row, each behind a joint. -/
inductive Members : List Char → Prop
  | nil : Members []
  | cons {joint : Char} {name s : List Char} (joins : isJoint joint = true)
      (isName : isIdentifier name = true) (rest : Members s) : Members (joint :: (name ++ s))

/-- An identifier and its members. -/
def IsQualified (head s : List Char) : Prop :=
  isIdentifier head = true ∧ ∃ members, Members members ∧ s = head ++ members

variable {c : Char} {head s : List Char}

theorem isWord_of_isJoint (joins : isJoint c = true) : isWord c = false := by
  rw [isJoint, Bool.or_eq_true, beq_iff_eq, beq_iff_eq] at joins
  rcases joins with rfl | rfl
  · decide
  · decide

theorem Members.startsWord (members : Members s) : startsWord s = false := by
  cases members with
  | nil => rfl
  | cons joins isName rest => exact isWord_of_isJoint joins

theorem Members.isWord_or_isJoint (members : Members s) (member : c ∈ s) :
    isWord c = true ∨ isJoint c = true := by
  induction members with
  | nil => cases member
  | cons joins isName rest ih =>
    rcases List.mem_cons.mp member with rfl | member
    · exact .inr joins
    · rcases List.mem_append.mp member with inName | later
      · exact .inl ((Rule.isRun_of_isIdentifier isName).2 c inName)
      · exact ih later

/-- A qualified name is made of word characters and joints. -/
theorem IsQualified.isWord_or_isJoint (qualified : IsQualified head s) (member : c ∈ s) :
    isWord c = true ∨ isJoint c = true := by
  obtain ⟨isName, members, isMembers, rfl⟩ := qualified
  rcases List.mem_append.mp member with inHead | later
  · exact .inl ((Rule.isRun_of_isIdentifier isName).2 c inHead)
  · exact isMembers.isWord_or_isJoint later

theorem IsQualified.ne_nil (qualified : IsQualified head s) : s ≠ [] := by
  obtain ⟨isName, members, -, rfl⟩ := qualified
  exact List.append_ne_nil_of_left_ne_nil (Rule.isRun_of_isIdentifier isName).1 members

end Text

namespace Rule

open Text

variable {head s : List Char}

theorem isSeparator_of_isJoint {c : Char} (joins : isJoint c = true) : isSeparator c = false := by
  rw [isJoint, Bool.or_eq_true, beq_iff_eq, beq_iff_eq] at joins
  rcases joins with rfl | rfl
  · decide
  · decide

theorem bareNames_members (members : Members s) : bareNames false (tokens s) = [] := by
  induction members with
  | nil => rfl
  | @cons joint name s joins isName rest ih =>
    have between : ¬isWord joint = true := by
      rw [isWord_of_isJoint joins]
      exact Bool.false_ne_true
    rw [tokens_cons, pushToken, if_neg between,
      tokens_run_append (isRun_of_isIdentifier isName) rest.startsWord, bareNames,
      isSeparator_of_isJoint joins, bareNames, if_neg Bool.false_ne_true, ih]

/-- The head is the only bare name of a qualified name. -/
theorem bareNames_of_isQualified (qualified : IsQualified head s) :
    bareNames true (tokens s) = [head] := by
  obtain ⟨isName, members, isMembers, rfl⟩ := qualified
  rw [tokens_run_append (isRun_of_isIdentifier isName) isMembers.startsWord, bareNames,
    if_pos rfl, bareNames_members isMembers]

end Rule

namespace Redirector

open Text

/-- Every rule puts in a qualified name whose head is the name of no rule. -/
def LeadsAway (redirector : Redirector) : Prop :=
  ∀ rule ∈ redirector.rules, ∃ head, IsQualified head rule.replacement.toList ∧
    ∀ other ∈ redirector.rules, head ≠ other.pattern.toList

namespace LeadsAway

variable {redirector : Redirector} (leadsAway : redirector.LeadsAway)
include leadsAway

theorem leads (rule : Rule) (member : rule ∈ redirector.rules) :
    ∃ head, Rule.bareNames true (tokens rule.replacement.toList) = [head] ∧
      ∀ other ∈ redirector.rules, head ≠ other.pattern.toList := by
  obtain ⟨head, qualified, apart⟩ := leadsAway rule member
  exact ⟨head, Rule.bareNames_of_isQualified qualified, apart⟩

theorem not_mem_replacement {c : Char} (apart : isWord c = false ∧ isJoint c = false)
    (rule : Rule) (member : rule ∈ redirector.rules) : c ∉ rule.replacement.toList := by
  obtain ⟨head, qualified, -⟩ := leadsAway rule member
  intro inside
  rcases qualified.isWord_or_isJoint inside with isWordChar | joins
  · exact Bool.noConfusion (apart.1.symm.trans isWordChar)
  · exact Bool.noConfusion (apart.2.symm.trans joins)

/-- Qualified names keep the lines of a text apart. -/
theorem keepsLines : redirector.KeepsLines where
  plain := leadsAway.not_mem_replacement (by decide)
  fills rule member := by
    obtain ⟨head, qualified, -⟩ := leadsAway rule member
    exact qualified.ne_nil
  bare rule member last :=
    leadsAway.not_mem_replacement (by decide) rule member (List.mem_of_getLast? last)

end LeadsAway

end Redirector

end Redirect
