/-
# Order of sequences

Sequences are ordered like words in a dictionary: at the first place where two of them
differ the smaller element comes first, and a sequence comes before those that it begins.
Names of directory entries are ordered by their octets and the keys of an object by their
characters, so both take their order from here.
-/

namespace Redirect.Text

/-- The first sequence comes strictly before the second one, elements being ordered by
their rank. -/
def precedes {α : Type} (rank : α → Nat) : List α → List α → Bool
  | _, [] => false
  | [], _ :: _ => true
  | a :: s, b :: t => rank a < rank b || rank a == rank b && precedes rank s t

/-- No sequence comes before itself. -/
theorem precedes_self {α : Type} (rank : α → Nat) (s : List α) :
    precedes rank s s = false := by
  induction s with
  | nil => rfl
  | cons a s hyp => simp [precedes, hyp]

end Redirect.Text
