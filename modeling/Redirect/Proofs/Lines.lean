/-
# Lines that a text falls into

The lines of a text have no line feed in them, only the last one can lack an ending, and then
it is not empty, and a carriage return never stands before a bare line feed. Lines like these
are the lines of the text that they spell, so changing what stands on them, within these
bounds, changes nothing else.
-/

import Mathlib
import Redirect.Proofs.Stretches

namespace Redirect.Text

/-- Lines that are the lines of a text. -/
inductive ProperLines : List Line → Prop
  | nil : ProperLines []
  | missing {body : List Char} (nonempty : body ≠ []) (plain : '\n' ∉ body) :
      ProperLines [⟨body, .missing⟩]
  | feed {body : List Char} {rest : List Line} (plain : '\n' ∉ body)
      (bare : body.getLast? ≠ some '\r') (proper : ProperLines rest) :
      ProperLines (⟨body, .feed⟩ :: rest)
  | returnFeed {body : List Char} {rest : List Line} (plain : '\n' ∉ body)
      (proper : ProperLines rest) : ProperLines (⟨body, .returnFeed⟩ :: rest)

namespace Line

theorem ofText_cons (c : Char) (s : List Char) : ofText (c :: s) = push c (ofText s) :=
  rfl

theorem push_of_ne {c : Char} {first : Line} (notFeed : c ≠ '\n')
    (notJoined : ¬(c = '\r' ∧ first = ⟨[], .feed⟩)) (rest : List Line) :
    push c (first :: rest) = ⟨c :: first.body, first.ending⟩ :: rest := by
  rw [push, if_neg notFeed, if_neg notJoined]

theorem push_feed (lines : List Line) : push '\n' lines = ⟨[], .feed⟩ :: lines := by
  cases lines <;> rfl

/-- The end of a line stays where it is when characters come before it. -/
theorem ofText_append {body s : List Char} {ending : Ending} {rest : List Line}
    (plain : '\n' ∉ body) (bare : ending = .feed → body.getLast? ≠ some '\r')
    (starts : ofText s = ⟨[], ending⟩ :: rest) :
    ofText (body ++ s) = ⟨body, ending⟩ :: rest := by
  induction body with
  | nil => exact starts
  | cons c body ih =>
    obtain ⟨notFeed, plainRest⟩ := List.ne_and_not_mem_of_not_mem_cons plain
    have bareRest : ending = .feed → body.getLast? ≠ some '\r' := by
      intro isFeed returns
      apply bare isFeed
      rw [List.getLast?_cons, returns]
      rfl
    rw [List.cons_append, ofText_cons, ih plainRest bareRest, push_of_ne (Ne.symm notFeed)]
    rintro ⟨rfl, same⟩
    cases same
    exact bare rfl rfl

theorem ofText_unended {body : List Char} (nonempty : body ≠ []) (plain : '\n' ∉ body) :
    ofText body = [⟨body, .missing⟩] := by
  induction body with
  | nil => exact absurd rfl nonempty
  | cons c body ih =>
    obtain ⟨notFeed, plainRest⟩ := List.ne_and_not_mem_of_not_mem_cons plain
    rw [ofText_cons]
    cases body with
    | nil => exact if_neg (Ne.symm notFeed)
    | cons d body =>
      rw [ih (List.cons_ne_nil d body) plainRest, push_of_ne (Ne.symm notFeed)]
      rintro ⟨-, same⟩
      cases same

/-- Lines that are the lines of a text are those of the text they spell. -/
theorem ofText_toText {lines : List Line} (proper : ProperLines lines) :
    ofText (toText lines) = lines := by
  induction proper with
  | nil => rfl
  | @missing body nonempty plain =>
    rw [toText_cons, toText_nil, List.append_nil, chars, Ending.chars, List.append_nil]
    exact ofText_unended nonempty plain
  | @feed body rest plain bare proper ih =>
    rw [toText_cons, chars, Ending.chars, List.append_assoc]
    apply ofText_append plain (fun _ => bare)
    rw [List.singleton_append, ofText_cons, ih, push_feed]
  | @returnFeed body rest plain proper ih =>
    rw [toText_cons, chars, Ending.chars, List.append_assoc]
    apply ofText_append plain (fun isFeed => by cases isFeed)
    rw [List.cons_append, List.singleton_append, ofText_cons, ofText_cons, ih, push_feed]
    rfl

theorem properLines_push {lines : List Line} (proper : ProperLines lines) (c : Char) :
    ProperLines (push c lines) := by
  by_cases isFeed : c = '\n'
  · subst isFeed
    rw [push_feed]
    exact .feed List.not_mem_nil (by simp) proper
  · have plainCons : ∀ {body : List Char}, '\n' ∉ body → '\n' ∉ c :: body := fun plain =>
      List.not_mem_cons_of_ne_of_not_mem (Ne.symm isFeed) plain
    cases proper with
    | nil =>
      rw [push, if_neg isFeed]
      exact .missing (List.cons_ne_nil c []) (plainCons List.not_mem_nil)
    | missing nonempty plain =>
      rw [push_of_ne isFeed (fun joined => by cases joined.2)]
      exact .missing (List.cons_ne_nil c _) (plainCons plain)
    | @feed body rest plain bare proper =>
      by_cases joined : c = '\r' ∧ body = []
      · obtain ⟨rfl, rfl⟩ := joined
        exact .returnFeed List.not_mem_nil proper
      · rw [push_of_ne isFeed (fun same => joined ⟨same.1, congrArg Line.body same.2⟩)]
        refine .feed (plainCons plain) ?_ proper
        intro returns
        rw [List.getLast?_cons, Option.some_inj] at returns
        cases body with
        | nil => exact joined ⟨returns, rfl⟩
        | cons d body =>
          rw [List.getLast?_cons] at bare returns
          exact bare (congrArg some returns)
    | returnFeed plain proper =>
      rw [push_of_ne isFeed (fun joined => by cases joined.2)]
      exact .returnFeed (plainCons plain) proper

/-- The lines of a text are lines that a text falls into. -/
theorem properLines_ofText (s : List Char) : ProperLines (ofText s) := by
  induction s with
  | nil => exact .nil
  | cons c s ih => exact properLines_push ih c

/-- A line with another body. -/
def mapBody (change : List Char → List Char) (line : Line) : Line :=
  { line with body := change line.body }

/-- A change of the bodies that brings in no line feed and no carriage return at the end, and
empties none of them, keeps the lines apart. -/
theorem properLines_map {lines : List Line} (proper : ProperLines lines)
    {change : List Char → List Char}
    (fills : ∀ body, body ≠ [] → change body ≠ [])
    (plains : ∀ body, '\n' ∉ body → '\n' ∉ change body)
    (bares : ∀ body, body.getLast? ≠ some '\r' → (change body).getLast? ≠ some '\r') :
    ProperLines (lines.map (mapBody change)) := by
  induction proper with
  | nil => exact .nil
  | missing nonempty plain => exact .missing (fills _ nonempty) (plains _ plain)
  | feed plain bare proper ih => exact .feed (plains _ plain) (bares _ bare) ih
  | returnFeed plain proper ih => exact .returnFeed (plains _ plain) ih

/-! ## Bodies that spell the same text -/

theorem forall_plain {lines : List Line} (proper : ProperLines lines) :
    ∀ line ∈ lines, '\n' ∉ line.body := by
  induction proper with
  | nil => exact List.forall_mem_nil _
  | missing nonempty plain => exact List.forall_mem_singleton.mpr plain
  | feed plain bare proper ih => exact List.forall_mem_cons.mpr ⟨plain, ih⟩
  | returnFeed plain proper ih => exact List.forall_mem_cons.mpr ⟨plain, ih⟩

/-- A change of the bodies adds the line feeds that it brings in. -/
theorem count_feed_map {lines : List Line} (plain : ∀ line ∈ lines, '\n' ∉ line.body)
    (change : List Char → List Char) :
    (toText (lines.map (mapBody change))).count '\n' =
      (toText lines).count '\n' + (lines.map fun line => (change line.body).count '\n').sum := by
  induction lines with
  | nil => rfl
  | cons line lines ih =>
    obtain ⟨here, later⟩ := List.forall_mem_cons.mp plain
    have none : line.body.count '\n' = 0 := List.count_eq_zero.mpr here
    simp only [List.map_cons, toText_cons, chars, mapBody, List.count_append, List.sum_cons,
      ih later, none]
    omega

/-- Lines without line feeds that spell the same text with the same endings have the same
bodies. -/
theorem forall_body_eq_of_plain {lines : List Line} (proper : ProperLines lines)
    {change : List Char → List Char} (plain : ∀ line ∈ lines, '\n' ∉ change line.body)
    (same : toText (lines.map (mapBody change)) = toText lines) :
    ∀ line ∈ lines, change line.body = line.body := by
  induction proper with
  | nil => exact List.forall_mem_nil _
  | @missing body nonempty plainBody =>
    rw [List.forall_mem_singleton]
    simpa [chars, mapBody, Ending.chars] using same
  | @feed body rest plainBody bare proper ih =>
    obtain ⟨plainHere, plainLater⟩ := List.forall_mem_cons.mp plain
    rw [List.map_cons, toText_cons, toText_cons, chars, chars, mapBody, Ending.chars,
      List.append_assoc, List.append_assoc] at same
    obtain ⟨here, later⟩ := append_feed_inj plainHere plainBody same
    exact List.forall_mem_cons.mpr ⟨here, ih plainLater later⟩
  | @returnFeed body rest plainBody proper ih =>
    obtain ⟨plainHere, plainLater⟩ := List.forall_mem_cons.mp plain
    -- The carriage return is counted to the body, so that each line ends at its line feed.
    have plainReturn : ∀ {body : List Char}, '\n' ∉ body → '\n' ∉ body ++ ['\r'] := by
      intro body plain
      simpa using plain
    have split : change body ++ ['\r'] ++ '\n' :: toText (rest.map (mapBody change)) =
        body ++ ['\r'] ++ '\n' :: toText rest := by
      simpa [chars, mapBody, Ending.chars] using same
    obtain ⟨here, later⟩ := append_feed_inj (plainReturn plainHere) (plainReturn plainBody) split
    exact List.forall_mem_cons.mpr ⟨List.append_cancel_right here, ih plainLater later⟩

/-- A change of the bodies that leaves the text as it is changes no body. -/
theorem forall_body_eq {lines : List Line} (proper : ProperLines lines)
    {change : List Char → List Char}
    (same : toText (lines.map (mapBody change)) = toText lines) :
    ∀ line ∈ lines, change line.body = line.body := by
  apply forall_body_eq_of_plain proper _ same
  have count := count_feed_map (forall_plain proper) change
  rw [same, Nat.left_eq_add] at count
  intro line member
  apply List.count_eq_zero.mp
  exact List.sum_eq_zero_iff_forall_eq_nat.mp count _ (List.mem_map_of_mem member)

end Line

end Redirect.Text
