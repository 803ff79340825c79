/-
# Scanning for a pattern

A rule is said to search a line for a pattern: the start of the text or one character that is no
word character, no dot and no colon, then the name, then a word boundary. A search of this kind
goes through the text from left to right. It takes the first match that it meets, with the
character before the name as part of it, and goes on behind that match, so that no two matches
overlap; the start and the boundaries are those of the whole text. This module says what such a
scan does in terms of the pattern alone, and that a rule is this scan: although neighbouring
names share the separator between them, the scan passes over no bare use and invents none.
-/

import Redirect.Proofs.BadRequests
import Redirect.Proofs.BareUses

namespace Redirect

namespace Text

/-- A spot in a text: the characters before it, the nearest one first, and those after it. -/
structure Spot where
  before : List Char
  after : List Char

namespace Spot

/-- A word begins or ends here. -/
def isBoundary (spot : Spot) : Bool :=
  spot.before.head?.any isWord != spot.after.head?.any isWord

/-- The text from a spot to a later one. -/
def upTo (first last : Spot) : List Char :=
  first.after.take (first.after.length - last.after.length)

end Spot

/-- A pattern to search for. -/
inductive Pattern where
  /-- The start of the text. -/
  | start
  /-- A place where a word begins or ends. -/
  | boundary
  /-- One character of a class. -/
  | char (accepts : Char → Bool)
  /-- A text, as it is spelled. -/
  | exactly (s : List Char)
  /-- One pattern and then another one. -/
  | andThen (first second : Pattern)
  /-- One of two patterns; the first one is preferred. -/
  | either (first second : Pattern)

/-- Where a match that begins at a spot can end, the preferred end first. -/
def Pattern.ends : Pattern → Spot → List Spot
  | .start, spot => if spot.before = [] then [spot] else []
  | .boundary, spot => if spot.isBoundary then [spot] else []
  | .char _, ⟨_, []⟩ => []
  | .char accepts, ⟨before, c :: after⟩ => if accepts c then [⟨c :: before, after⟩] else []
  | .exactly s, ⟨before, after⟩ =>
    if s.isPrefixOf after then [⟨s.reverse ++ before, after.drop s.length⟩] else []
  | .andThen first second, spot => (first.ends spot).flatMap second.ends
  | .either first second, spot => first.ends spot ++ second.ends spot

/-- A search for one pattern and another one behind it; what the first one matches is kept. -/
structure Search where
  kept : Pattern
  replaced : Pattern

namespace Search

/-- The preferred match that begins at a spot, by the ends of its two parts. -/
def matchAt (search : Search) (spot : Spot) : Option (Spot × Spot) :=
  ((search.kept.ends spot).flatMap fun middle =>
    (search.replaced.ends middle).map fun last => (middle, last)).head?

/-- A match begins somewhere in a text. -/
def Finds (search : Search) (s : List Char) : Prop :=
  ∃ front back, s = front ++ back ∧ search.matchAt ⟨front.reverse, back⟩ ≠ none

/-- What is made of the text behind a spot: a match is taken where the first one begins, a new
text is put in place of its second part, and the scan goes on behind it. -/
inductive Scans (search : Search) (new : List Char) : Spot → List Char → Prop
  | done {before : List Char} (missing : search.matchAt ⟨before, []⟩ = none) :
      Scans search new ⟨before, []⟩ []
  | pass {before after result : List Char} {c : Char}
      (missing : search.matchAt ⟨before, c :: after⟩ = none)
      (rest : Scans search new ⟨c :: before, after⟩ result) :
      Scans search new ⟨before, c :: after⟩ (c :: result)
  | found {spot middle last : Spot} {result : List Char}
      (found : search.matchAt spot = some (middle, last)) (rest : Scans search new last result) :
      Scans search new spot (spot.upTo middle ++ new ++ result)

/-- A scan has one result. -/
theorem Scans.unique {search : Search} {new : List Char} {spot : Spot} {first second : List Char}
    (scans : search.Scans new spot first) (again : search.Scans new spot second) :
    first = second := by
  induction scans generalizing second with
  | done missing =>
    cases again with
    | done => rfl
    | found found => rw [missing] at found; cases found
  | pass missing rest ih =>
    cases again with
    | pass _ other => rw [ih other]
    | found found => rw [missing] at found; cases found
  | found found rest ih =>
    cases again with
    | done missing => rw [missing] at found; cases found
    | pass missing => rw [missing] at found; cases found
    | found foundToo other =>
      rw [found] at foundToo
      cases foundToo
      rw [ih other]

end Search

end Text

namespace Rule

open Text

/-- The search for a name: behind the start or a separator, up to the end of a word. -/
def searchFor (name : List Char) : Search where
  kept := .either .start (.char isSeparator)
  replaced := .andThen (.exactly name) .boundary

section Scan

variable {name new : List Char}

/-- A name matches just where it stands as a whole word. -/
theorem ends_name (run : IsRun name) (before s : List Char) :
    (searchFor name).replaced.ends ⟨before, s⟩ =
      if standsAt name s then [⟨name.reverse ++ before, s.drop name.length⟩] else [] := by
  have last : (name.reverse ++ before).head?.any isWord = true := by
    rw [List.head?_append, List.head?_reverse, List.getLast?_eq_some_getLast run.1]
    exact run.2 _ (List.getLast_mem run.1)
  have whole : standsAt name s =
      (name.isPrefixOf s && !(s.drop name.length).head?.any isWord) := rfl
  rw [searchFor, Pattern.ends, Pattern.ends, whole]
  cases name.isPrefixOf s with
  | false => rfl
  | true =>
    rw [if_pos rfl, List.flatMap_singleton, Pattern.ends, Spot.isBoundary, last, Bool.true_bne,
      Bool.true_and]

/-- What a match can keep: nothing at the start, or a separator. -/
theorem matchAt_eq_head? (run : IsRun name) (before s : List Char) :
    (searchFor name).matchAt ⟨before, s⟩ =
      ((if before = [] ∧ standsAt name s = true then
          [(⟨before, s⟩, ⟨name.reverse ++ before, s.drop name.length⟩)]
        else []) ++
        match s with
        | [] => []
        | c :: after =>
          if isSeparator c = true ∧ standsAt name after = true then
            [(⟨c :: before, after⟩, ⟨name.reverse ++ c :: before, after.drop name.length⟩)]
          else []).head? := by
  have kept : (searchFor name).kept.ends ⟨before, s⟩ =
      (if before = [] then [⟨before, s⟩] else []) ++
        match s with
        | [] => []
        | c :: after => if isSeparator c then [⟨c :: before, after⟩] else [] := by
    cases s <;> rfl
  -- Behind what is kept, only the name itself can match.
  have behind (allowed : Prop) [Decidable allowed] (past rest : List Char) :
      (if allowed then [Spot.mk past rest] else []).flatMap (fun middle =>
          ((searchFor name).replaced.ends middle).map fun last => (middle, last)) =
        if allowed ∧ standsAt name rest = true then
          [(⟨past, rest⟩, ⟨name.reverse ++ past, rest.drop name.length⟩)]
        else [] := by
    by_cases here : allowed
    · rw [if_pos here, List.flatMap_singleton, ends_name run]
      simp only [here, true_and]
      split <;> rfl
    · rw [if_neg here, List.flatMap_nil, if_neg fun both => here both.1]
  rw [Search.matchAt, kept, List.flatMap_append, behind]
  cases s with
  | nil => rfl
  | cons c after => rw [behind]

theorem matchAt_nil (run : IsRun name) (before : List Char) :
    (searchFor name).matchAt ⟨before, []⟩ = none := by
  rw [matchAt_eq_head? run, standsAt_of_not_startsWord run rfl,
    if_neg fun found => by cases found.2]
  rfl

theorem matchAt_start {s : List Char} (run : IsRun name) (stands : standsAt name s = true) :
    (searchFor name).matchAt ⟨[], s⟩ =
      some (⟨[], s⟩, ⟨name.reverse ++ [], s.drop name.length⟩) := by
  rw [matchAt_eq_head? run, if_pos ⟨rfl, stands⟩]
  rfl

theorem matchAt_separator {c : Char} {s : List Char} (run : IsRun name)
    (separates : isSeparator c = true) (stands : standsAt name s = true) (before : List Char) :
    (searchFor name).matchAt ⟨before, c :: s⟩ =
      some (⟨c :: before, s⟩, ⟨name.reverse ++ c :: before, s.drop name.length⟩) := by
  have notHere : standsAt name (c :: s) = false := by
    apply standsAt_of_not_startsWord run
    cases isWordChar : isWord c with
    | false => exact isWordChar
    | true =>
      rw [isSeparator_of_isWord isWordChar] at separates
      cases separates
  rw [matchAt_eq_head? run, notHere, if_neg fun found => by cases found.2]
  simp only
  rw [if_pos ⟨separates, stands⟩]
  rfl

theorem matchAt_eq_none {c : Char} {before s : List Char} (run : IsRun name)
    (notHere : ¬(before = [] ∧ standsAt name (c :: s) = true))
    (notNext : ¬(isSeparator c = true ∧ standsAt name s = true)) :
    (searchFor name).matchAt ⟨before, c :: s⟩ = none := by
  rw [matchAt_eq_head? run, if_neg notHere]
  simp only
  rw [if_neg notNext]
  rfl

/-! ## The scan of a rule -/

theorem replaceFrom_of_standsAt {s : List Char} (stands : standsAt name s = true) :
    replaceFrom name new true s = new ++ replaceFrom name new false (s.drop name.length) := by
  rw [standsAt, Bool.and_eq_true, List.isPrefixOf_iff_prefix] at stands
  obtain ⟨rest, rfl⟩ := stands.1
  have whole : standsAt name (name ++ rest) = true := by
    rw [standsAt, Bool.and_eq_true, List.isPrefixOf_iff_prefix]
    exact stands
  rw [replaceFrom, whole, Bool.and_self, if_pos rfl, replaceAfterSeparators_covered,
    List.drop_left]
  rfl

theorem replaceFrom_of_not {free : Bool} {s : List Char}
    (missing : ¬(free = true ∧ standsAt name s = true)) :
    replaceFrom name new free s = replaceFrom name new false s := by
  rw [replaceFrom, if_neg (by rwa [Bool.and_eq_true])]
  rfl

/-- A scan that goes on from a spot replaces the name at the start of the text and behind each
separator. -/
theorem scans_replaceFrom (run : IsRun name) (new before s : List Char) :
    (searchFor name).Scans new ⟨before, s⟩ (replaceFrom name new before.isEmpty s) := by
  -- What is left behind a match or behind one character is shorter.
  induction size : s.length using Nat.strong_induction_on generalizing before s with
  | _ bound ih =>
    have later : ∀ (c : Char) (past rest : List Char), rest.length < bound →
        (searchFor name).Scans new ⟨c :: past, rest⟩ (replaceFrom name new false rest) :=
      fun c past rest shorter => ih _ shorter (c :: past) rest rfl
    obtain ⟨c, reversed, ending⟩ :=
      List.exists_cons_of_ne_nil (List.reverse_ne_nil_iff.mpr run.1)
    have filled := List.length_pos_of_ne_nil run.1
    cases s with
    | nil =>
      rw [replaceFrom, standsAt_of_not_startsWord run rfl, Bool.and_false]
      exact .done (matchAt_nil run before)
    | cons d s =>
      rw [List.length_cons] at size
      by_cases here : before = [] ∧ standsAt name (d :: s) = true
      · obtain ⟨rfl, stands⟩ := here
        have matched := matchAt_start run stands
        rw [ending] at matched
        have result := Search.Scans.found matched
          (later c _ _ (by rw [List.length_drop, List.length_cons]; omega))
        rw [List.isEmpty_nil, replaceFrom_of_standsAt stands]
        simpa [Spot.upTo] using result
      · have there : replaceFrom name new before.isEmpty (d :: s) =
            d :: replaceFrom name new (isSeparator d) s := by
          rw [replaceFrom_of_not (by rwa [List.isEmpty_iff])]
          exact replaceAfterSeparators_cons d s
        rw [there]
        by_cases next : isSeparator d = true ∧ standsAt name s = true
        · obtain ⟨separates, stands⟩ := next
          have matched := matchAt_separator run separates stands before
          rw [ending] at matched
          have result := Search.Scans.found matched
            (later c _ _ (by rw [List.length_drop]; omega))
          rw [separates, replaceFrom_of_standsAt stands]
          simpa [Spot.upTo] using result
        · rw [replaceFrom_of_not next]
          exact .pass (matchAt_eq_none run here next) (later d before s (by omega))

theorem followsSeparator_iff {s : List Char} :
    followsSeparator name s = true ↔
      ∃ front c back, s = front ++ c :: back ∧ isSeparator c = true ∧
        standsAt name back = true := by
  induction s with
  | nil => simp [followsSeparator]
  | cons d s ih =>
    rw [followsSeparator, Bool.or_eq_true, Bool.and_eq_true, ih]
    constructor
    · rintro (⟨separates, stands⟩ | ⟨front, c, back, rfl, separates, stands⟩)
      · exact ⟨[], d, s, rfl, separates, stands⟩
      · exact ⟨d :: front, c, back, rfl, separates, stands⟩
    · rintro ⟨front, c, back, split, separates, stands⟩
      cases front with
      | nil =>
        obtain ⟨rfl, rfl⟩ := List.cons.inj split
        exact .inl ⟨separates, stands⟩
      | cons e front =>
        obtain ⟨rfl, rfl⟩ := List.cons.inj split
        exact .inr ⟨front, c, back, rfl, separates, stands⟩

/-- A match can be found just where the name stands at the start or behind a separator. -/
theorem finds_iff (run : IsRun name) (s : List Char) :
    (searchFor name).Finds s ↔ standsAt name s = true ∨ followsSeparator name s = true := by
  rw [followsSeparator_iff]
  constructor
  · rintro ⟨front, back, rfl, matched⟩
    cases back with
    | nil => exact absurd (matchAt_nil run _) matched
    | cons c back =>
      by_contra missing
      rw [not_or] at missing
      apply matched
      refine matchAt_eq_none run ?_ ?_
      · rintro ⟨first, stands⟩
        rw [List.reverse_eq_nil_iff] at first
        subst first
        exact missing.1 stands
      · rintro ⟨separates, stands⟩
        exact missing.2 ⟨front, c, back, rfl, separates, stands⟩
  · rintro (stands | ⟨front, c, back, rfl, separates, stands⟩)
    · refine ⟨[], s, rfl, ?_⟩
      rw [List.reverse_nil, matchAt_start run stands]
      exact Option.some_ne_none _
    · refine ⟨front, c :: back, rfl, ?_⟩
      rw [matchAt_separator run separates stands]
      exact Option.some_ne_none _

end Scan

/-- A rule finds something in a line just when the search for its pattern does. -/
theorem isMatch_iff_finds (rule : Rule) (line : String) :
    rule.isMatch line = true ↔ (searchFor rule.pattern.toList).Finds line.toList := by
  rw [finds_iff rule.isRun_pattern, isMatch, Bool.or_eq_true]

/-- What a rule makes of a line is what the scan for its pattern makes of it. -/
theorem scans_iff_eq_apply (rule : Rule) (line : String) (result : List Char) :
    (searchFor rule.pattern.toList).Scans rule.replacement.toList ⟨[], line.toList⟩ result ↔
      result = (rule.apply line).toList := by
  have scans := scans_replaceFrom rule.isRun_pattern rule.replacement.toList [] line.toList
  rw [replaceFrom, List.isEmpty_nil, Bool.true_and] at scans
  rw [apply, String.toList_ofList]
  constructor
  · intro other
    exact other.unique scans
  · rintro rfl
    exact scans

/-- A rule for an identifier is always made, and on every line it does the same in three ways of
saying it. It finds something just when the search for its pattern does, and that is when the
name is used bare on the line. It makes of the line what the scan for its pattern makes of it, and
that is the line in which every bare use of the name gives way to the new text at once. -/
theorem make_replaces_bare_uses {pattern : String} (isName : IsName pattern)
    (replacement : String) :
    ∃ rule, make pattern replacement = .ok rule ∧ ∀ line : String,
      (rule.isMatch line = true ↔ IsUsedBare pattern.toList line.toList) ∧
      (∀ result, ReplacesBareUses pattern.toList replacement.toList line.toList result ↔
        result = (rule.apply line).toList) ∧
      (rule.isMatch line = true ↔ (searchFor pattern.toList).Finds line.toList) ∧
      ∀ result, (searchFor pattern.toList).Scans replacement.toList ⟨[], line.toList⟩ result ↔
        result = (rule.apply line).toList := by
  obtain ⟨rule, made, rfl, rfl⟩ : ∃ rule, make pattern replacement = .ok rule ∧
      rule.pattern = pattern ∧ rule.replacement = replacement :=
    ⟨_, make_of_isName isName replacement, rfl, rfl⟩
  refine ⟨rule, made, fun line => ⟨rule.isMatch_iff_isUsedBare line, ?_, ?_⟩⟩
  · exact rule.replacesBareUses_iff line
  · exact ⟨rule.isMatch_iff_finds line, rule.scans_iff_eq_apply line⟩

/-- Two names share a comma; a name behind a dot and one within a longer word stay. -/
theorem make_replaces_bare_uses_of_neighbours :
    ReplacesBareUses "dict".toList "utils.dict".toList "dict,dict(x.dict, édict)".toList
        "utils.dict,utils.dict(x.dict, édict)".toList ∧
      (searchFor "dict".toList).Scans "utils.dict".toList ⟨[], "dict,dict(x.dict, édict)".toList⟩
        "utils.dict,utils.dict(x.dict, édict)".toList := by
  have isName : IsName "dict" := (isIdentifier_iff "dict").mp (by decide)
  obtain ⟨rule, made, spec⟩ := make_replaces_bare_uses isName "utils.dict"
  obtain ⟨-, replaces, -, scans⟩ := spec "dict,dict(x.dict, édict)"
  have result : (⟨"dict", "utils.dict", Eq.refl true⟩ : Rule).apply "dict,dict(x.dict, édict)" =
      "utils.dict,utils.dict(x.dict, édict)" := rfl
  cases (make_of_isName isName "utils.dict").symm.trans made
  rw [result] at replaces scans
  exact ⟨(replaces _).mpr rfl, (scans _).mpr rfl⟩

end Rule

end Redirect
