/-
# What the text of a report tells

The text of a report tells the files and the lines of each, as far as it shows them: the paths
octet by octet, the numbers, and what stood on the lines but for blank ends. A path stands on a line
of its own, and where it begins neither with a space nor with a digit it cannot be taken for a
redirected line. The number of a redirected line ends at its last digit, whether or not blanks were
put in front of it, so the text behind it can begin with digits of its own.
-/

import Redirect.Proofs.Encoding
import Redirect.Proofs.WellFormedReports

namespace Redirect

namespace Text

theorem mem_of_mem_trim {s : List Char} {c : Char} (member : c ∈ trim s) : c ∈ s := by
  have kept := (List.dropWhile_sublist isBlank).subset (List.mem_reverse.mp member)
  exact (List.dropWhile_sublist isBlank).subset (List.mem_reverse.mp kept)

/-- Lines are told apart where each of them ends with its only line feed. -/
theorem eq_of_flatMap_feed {first second : List (List Char)} (plain : ∀ line ∈ first, '\n' ∉ line)
    (plainToo : ∀ line ∈ second, '\n' ∉ line)
    (same : first.flatMap (· ++ ['\n']) = second.flatMap (· ++ ['\n'])) : first = second := by
  induction first generalizing second with
  | nil =>
    cases second with
    | nil => rfl
    | cons other others => simp at same
  | cons line lines ih =>
    cases second with
    | nil => simp at same
    | cons other others =>
      obtain ⟨here, later⟩ := List.forall_mem_cons.mp plain
      obtain ⟨hereToo, laterToo⟩ := List.forall_mem_cons.mp plainToo
      simp only [List.flatMap_cons, List.append_assoc, List.singleton_append] at same
      obtain ⟨rfl, sameLater⟩ := append_feed_inj here hereToo same
      rw [ih later laterToo sameLater]

end Text

open Text (BeginsApart beginsApart_cons beginsApart_nil beginsApart_toDigits stretch_inj
  toDigits_append_inj isDigit_of_mem_toDigits)

/-! ## Redirected lines -/

namespace Hit

/-- The line of a report for a redirected line, without its line feed. -/
def shown (hit : Hit) : List Char :=
  padLeft numberWidth (Nat.toDigits 10 hit.line) ++ ' ' :: ' ' :: Text.trim hit.before.toList

/-- What the line of a report tells about a redirected line. -/
def told (hit : Hit) : Nat × List Char :=
  (hit.line, Text.trim hit.before.toList)

theorem render_eq (hit : Hit) : hit.render = hit.shown ++ ['\n'] := by
  rw [render, shown, List.append_assoc, List.append_assoc, List.append_assoc]
  rfl

/-- A character with which the line of a report for a redirected line can begin. -/
def begins (c : Char) : Bool :=
  c == ' ' || c.isDigit

theorem begins_of_mem_padLeft {n : Nat} {c : Char}
    (member : c ∈ padLeft numberWidth (Nat.toDigits 10 n)) : begins c = true := by
  rw [begins, Bool.or_eq_true, beq_iff_eq]
  rcases List.mem_append.mp member with blank | digit
  · exact .inl (List.eq_of_mem_replicate blank)
  · exact .inr (isDigit_of_mem_toDigits digit)

theorem feed_not_mem_shown {hit : Hit} (plain : '\n' ∉ hit.before.toList) : '\n' ∉ hit.shown := by
  intro member
  rcases List.mem_append.mp member with number | behind
  · cases begins_of_mem_padLeft number
  · simp only [List.mem_cons, Char.reduceEq, false_or] at behind
    exact plain (Text.mem_of_mem_trim behind)

/-- The line of a report for a redirected line begins as such lines do. -/
theorem any_begins_shown (hit : Hit) : hit.shown.head?.any begins = true := by
  have filled : padLeft numberWidth (Nat.toDigits 10 hit.line) ≠ [] :=
    List.append_ne_nil_of_right_ne_nil _ Nat.toDigits_ne_nil
  rw [shown, List.head?_append_of_ne_nil _ filled, List.head?_eq_some_head filled]
  exact begins_of_mem_padLeft (List.head_mem filled)

theorem beginsApart_number (n : Nat) (s : List Char) :
    BeginsApart (· == ' ') (Nat.toDigits 10 n ++ s) := by
  refine beginsApart_toDigits (fun c isDigit => beq_eq_false_iff_ne.mpr ?_) n s
  rintro rfl
  cases isDigit

/-- The line of a report tells what it shows. -/
theorem told_eq_of_shown_eq {first second : Hit} (same : first.shown = second.shown) :
    first.told = second.told := by
  have blanks (count : Nat) : ∀ c ∈ List.replicate count ' ', (c == ' ') = true := fun c member =>
    beq_iff_eq.mpr (List.eq_of_mem_replicate member)
  rw [shown, shown, padLeft, padLeft, List.append_assoc, List.append_assoc] at same
  obtain ⟨-, sameNumbered⟩ := stretch_inj (blanks _) (blanks _) (beginsApart_number _ _)
    (beginsApart_number _ _) same
  obtain ⟨sameNumber, sameBehind⟩ := toDigits_append_inj (beginsApart_cons rfl _)
    (beginsApart_cons rfl _) sameNumbered
  obtain ⟨-, sameText⟩ := List.cons.inj (List.cons.inj sameBehind).2
  rw [told, told, sameNumber, sameText]

end Hit

/-! ## Files -/

/-- The text of a path stands on one line and begins as no redirected line does. -/
def Path.Legible (path : Path) : Prop :=
  ∃ text, Utf8.encode text = path.bytes ∧ '\n' ∉ text.toList ∧
    ∀ c ∈ text.toList.head?, c ≠ ' ' ∧ c.isDigit = false

namespace FileHits

/-- The lines of a report for a file, without their line feeds. -/
def shown (file : FileHits) : List (List Char) :=
  file.path.display.toList :: file.hits.map Hit.shown

/-- What a report tells about a file. -/
def told (file : FileHits) : Path × List (Nat × List Char) :=
  (file.path, file.hits.map Hit.told)

/-- The path of a file cannot be taken for a redirected line, and no redirected line takes more than
a line. -/
structure Legible (file : FileHits) : Prop where
  path : file.path.Legible
  unbroken : ∀ hit ∈ file.hits, '\n' ∉ hit.before.toList

theorem render_eq (file : FileHits) : file.render = file.shown.flatMap (· ++ ['\n']) := by
  rw [render, shown, List.flatMap_cons, List.flatMap_map, List.append_assoc,
    List.singleton_append, List.flatMap_congr fun hit _ => hit.render_eq]

variable {first second : FileHits} {files others : List FileHits}

theorem Legible.feed_not_mem (legible : first.Legible) : ∀ line ∈ first.shown, '\n' ∉ line := by
  obtain ⟨text, encoded, plain, -⟩ := legible.path
  refine List.forall_mem_cons.mpr ⟨?_, List.forall_mem_map.mpr fun hit member => ?_⟩
  · rw [Path.display, ← encoded, Utf8.decodeLossy_encode]
    exact plain
  · exact Hit.feed_not_mem_shown (legible.unbroken hit member)

/-- The lines for the next files begin with one that is not for a redirected line. -/
theorem beginsApart_shown (legible : ∀ file ∈ files, file.Legible) :
    BeginsApart (·.head?.any Hit.begins) (files.flatMap shown) := by
  cases files with
  | nil => exact beginsApart_nil _
  | cons file files =>
    obtain ⟨text, encoded, -, apart⟩ := (legible file List.mem_cons_self).path
    refine beginsApart_cons ?_ _
    rw [Path.display, ← encoded, Utf8.decodeLossy_encode]
    cases start : text.toList.head? with
    | none => rfl
    | some c =>
      obtain ⟨notSpace, notDigit⟩ := apart c start
      rw [Option.any_some, Hit.begins, notDigit, beq_false_of_ne notSpace]
      rfl

theorem path_eq_of_display_eq (legible : first.Legible) (legibleToo : second.Legible)
    (same : first.path.display.toList = second.path.display.toList) :
    first.path = second.path := by
  obtain ⟨⟨bytes⟩, hits⟩ := first
  obtain ⟨⟨otherBytes⟩, otherHits⟩ := second
  obtain ⟨text, rfl, -⟩ := legible.path
  obtain ⟨other, rfl, -⟩ := legibleToo.path
  rw [Path.display, Path.display, Utf8.decodeLossy_encode, Utf8.decodeLossy_encode,
    String.toList_inj] at same
  rw [same]

/-- The lines of a report tell what they show of its files. -/
theorem told_eq_of_shown_eq (legible : ∀ file ∈ files, file.Legible)
    (legibleToo : ∀ file ∈ others, file.Legible)
    (same : files.flatMap shown = others.flatMap shown) : files.map told = others.map told := by
  have areHits (hits : List Hit) :
      ∀ line ∈ hits.map Hit.shown, (line.head?.any Hit.begins) = true :=
    List.forall_mem_map.mpr fun hit _ => hit.any_begins_shown
  -- What is told of a line is a function of the line.
  obtain ⟨reading, readsTold⟩ := (Function.factorsThrough_iff Hit.told).mp
    fun _ _ => Hit.told_eq_of_shown_eq
  induction files generalizing others with
  | nil =>
    cases others with
    | nil => rfl
    | cons other others => cases same
  | cons file files ih =>
    cases others with
    | nil => cases same
    | cons other others =>
      obtain ⟨here, later⟩ := List.forall_mem_cons.mp legible
      obtain ⟨hereToo, laterToo⟩ := List.forall_mem_cons.mp legibleToo
      obtain ⟨samePath, sameRest⟩ := List.cons.inj same
      obtain ⟨sameHits, sameLater⟩ := stretch_inj (areHits _) (areHits _)
        (beginsApart_shown later) (beginsApart_shown laterToo) sameRest
      have sameTold := congrArg (List.map reading) sameHits
      rw [List.map_map, List.map_map, ← readsTold] at sameTold
      rw [List.map_cons, List.map_cons, ih later laterToo sameLater, told, told, sameTold,
        path_eq_of_display_eq here hereToo samePath]

end FileHits

namespace Report

/-- What the text of a report tells. -/
def told (report : Report) : List (Path × List (Nat × List Char)) :=
  report.files.map FileHits.told

/-- The files of a report can be told from its text. -/
def Legible (report : Report) : Prop :=
  ∀ file ∈ report.files, file.Legible

theorem text_eq (report : Report) :
    report.text.toList = (report.files.flatMap FileHits.shown).flatMap (· ++ ['\n']) := by
  rw [text, String.toList_ofList, List.flatMap_assoc,
    List.flatMap_congr fun file _ => file.render_eq]

theorem Legible.feed_not_mem {report : Report} (legible : report.Legible) :
    ∀ line ∈ report.files.flatMap FileHits.shown, '\n' ∉ line := by
  intro line member
  obtain ⟨file, isFile, isLine⟩ := List.mem_flatMap.mp member
  exact (legible file isFile).feed_not_mem line isLine

/-- What a redirector tells of a text under a legible path is legible, and two legible reports with
the same text tell the same: the same paths in the same order, octet by octet, and with each of them
the same numbers, however large, and the same lines but for blank ends. -/
theorem told_eq_of_text_eq :
    (∀ (redirector : Redirector) (path : Path) (text newText : String) (hits : List Hit),
      path.Legible → redirector.redirectText path text = some (newText, hits) →
        (FileHits.mk path hits).Legible) ∧
    ∀ first second : Report, first.Legible → second.Legible → first.text = second.text →
      first.told = second.told := by
  refine ⟨fun redirector path text newText hits legible affected => ?_,
    fun first second legible legibleToo same => ?_⟩
  · exact ⟨legible, (Redirector.wellFormed_of_redirectText affected).unbroken⟩
  · have sameLines := congrArg String.toList same
    rw [text_eq, text_eq] at sameLines
    exact FileHits.told_eq_of_shown_eq legible legibleToo
      (Text.eq_of_flatMap_feed legible.feed_not_mem legibleToo.feed_not_mem sameLines)

/-- Two redirected lines of a script, the number of the second wider than its column. -/
def wideReport (first second : String) : Report where
  files := [⟨.ofText "a.lua", [⟨.ofText "a.lua", 7, first⟩, ⟨.ofText "a.lua", 123456, second⟩]⟩]
  applied := false

theorem legible_wideReport {first second : String} (plain : '\n' ∉ first.toList)
    (plainToo : '\n' ∉ second.toList) : (wideReport first second).Legible := by
  refine List.forall_mem_singleton.mpr ⟨⟨"a.lua", rfl, by decide, ?_⟩, ?_⟩
  · rintro _ ⟨⟩
    decide
  · exact List.forall_mem_cons.mpr ⟨plain, List.forall_mem_singleton.mpr plainToo⟩

/-- The number of a line stays apart from the digits that its text begins with, and blank ends do
not show. -/
theorem told_eq_of_wideReport :
    (wideReport "  8 dict()" "9  9dict()").told =
      (wideReport "8 dict()\t" "  9  9dict()\u00a0").told :=
  told_eq_of_text_eq.2 _ _ (legible_wideReport (by decide) (by decide))
    (legible_wideReport (by decide) (by decide)) (by decide)

end Report

end Redirect
