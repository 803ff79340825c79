/-
# Well-formed reports

A report lists files in the order of the walk, no two of them under equivalent paths, and with each
file the lines that are redirected there: at least one, under the path of the file, numbered from
one on and in order, and each of them a whole line that shows something and is not protected. Every
run that ends well gives such a report, whatever telling about a file has done to the tree on the
way. What is looked up in it under a path is the lines of the one file whose path is equivalent.
-/

import Redirect.Proofs.RedirectedTexts
import Redirect.Proofs.WalkOrder

namespace Redirect

open Relation (ReflTransGen)
open Text (Line IsUsedBare)

/-! ## Lines that show something -/

namespace Text

theorem mem_dropWhile {α : Type} {drops : α → Bool} {s : List α} {a : α} (member : a ∈ s)
    (stays : drops a = false) : a ∈ s.dropWhile drops := by
  rw [← List.takeWhile_append_dropWhile (p := drops) (l := s), List.mem_append] at member
  apply member.resolve_left
  intro dropped
  rw [List.mem_takeWhile_imp dropped] at stays
  cases stays

/-- A character that is not blank is still there when the blank ends are gone. -/
theorem mem_trim {s : List Char} {c : Char} (member : c ∈ s) (visible : isBlank c = false) :
    c ∈ trim s := by
  have kept : c ∈ (s.dropWhile isBlank).reverse :=
    List.mem_reverse.mpr (mem_dropWhile member visible)
  exact List.mem_reverse.mpr (mem_dropWhile kept visible)

end Text

theorem Rule.isBlank_of_isIdentifierPart {c : Char} (part : Text.isIdentifierPart c = true) :
    Text.isBlank c = false := by
  obtain ⟨notBelow, below⟩ := toNat_of_isIdentifierPart part
  exact Text.inRanges_eq_false (by decide) notBelow below.le

/-- A line on which the name of a rule is used shows something. -/
theorem Rule.trim_ne_nil (rule : Rule) {body : List Char}
    (used : IsUsedBare rule.pattern.toList body) : Text.trim body ≠ [] := by
  obtain ⟨before, after, rfl, -⟩ := used
  have isIdentifier := rule.isIdentifier
  cases name : rule.pattern.toList with
  | nil =>
    rw [name] at isIdentifier
    cases isIdentifier
  | cons c rest =>
    rw [name, Text.isIdentifier, Bool.and_eq_true] at isIdentifier
    have visible := isBlank_of_isIdentifierPart
      (isIdentifierPart_of_isIdentifierStart isIdentifier.1)
    exact List.ne_nil_of_mem (Text.mem_trim (c := c) (by simp) visible)

/-! ## Reports -/

/-- The lines that a report gives for a file. -/
structure FileHits.WellFormed (isProtected : String → Bool) (file : FileHits) : Prop where
  filled : file.hits ≠ []
  own : ∀ hit ∈ file.hits, hit.path = file.path
  numbered : ∀ hit ∈ file.hits, 1 ≤ hit.line
  ascending : file.hits.Pairwise fun first second => first.line < second.line
  unbroken : ∀ hit ∈ file.hits, '\n' ∉ hit.before.toList
  visible : ∀ hit ∈ file.hits, Text.trim hit.before.toList ≠ []
  unprotected : ∀ hit ∈ file.hits, isProtected hit.before = false

/-- The files of a report, no two of them at the same place. -/
structure Report.WellFormed (isProtected : String → Bool) (report : Report) : Prop where
  files : ∀ file ∈ report.files, file.WellFormed isProtected
  apart : report.files.Pairwise fun first second => first.path.equivalent second.path = false

/-- The files of a report are some of those that a walk finds, in the order of their locations. -/
def Report.InWalkOrder (disk : Disk) (root : Path) (report : Report) : Prop :=
  ∃ found told : List Location, disk.walk root = .ok (found.map root.joinAll) ∧
    found.Pairwise (· < ·) ∧ told.Sublist found ∧
    report.files.map FileHits.path = told.map root.joinAll

theorem Path.equivalent_iff {first second : Path} :
    first.equivalent second = true ↔ first.components = second.components :=
  beq_iff_eq

namespace Report

variable {isProtected : String → Bool} {report : Report}

theorem get?_eq_none_iff (path : Path) :
    report.get? path = none ↔ ∀ file ∈ report.files, file.path.equivalent path = false := by
  simp [get?]

namespace WellFormed

variable (wellFormed : report.WellFormed isProtected)
include wellFormed

/-- Two files of a report with equivalent paths are one. -/
theorem eq_of_equivalent {first second : FileHits} (member : first ∈ report.files)
    (memberToo : second ∈ report.files) (same : first.path.equivalent second.path = true) :
    first = second := by
  have symm : Std.Symm fun first second : FileHits =>
      first.path.equivalent second.path = false := by
    refine ⟨fun first second apart => ?_⟩
    rw [← Bool.not_eq_true, Path.equivalent_iff] at apart ⊢
    exact fun same => apart same.symm
  by_contra different
  rw [wellFormed.apart.forall member memberToo different] at same
  cases same

/-- The lines of a file are found under the paths that are equivalent to its own. -/
theorem get?_eq_some_iff {file : FileHits} (member : file ∈ report.files) (path : Path) :
    report.get? path = some file.hits ↔ file.path.equivalent path = true := by
  constructor
  · intro found
    obtain ⟨other, isFirst, sameHits⟩ := Option.map_eq_some_iff.mp found
    have otherMember := List.mem_of_find?_eq_some isFirst
    have equivalent := List.find?_some isFirst
    -- The first line of both says which file it belongs to.
    obtain ⟨hit, rest, isHit⟩ := List.exists_cons_of_ne_nil (wellFormed.files file member).filled
    have ours : hit ∈ file.hits := isHit ▸ List.mem_cons_self
    have owner := (wellFormed.files file member).own hit ours
    rw [← sameHits] at ours
    rw [← owner, (wellFormed.files other otherMember).own hit ours]
    exact equivalent
  · intro equivalent
    cases found : report.files.find? fun other => other.path.equivalent path with
    | none =>
      have missed := List.find?_eq_none.mp found file member
      exact absurd equivalent missed
    | some other =>
      have otherMember := List.mem_of_find?_eq_some found
      have otherEquivalent := List.find?_some found
      have same : other = file := by
        apply wellFormed.eq_of_equivalent otherMember member
        rw [Path.equivalent_iff] at equivalent otherEquivalent ⊢
        rw [equivalent, otherEquivalent]
      rw [get?, found, same]
      rfl

theorem totalFiles_le_totalHits : report.totalFiles ≤ report.totalHits := by
  have filled : ∀ file ∈ report.files, file.hits ≠ [] :=
    fun file member => (wellFormed.files file member).filled
  rw [totalFiles, totalHits]
  generalize report.files = files at filled
  induction files with
  | nil => exact Nat.le_refl 0
  | cons file rest ih =>
    obtain ⟨first, others⟩ := List.forall_mem_cons.mp filled
    have here := List.length_pos_of_ne_nil first
    have later := ih others
    rw [List.flatMap_cons, List.length_append, List.length_cons]
    omega

end WellFormed

end Report

namespace Redirector

variable {redirector : Redirector}

/-- What is told about a file is well formed. -/
theorem wellFormed_of_redirectText {path : Path} {text newText : String} {hits : List Hit}
    (affected : redirector.redirectText path text = some (newText, hits)) :
    (FileHits.mk path hits).WellFormed redirector.isProtected := by
  obtain rfl := eq_hits_of_redirectText affected
  have told : ∀ hit ∈ redirector.hits path (Line.ofText text.toList),
      ∃ index, ∃ line ∈ Line.ofText text.toList, redirector.IsHit line.body ∧
        hit = ⟨path, index + 1, String.ofList line.body⟩ := by
    intro hit member
    obtain ⟨index, line, here, isHit, rfl⟩ := (mem_hits_iff path _ hit).mp member
    exact ⟨index, line, List.mem_of_getElem? here, isHit, rfl⟩
  refine ⟨?_, ?_, ?_, ascending_hits path _, ?_, ?_, ?_⟩
  · intro nothing
    rw [hits_eq_nil_iff, ← redirectText_eq_none_iff path, affected] at nothing
    cases nothing
  · intro hit member
    obtain ⟨index, line, -, -, rfl⟩ := told hit member
    rfl
  · intro hit member
    obtain ⟨index, line, -, -, rfl⟩ := told hit member
    exact Nat.le_add_left 1 index
  · intro hit member
    obtain ⟨index, line, isLine, -, rfl⟩ := told hit member
    rw [String.toList_ofList]
    exact Line.forall_plain (Line.properLines_ofText _) line isLine
  · intro hit member
    obtain ⟨index, line, -, ⟨-, rule, -, used⟩, rfl⟩ := told hit member
    rw [String.toList_ofList]
    exact rule.trim_ne_nil used
  · intro hit member
    obtain ⟨index, line, -, ⟨unprotected, -⟩, rfl⟩ := told hit member
    exact unprotected

variable {μ : Type} {root : Path} {mode : Mode} {onFile : FileHits → Action μ Unit}

/-- What has been told at any stage of a run is well formed. -/
theorem wellFormed_of_reaches {paths : List Path} {world : World μ} {stage : Stage μ}
    (reaches : ReflTransGen (redirector.Advances root mode onFile) (.start paths world) stage) :
    ∀ file ∈ stage.told, file.WellFormed redirector.isProtected := by
  induction reaches with
  | refl => exact List.forall_mem_nil _
  | tail _ advances ih =>
    cases advances with
    | unselected => exact ih
    | unaffected => exact ih
    | shown selected held affected =>
      exact List.forall_mem_append.mpr
        ⟨ih, List.forall_mem_singleton.mpr (wellFormed_of_redirectText affected)⟩
    | written selected held affected =>
      exact List.forall_mem_append.mpr
        ⟨ih, List.forall_mem_singleton.mpr (wellFormed_of_redirectText affected)⟩

/-- Every report of a run is well formed, and its files are in the order of the walk, whatever is
done when a file is told about; that nothing is done is one case. So the lines of a file are found
under the paths that are equivalent to its own, nothing is found under a path that is equivalent to
none of them, and there are no fewer lines than files. -/
theorem wellFormed_of_runWith {world after : World μ} (proper : world.disk.tree.Proper)
    {report : Report} (went : redirector.runWith root mode onFile world = .ok report after) :
    report.WellFormed redirector.isProtected ∧ report.InWalkOrder world.disk root ∧
      (∀ file ∈ report.files, ∀ path,
        report.get? path = some file.hits ↔ file.path.equivalent path = true) ∧
      (∀ path, report.get? path = none ↔
        ∀ file ∈ report.files, file.path.equivalent path = false) ∧
      report.totalFiles ≤ report.totalHits := by
  cases listed : world.disk.filesBelowRoot root with
  | error fault =>
    rw [runWith_unlisted listed] at went
    cases went
  | ok paths =>
    have walked := Disk.walk_of_filesBelowRoot listed
    obtain ⟨found, rfl, ascending, apart⟩ := Disk.ascending_of_walk proper walked
    obtain ⟨reaches, -⟩ := (runWith_eq_ok_iff listed report after).mp went
    obtain ⟨visited, all, told⟩ := told_sublist_of_reaches reaches
    rw [List.append_nil] at all
    subst all
    have wellFormed : report.WellFormed redirector.isProtected :=
      ⟨wellFormed_of_reaches reaches, List.pairwise_map.mp (apart.sublist told)⟩
    obtain ⟨locations, some, spelled⟩ := List.sublist_map_iff.mp told
    exact ⟨wellFormed, ⟨found, locations, walked, ascending, some, spelled⟩,
      fun file member => wellFormed.get?_eq_some_iff member, report.get?_eq_none_iff,
      wellFormed.totalFiles_le_totalHits⟩

/-- A script in a directory, and one beside the directory. -/
def twoScripts (inner outer : String) : Disk where
  tree := .directory
    [(Utf8.encode "b.lua", .file (Utf8.encode outer)),
      (Utf8.encode "a", .directory [(Utf8.encode "z.lua", .file (Utf8.encode inner))])]
  workingLocation := []

theorem proper_twoScripts (inner outer : String) : (twoScripts inner outer).tree.Proper := by
  have apart : Utf8.encode "b.lua" ∉ [Utf8.encode "a"] := by decide
  rw [twoScripts]
  apply Node.Proper.cons (by decide) apart (.file _)
  exact .cons (by decide) (by decide) (.cons (by decide) (by decide) (.file _) .empty) .empty

/-- Telling about a file, whatever it is, leaves another disk behind. -/
def exchanging (disk : Disk) : FileHits → Action Unit Unit :=
  fun _ _ => .ok () ⟨disk, ()⟩

/-- One line of each script, that of the outer one as it is after the exchange. -/
def exchangedReport : Report where
  files :=
    [⟨.ofText ".//a/z.lua", [⟨.ofText ".//a/z.lua", 1, "dict(2)"⟩]⟩,
      ⟨.ofText ".//b.lua", [⟨.ofText ".//b.lua", 2, " dict(3)"⟩]⟩]
  applied := false

theorem runWith_exchanging :
    (redirecting ⟨"dict", "utils.dict", by decide⟩).runWith (.ofText ".//") .dryRun
        (exchanging (twoScripts "dict(2)\n" "\n dict(3)"))
        ⟨twoScripts "dict(2)\n" "x = dict(1)\n", ()⟩ =
      .ok exchangedReport ⟨twoScripts "dict(2)\n" "\n dict(3)", ()⟩ := by
  have listed : (twoScripts "dict(2)\n" "x = dict(1)\n").filesBelowRoot (.ofText ".//") =
      .ok [.ofText ".//a/z.lua", .ofText ".//b.lua"] := by cbv
  rw [runWith_eq_ok_iff listed]
  refine ⟨.head (.shown (by decide) (by cbv) rfl rfl rfl) ?_, rfl⟩
  exact .head (.shown (by decide) (by cbv) rfl rfl rfl) .refl

/-- The lines of a script are found under another spelling of its path, although another text was
there when the walk found it. -/
theorem wellFormed_of_exchanging :
    exchangedReport.WellFormed (fun _ => false) ∧
      exchangedReport.get? (.ofText "././b.lua/") =
        some [⟨.ofText ".//b.lua", 2, " dict(3)"⟩] := by
  obtain ⟨wellFormed, -, found, -, -⟩ :=
    wellFormed_of_runWith (proper_twoScripts _ _) runWith_exchanging
  refine ⟨wellFormed, (found _ (List.mem_cons_of_mem _ List.mem_cons_self) _).mpr ?_⟩
  decide

end Redirector

end Redirect
