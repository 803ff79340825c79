/-
# A run that only shows changes foretells one that applies them

Both runs start from one disk and tell about files to someone who does not touch the disk and
answers by what was told so far, perhaps with a fault. Step by step the run that applies
changes follows the other one: its disk is the first disk overwritten, and the files still to
be visited are not among those overwritten.
-/

import Redirect.Proofs.Applied

namespace Redirect

open Relation (ReflTransGen)

namespace Action

/-- To be told about files, keep all that was told, and answer by it alone. -/
def answering (answer : List FileHits → Except Fault Unit) (file : FileHits) :
    Action (List FileHits) Unit := fun world =>
  match answer (world.memory ++ [file]) with
  | .ok () => .ok () ⟨world.disk, world.memory ++ [file]⟩
  | .error fault => .error fault ⟨world.disk, world.memory ++ [file]⟩

variable {answer : List FileHits → Except Fault Unit} {file : FileHits} {fault : Fault}
variable {world after : World (List FileHits)}

/-- What is answered does not depend on the disk, and telling leaves the disk alone. -/
theorem answering_of_ok (accepted : answering answer file world = .ok () after)
    (disk : Disk) :
    after = ⟨world.disk, world.memory ++ [file]⟩ ∧
      answering answer file ⟨disk, world.memory⟩ = .ok () ⟨disk, world.memory ++ [file]⟩ := by
  rw [answering] at accepted
  cases answered : answer (world.memory ++ [file]) with
  | error fault =>
    rw [answered] at accepted
    cases accepted
  | ok done =>
    rw [answered] at accepted
    cases accepted
    refine ⟨rfl, ?_⟩
    rw [answering, answered]

theorem answering_of_error (refused : answering answer file world = .error fault after)
    (disk : Disk) :
    after = ⟨world.disk, world.memory ++ [file]⟩ ∧
      answering answer file ⟨disk, world.memory⟩ =
        .error fault ⟨disk, world.memory ++ [file]⟩ := by
  rw [answering] at refused
  cases answered : answer (world.memory ++ [file]) with
  | ok done =>
    rw [answered] at refused
    cases refused
  | error fault =>
    rw [answered] at refused
    cases refused
    refine ⟨rfl, ?_⟩
    rw [answering, answered]

end Action

/-- Two runs have come equally far, one of them showing changes to a disk, the other one
having applied them. -/
inductive Rehearses (disk : Disk) : Stage (List FileHits) → Stage (List FileHits) → Prop where
  | level {changed : List (Location × Bytes)} {files : List FoundFile}
      (pending : disk.Pending changed files) (calls told : List FileHits) :
      Rehearses disk ⟨files.map FoundFile.path, ⟨disk, calls⟩, told⟩
        ⟨files.map FoundFile.path, ⟨disk.overwrite changed, calls⟩, told⟩

namespace Rehearses

variable {redirector : Redirector} {root : Path} {disk : Disk}
variable {answer : List FileHits → Except Fault Unit}
variable {shown applied next : Stage (List FileHits)}

/-- Where the run that shows changes goes on, the run that applies them goes on as well. -/
theorem advances (rehearses : Rehearses disk shown applied)
    (advances : redirector.Advances root .dryRun (Action.answering answer) shown next) :
    ∃ other, redirector.Advances root .apply (Action.answering answer) applied other ∧
      Rehearses disk next other := by
  cases rehearses with
  | @level changed files pending calls told =>
    cases files with
    | nil => cases advances
    | cons file rest =>
      rw [List.map_cons] at advances ⊢
      cases advances with
      | unselected unselected => exact ⟨_, .unselected unselected, .level pending.tail calls told⟩
      | unaffected selected held unaffected =>
        have heldNow := pending.readText_eq.trans held
        exact ⟨_, .unaffected selected heldNow unaffected, .level pending.tail calls told⟩
      | shown selected held affected accepted =>
        have heldNow := pending.readText_eq.trans held
        obtain ⟨written, pendingAfter⟩ := pending.writeText_eq held _
        obtain ⟨rfl, acceptedNow⟩ := Action.answering_of_ok accepted (disk.overwrite changed)
        exact ⟨_, .written selected heldNow affected acceptedNow rfl written,
          .level pendingAfter _ _⟩
      | written selected held affected accepted applies => cases applies

/-- Where the run that shows changes ends in a fault, the run that applies them ends in the
same fault, and as much was told. -/
theorem halts (rehearses : Rehearses disk shown applied) {fault : Fault}
    {left : World (List FileHits)}
    (halts : redirector.Halts root .dryRun (Action.answering answer) shown fault left) :
    ∃ calls after, left = ⟨disk, calls⟩ ∧
      redirector.Halts root .apply (Action.answering answer) applied fault ⟨after, calls⟩ := by
  cases rehearses with
  | @level changed files pending calls told =>
    cases files with
    | nil => cases halts
    | cons file rest =>
      rw [List.map_cons] at halts ⊢
      cases halts with
      | unread selected failed =>
        have failsNow := pending.readText_eq.trans failed
        exact ⟨calls, _, rfl, .unread selected failsNow⟩
      | refused selected held affected refused =>
        have heldNow := pending.readText_eq.trans held
        obtain ⟨rfl, refusedNow⟩ := Action.answering_of_error refused (disk.overwrite changed)
        exact ⟨_, _, rfl, .refused selected heldNow affected refusedNow⟩
      | unwritten selected held affected accepted applies => cases applies

/-- However far the run that shows changes has come, the run that applies them comes as far. -/
theorem reaches (rehearses : Rehearses disk shown applied)
    (reaches : ReflTransGen (redirector.Advances root .dryRun (Action.answering answer))
      shown next) :
    ∃ other, ReflTransGen (redirector.Advances root .apply (Action.answering answer))
        applied other ∧ Rehearses disk next other := by
  induction reaches with
  | refl => exact ⟨applied, .refl, rehearses⟩
  | tail _ advances ih =>
    obtain ⟨middle, reachesMiddle, rehearsesMiddle⟩ := ih
    obtain ⟨other, advancesNow, rehearsesNow⟩ := rehearsesMiddle.advances advances
    exact ⟨other, reachesMiddle.tail advancesNow, rehearsesNow⟩

/-- Where the run that shows changes has visited every file, the other one has, too. -/
theorem ended {world : World (List FileHits)} {files : List FileHits}
    (rehearses : Rehearses disk ⟨[], world, files⟩ applied) :
    ∃ calls after, world = ⟨disk, calls⟩ ∧ applied = ⟨[], ⟨after, calls⟩, files⟩ := by
  generalize same : (⟨[], world, files⟩ : Stage (List FileHits)) = shown at rehearses
  cases rehearses with
  | @level changed found pending calls told =>
    injection same with visited left reported
    subst left reported
    exact ⟨calls, disk.overwrite changed, rfl, by rw [← visited]⟩

end Rehearses

namespace Redirector

/-- Showing changes foretells applying them. Whoever answers by what was told alone is told
the same by both runs; these end in the same fault, or both end well and report the same
files in the same words. The run that shows changes leaves the disk as it was. -/
theorem dryRun_foretells_apply (redirector : Redirector) {disk : Disk}
    (proper : disk.tree.Proper) (root : Path) (answer : List FileHits → Except Fault Unit) :
    ∃ calls after,
      (∃ fault,
        redirector.runWith root .dryRun (Action.answering answer) ⟨disk, []⟩ =
            .error fault ⟨disk, calls⟩ ∧
          redirector.runWith root .apply (Action.answering answer) ⟨disk, []⟩ =
            .error fault ⟨after, calls⟩) ∨
      ∃ shown applied,
        redirector.runWith root .dryRun (Action.answering answer) ⟨disk, []⟩ =
            .ok shown ⟨disk, calls⟩ ∧
          redirector.runWith root .apply (Action.answering answer) ⟨disk, []⟩ =
            .ok applied ⟨after, calls⟩ ∧
          shown.files = applied.files ∧ shown.text = applied.text := by
  cases listed : disk.filesBelowRoot root with
  | error fault =>
    exact ⟨[], disk, .inl ⟨fault, runWith_unlisted listed, runWith_unlisted listed⟩⟩
  | ok paths =>
    have start : Rehearses disk (.start paths ⟨disk, []⟩) (.start paths ⟨disk, []⟩) := by
      have pending := (Disk.finds_regularFiles proper root).pending proper
      have rehearses := Rehearses.level pending [] []
      rw [Disk.overwrite_nil proper, ← Disk.eq_map_path_of_filesBelowRoot proper listed]
        at rehearses
      exact rehearses
    rcases reaches_end_or_halts redirector root .dryRun (Action.answering answer) paths
        ⟨disk, []⟩ [] with ⟨after, files, reaches⟩ | ⟨last, fault, left, reaches, halts⟩
    · obtain ⟨other, reachesNow, rehearses⟩ := start.reaches reaches
      obtain ⟨calls, left, rfl, rfl⟩ := rehearses.ended
      refine ⟨calls, left, .inr ⟨⟨files, false⟩, ⟨files, true⟩, ?_, ?_, rfl, rfl⟩⟩
      · exact (runWith_eq_ok_iff listed _ _).mpr ⟨reaches, rfl⟩
      · exact (runWith_eq_ok_iff listed _ _).mpr ⟨reachesNow, rfl⟩
    · obtain ⟨other, reachesNow, rehearses⟩ := start.reaches reaches
      obtain ⟨calls, after, rfl, haltsNow⟩ := rehearses.halts halts
      refine ⟨calls, after, .inl ⟨fault, ?_, ?_⟩⟩
      · exact (runWith_eq_error_iff listed _ _).mpr ⟨last, reaches, halts⟩
      · exact (runWith_eq_error_iff listed _ _).mpr ⟨other, reachesNow, haltsNow⟩

/-- A broken script is found after one that was told about, by either run. -/
theorem dryRun_foretells_apply_sampleDisk :
    ∃ after,
      sampleRedirector.runWith (.ofText ".") .apply (Action.answering fun _ => .ok ())
          ⟨sampleDisk, []⟩ =
        .error (.notText (.ofText "./c.lua") (.invalid 0 1))
          ⟨after, [⟨.ofText "./a.lua", [⟨.ofText "./a.lua", 1, "x = dict(1)"⟩]⟩]⟩ := by
  have listed : sampleDisk.filesBelowRoot (.ofText ".") =
      .ok [.ofText "./a.lua", .ofText "./c.lua"] := by cbv
  have held : sampleDisk.readText (.ofText "./a.lua") = .ok "x = dict(1)\n" := by cbv
  have affected : sampleRedirector.redirectText (.ofText "./a.lua") "x = dict(1)\n" =
      some ("x = utils.dict(1)\n", [⟨.ofText "./a.lua", 1, "x = dict(1)"⟩]) := by decide
  have shown :
      sampleRedirector.runWith (.ofText ".") .dryRun (Action.answering fun _ => .ok ())
          ⟨sampleDisk, []⟩ =
        .error (.notText (.ofText "./c.lua") (.invalid 0 1))
          ⟨sampleDisk, [⟨.ofText "./a.lua", [⟨.ofText "./a.lua", 1, "x = dict(1)"⟩]⟩]⟩ :=
    (runWith_eq_error_iff listed _ _).mpr
      ⟨_, .single (.shown (by cbv) held affected rfl rfl), .unread (by cbv) (by cbv)⟩
  obtain ⟨calls, after, ⟨fault, ended, foretold⟩ | ⟨report, applied, ended, -⟩⟩ :=
    dryRun_foretells_apply sampleRedirector proper_sampleDisk (.ofText ".") fun _ => .ok ()
  · rw [shown] at ended
    cases ended
    exact ⟨after, foretold⟩
  · rw [shown] at ended
    cases ended

end Redirector

end Redirect
