/-
# The stages of a run

A run is a sequence of stages. Between two files it has a list of paths still to visit, a
world, and the files told about so far. One stage leads to the next, or to a fault, in a
few ways only, and each of them says what is read, told about and written, and in which
order. Telling about a file may do anything to the world, and may fail.
-/

import Mathlib.Logic.Relation
import Redirect.Command.Execute
import Redirect.Proofs.Visits

namespace Redirect

open Relation (ReflTransGen)

/-- Where a run stands between two files. -/
structure Stage (μ : Type) where
  /-- The paths still to visit. -/
  pending : List Path
  world : World μ
  /-- The files told about so far, in order. -/
  told : List FileHits

/-- The stage at which a list of paths is about to be visited. -/
def Stage.start {μ : Type} (paths : List Path) (world : World μ) : Stage μ :=
  ⟨paths, world, []⟩

namespace Redirector

variable {μ : Type}

/-- One file of a run that goes on. A selected file is read first. If nothing on its lines is
redirected, that is all. Otherwise the file is told about, and only when the changes are to be
applied is it written afterwards, with the text made of what was read before. -/
inductive Advances (redirector : Redirector) (root : Path) (mode : Mode)
    (onFile : FileHits → Action μ Unit) : Stage μ → Stage μ → Prop where
  | unselected {path : Path} {rest : List Path} {world : World μ} {told : List FileHits}
      (unselected : redirector.selector.selects root path = false) :
      Advances redirector root mode onFile ⟨path :: rest, world, told⟩ ⟨rest, world, told⟩
  | unaffected {path : Path} {rest : List Path} {world : World μ} {told : List FileHits}
      {text : String}
      (selected : redirector.selector.selects root path = true)
      (held : world.disk.readText path = .ok text)
      (unaffected : redirector.redirectText path text = none) :
      Advances redirector root mode onFile ⟨path :: rest, world, told⟩ ⟨rest, world, told⟩
  | shown {path : Path} {rest : List Path} {world after : World μ} {told : List FileHits}
      {text newText : String} {hits : List Hit}
      (selected : redirector.selector.selects root path = true)
      (held : world.disk.readText path = .ok text)
      (affected : redirector.redirectText path text = some (newText, hits))
      (accepted : onFile ⟨path, hits⟩ world = .ok () after)
      (shows : mode = .dryRun) :
      Advances redirector root mode onFile ⟨path :: rest, world, told⟩
        ⟨rest, after, told ++ [⟨path, hits⟩]⟩
  | written {path : Path} {rest : List Path} {world : World μ} {told : List FileHits}
      {text newText : String} {hits : List Hit} {disk newDisk : Disk} {memory : μ}
      (selected : redirector.selector.selects root path = true)
      (held : world.disk.readText path = .ok text)
      (affected : redirector.redirectText path text = some (newText, hits))
      (accepted : onFile ⟨path, hits⟩ world = .ok () ⟨disk, memory⟩)
      (applies : mode = .apply)
      (written : disk.writeText path newText = .ok newDisk) :
      Advances redirector root mode onFile ⟨path :: rest, world, told⟩
        ⟨rest, ⟨newDisk, memory⟩, told ++ [⟨path, hits⟩]⟩

/-- One file at which a run ends in a fault, and the world that is left. The file cannot be
read as a text, or telling about it fails, or it cannot be written; it is never written
unless telling about it went well. -/
inductive Halts (redirector : Redirector) (root : Path) (mode : Mode)
    (onFile : FileHits → Action μ Unit) : Stage μ → Fault → World μ → Prop where
  | unread {path : Path} {rest : List Path} {world : World μ} {told : List FileHits}
      {fault : Fault}
      (selected : redirector.selector.selects root path = true)
      (failed : world.disk.readText path = .error fault) :
      Halts redirector root mode onFile ⟨path :: rest, world, told⟩ fault world
  | refused {path : Path} {rest : List Path} {world after : World μ} {told : List FileHits}
      {text newText : String} {hits : List Hit} {fault : Fault}
      (selected : redirector.selector.selects root path = true)
      (held : world.disk.readText path = .ok text)
      (affected : redirector.redirectText path text = some (newText, hits))
      (refused : onFile ⟨path, hits⟩ world = .error fault after) :
      Halts redirector root mode onFile ⟨path :: rest, world, told⟩ fault after
  | unwritten {path : Path} {rest : List Path} {world after : World μ} {told : List FileHits}
      {text newText : String} {hits : List Hit} {fault : Fault}
      (selected : redirector.selector.selects root path = true)
      (held : world.disk.readText path = .ok text)
      (affected : redirector.redirectText path text = some (newText, hits))
      (accepted : onFile ⟨path, hits⟩ world = .ok () after)
      (applies : mode = .apply)
      (failed : after.disk.writeText path newText = .error fault) :
      Halts redirector root mode onFile ⟨path :: rest, world, told⟩ fault after

variable {redirector : Redirector} {root : Path} {mode : Mode}
variable {onFile : FileHits → Action μ Unit} {stage next : Stage μ}

/-- How a run ends that has come to a stage. -/
def finish (redirector : Redirector) (root : Path) (mode : Mode)
    (onFile : FileHits → Action μ Unit) (stage : Stage μ) :
    EStateM.Result Fault (World μ) (List FileHits) :=
  ((stage.told ++ ·) <$> redirector.visit root mode onFile stage.pending) stage.world

/-! ## One step -/

theorem finish_congr {paths rest : List Path} {world after : World μ}
    (visited : redirector.visit root mode onFile paths world =
      redirector.visit root mode onFile rest after) (told : List FileHits) :
    redirector.finish root mode onFile ⟨paths, world, told⟩ =
      redirector.finish root mode onFile ⟨rest, after, told⟩ := by
  show EStateM.map _ _ world = EStateM.map _ _ after
  simp only [EStateM.map, visited]

theorem finish_cons {paths rest : List Path} {world after : World μ} {file : FileHits}
    (visited : redirector.visit root mode onFile paths world =
      (List.cons file <$> redirector.visit root mode onFile rest) after)
    (told : List FileHits) :
    redirector.finish root mode onFile ⟨paths, world, told⟩ =
      redirector.finish root mode onFile ⟨rest, after, told ++ [file]⟩ := by
  have joined : (told ++ ·) ∘ List.cons file = (told ++ [file] ++ ·) := by
    funext files
    exact List.append_cons told file files
  rw [finish, Action.map_of_map visited, joined]
  rfl

theorem finish_error {paths : List Path} {world after : World μ} {fault : Fault}
    (visited : redirector.visit root mode onFile paths world = .error fault after)
    (told : List FileHits) :
    redirector.finish root mode onFile ⟨paths, world, told⟩ = .error fault after :=
  Action.map_of_error visited _

/-- A step of a run does not change how it ends. -/
theorem Advances.finish_eq (advances : redirector.Advances root mode onFile stage next) :
    redirector.finish root mode onFile stage = redirector.finish root mode onFile next := by
  cases advances with
  | unselected unselected =>
    exact finish_congr (congrFun (visit_unselected unselected) _) _
  | unaffected selected held unaffected =>
    exact finish_congr (visit_unaffected selected held unaffected) _
  | shown selected held affected accepted shows =>
    subst shows
    exact finish_cons (visit_shown selected held affected accepted) _
  | written selected held affected accepted applies written =>
    subst applies
    exact finish_cons (visit_written selected held affected accepted written) _

theorem Halts.finish_eq {fault : Fault} {after : World μ}
    (halts : redirector.Halts root mode onFile stage fault after) :
    redirector.finish root mode onFile stage = .error fault after := by
  cases halts with
  | unread selected failed => exact finish_error (visit_unread selected failed) _
  | refused selected held affected refused =>
    exact finish_error (visit_refused selected held affected refused) _
  | unwritten selected held affected accepted applies failed =>
    subst applies
    exact finish_error (visit_unwritten selected held affected accepted failed) _

/-- While there is a path to visit, a run goes on to the next one or ends in a fault. -/
theorem advances_or_halts (redirector : Redirector) (root : Path) (mode : Mode)
    (onFile : FileHits → Action μ Unit) (path : Path) (rest : List Path) (world : World μ)
    (told : List FileHits) :
    (∃ after files,
        redirector.Advances root mode onFile ⟨path :: rest, world, told⟩ ⟨rest, after, files⟩) ∨
      ∃ fault after,
        redirector.Halts root mode onFile ⟨path :: rest, world, told⟩ fault after := by
  cases selected : redirector.selector.selects root path with
  | false => exact .inl ⟨world, told, .unselected selected⟩
  | true =>
    cases held : world.disk.readText path with
    | error fault => exact .inr ⟨fault, world, .unread selected held⟩
    | ok text =>
      cases affected : redirector.redirectText path text with
      | none => exact .inl ⟨world, told, .unaffected selected held affected⟩
      | some redirected =>
        obtain ⟨newText, hits⟩ := redirected
        cases answered : onFile ⟨path, hits⟩ world with
        | error fault after => exact .inr ⟨fault, after, .refused selected held affected answered⟩
        | ok accepted after =>
          cases mode with
          | dryRun => exact .inl ⟨after, _, .shown selected held affected answered rfl⟩
          | apply =>
            cases written : after.disk.writeText path newText with
            | error fault =>
              exact .inr ⟨fault, after, .unwritten selected held affected answered rfl written⟩
            | ok disk =>
              exact .inl ⟨_, _, .written selected held affected answered rfl written⟩

/-! ## Whole runs -/

/-- A run does not change how it ends, however far it has come. -/
theorem finish_eq_of_reaches
    (reaches : ReflTransGen (redirector.Advances root mode onFile) stage next) :
    redirector.finish root mode onFile stage = redirector.finish root mode onFile next := by
  induction reaches with
  | refl => rfl
  | tail _ advances ih => rw [ih, advances.finish_eq]

/-- A run visits its last file or comes to a stage at which it ends in a fault. -/
theorem reaches_end_or_halts (redirector : Redirector) (root : Path) (mode : Mode)
    (onFile : FileHits → Action μ Unit) (paths : List Path) (world : World μ)
    (told : List FileHits) :
    (∃ after files,
        ReflTransGen (redirector.Advances root mode onFile) ⟨paths, world, told⟩
          ⟨[], after, files⟩) ∨
      ∃ last fault after,
        ReflTransGen (redirector.Advances root mode onFile) ⟨paths, world, told⟩ last ∧
          redirector.Halts root mode onFile last fault after := by
  induction paths generalizing world told with
  | nil => exact .inl ⟨world, told, .refl⟩
  | cons path rest ih =>
    rcases advances_or_halts redirector root mode onFile path rest world told with
      ⟨middle, files, advances⟩ | ⟨fault, after, halts⟩
    · rcases ih middle files with ⟨after, all, reaches⟩ | ⟨last, fault, after, reaches, halts⟩
      · exact .inl ⟨after, all, .head advances reaches⟩
      · exact .inr ⟨last, fault, after, .head advances reaches, halts⟩
    · exact .inr ⟨_, fault, after, .refl, halts⟩

theorem finish_nil (world : World μ) (told : List FileHits) :
    redirector.finish root mode onFile ⟨[], world, told⟩ = .ok told world := by
  show EStateM.Result.ok (told ++ []) world = .ok told world
  rw [List.append_nil]

theorem finish_eq_ok_iff (paths : List Path) (world after : World μ)
    (told files : List FileHits) :
    redirector.finish root mode onFile ⟨paths, world, told⟩ = .ok files after ↔
      ReflTransGen (redirector.Advances root mode onFile) ⟨paths, world, told⟩
        ⟨[], after, files⟩ := by
  constructor
  · intro finished
    rcases reaches_end_or_halts redirector root mode onFile paths world told with
      ⟨last, all, reaches⟩ | ⟨last, fault, left, reaches, halts⟩
    · have ended := finish_eq_of_reaches reaches
      rw [finished, finish_nil] at ended
      cases ended
      exact reaches
    · have ended := finish_eq_of_reaches reaches
      rw [finished, halts.finish_eq] at ended
      cases ended
  · intro reaches
    rw [finish_eq_of_reaches reaches, finish_nil]

theorem finish_eq_error_iff (paths : List Path) (world after : World μ)
    (told : List FileHits) (fault : Fault) :
    redirector.finish root mode onFile ⟨paths, world, told⟩ = .error fault after ↔
      ∃ last, ReflTransGen (redirector.Advances root mode onFile) ⟨paths, world, told⟩ last ∧
        redirector.Halts root mode onFile last fault after := by
  constructor
  · intro finished
    rcases reaches_end_or_halts redirector root mode onFile paths world told with
      ⟨last, all, reaches⟩ | ⟨last, otherFault, left, reaches, halts⟩
    · have ended := finish_eq_of_reaches reaches
      rw [finished, finish_nil] at ended
      cases ended
    · have ended := finish_eq_of_reaches reaches
      rw [finished, halts.finish_eq] at ended
      cases ended
      exact ⟨last, reaches, halts⟩
  · intro halted
    obtain ⟨last, reaches, halts⟩ := halted
    rw [finish_eq_of_reaches reaches, halts.finish_eq]

/-! ## What every stage has in common -/

/-- The files told about are among the paths visited so far, in their order. -/
theorem told_sublist_of_reaches {paths : List Path} {world : World μ}
    (reaches : ReflTransGen (redirector.Advances root mode onFile) (.start paths world) stage) :
    ∃ visited, paths = visited ++ stage.pending ∧
      (stage.told.map FileHits.path).Sublist visited := by
  induction reaches with
  | refl => exact ⟨[], rfl, List.Sublist.refl _⟩
  | tail _ advances ih =>
    obtain ⟨visited, split, told⟩ := ih
    cases advances with
    | @unselected path =>
      exact ⟨visited ++ [path], by rw [split]; simp, told.trans (List.sublist_append_left _ _)⟩
    | @unaffected path =>
      exact ⟨visited ++ [path], by rw [split]; simp, told.trans (List.sublist_append_left _ _)⟩
    | @shown path =>
      refine ⟨visited ++ [path], by rw [split]; simp, ?_⟩
      rw [List.map_append]
      exact told.append (List.Sublist.refl _)
    | @written path =>
      refine ⟨visited ++ [path], by rw [split]; simp, ?_⟩
      rw [List.map_append]
      exact told.append (List.Sublist.refl _)

theorem tellAll_append (tell : FileHits → Action μ Unit) {files : List FileHits}
    {world after : World μ} (told : Command.tellAll tell files world = .ok () after)
    (others : List FileHits) :
    Command.tellAll tell (files ++ others) world = Command.tellAll tell others after := by
  induction files generalizing world with
  | nil =>
    cases told
    rfl
  | cons first rest ih =>
    rw [Command.tellAll] at told
    rw [List.cons_append, Command.tellAll]
    cases answered : tell first world with
    | error fault left =>
      rw [Action.bind_of_error answered] at told
      cases told
    | ok accepted middle =>
      rw [Action.bind_of_ok answered] at told
      rw [Action.bind_of_ok answered, ih told]

/-- A run that only shows changes leaves what telling about the files leaves. -/
theorem tellAll_told_of_reaches {paths : List Path} {world : World μ}
    (reaches : ReflTransGen (redirector.Advances root .dryRun onFile) (.start paths world)
      stage) :
    Command.tellAll onFile stage.told world = .ok () stage.world := by
  induction reaches with
  | refl => rfl
  | tail _ advances ih =>
    cases advances with
    | unselected => exact ih
    | unaffected => exact ih
    | shown selected held affected accepted =>
      rw [tellAll_append onFile ih, Command.tellAll, Action.bind_of_ok accepted]
      rfl
    | written selected held affected accepted applies => cases applies

/-- What is told about is what was told: a memory that keeps each file it is told about has
kept these. -/
theorem record_of_reaches {record : μ → List FileHits}
    (records : ∀ file world after, onFile file world = .ok () after →
      record after.memory = record world.memory ++ [file])
    {paths : List Path} {world : World μ}
    (reaches : ReflTransGen (redirector.Advances root mode onFile) (.start paths world) stage) :
    record stage.world.memory = record world.memory ++ stage.told := by
  induction reaches with
  | refl => exact (List.append_nil _).symm
  | tail _ advances ih =>
    cases advances with
    | unselected => exact ih
    | unaffected => exact ih
    | shown selected held affected accepted =>
      rw [records _ _ _ accepted, ih, List.append_assoc]
    | written selected held affected accepted =>
      rw [records _ _ _ accepted, ih, List.append_assoc]

/-! ## The effect of a run -/

theorem runWith_eq_finish {world : World μ} {paths : List Path}
    (listed : world.disk.filesBelowRoot root = .ok paths) :
    redirector.runWith root mode onFile world =
      match redirector.finish root mode onFile (.start paths world) with
      | .ok files after => .ok ⟨files, mode.writes⟩ after
      | .error fault after => .error fault after := by
  rw [runWith_listed listed]
  simp only [finish, Stage.start, Functor.map, EStateM.map]
  cases redirector.visit root mode onFile paths world with
  | ok files after => rfl
  | error fault after => rfl

theorem runWith_eq_ok_iff {world : World μ} {paths : List Path}
    (listed : world.disk.filesBelowRoot root = .ok paths) (report : Report)
    (after : World μ) :
    redirector.runWith root mode onFile world = .ok report after ↔
      ReflTransGen (redirector.Advances root mode onFile) (.start paths world)
        ⟨[], after, report.files⟩ ∧ report.applied = mode.writes := by
  obtain ⟨files, applied⟩ := report
  rw [runWith_eq_finish listed, Stage.start, ← finish_eq_ok_iff]
  cases redirector.finish root mode onFile ⟨paths, world, []⟩ with
  | ok found left =>
    constructor
    · intro same
      cases same
      exact ⟨rfl, rfl⟩
    · intro same
      obtain ⟨ended, rfl⟩ := same
      cases ended
      rfl
  | error fault left =>
    constructor
    · intro same
      cases same
    · intro same
      cases same.1

theorem runWith_eq_error_iff {world : World μ} {paths : List Path}
    (listed : world.disk.filesBelowRoot root = .ok paths) (fault : Fault) (after : World μ) :
    redirector.runWith root mode onFile world = .error fault after ↔
      ∃ last, ReflTransGen (redirector.Advances root mode onFile) (.start paths world) last ∧
        redirector.Halts root mode onFile last fault after := by
  rw [runWith_eq_finish listed, Stage.start, ← finish_eq_error_iff]
  cases redirector.finish root mode onFile ⟨paths, world, []⟩ with
  | ok found left =>
    constructor
    · intro same
      cases same
    · intro same
      cases same
  | error failure left =>
    constructor
    · intro same
      cases same
      rfl
    · intro same
      cases same
      rfl

/-- What a run does, whatever telling about a file does to the world. If the files below the
root cannot be listed, nothing happens. Otherwise the list is fixed, and a run that ends well
has advanced from stage to stage through all of it and reports the files it has told about,
while a run that ends in a fault has advanced to a stage that halts with this fault, and
leaves the world of that moment. At every stage on the way the files told about are among
those visited, in order, and a memory of them holds exactly these; without changes to apply
the world is what telling about them has made of it. -/
theorem runWith_effect (redirector : Redirector) (root : Path) (mode : Mode)
    (onFile : FileHits → Action μ Unit) (world : World μ) :
    (∀ fault, world.disk.filesBelowRoot root = .error fault →
      redirector.runWith root mode onFile world = .error fault world) ∧
    ∀ paths, world.disk.filesBelowRoot root = .ok paths →
      (∀ report after, redirector.runWith root mode onFile world = .ok report after ↔
        ReflTransGen (redirector.Advances root mode onFile) (.start paths world)
          ⟨[], after, report.files⟩ ∧ report.applied = mode.writes) ∧
      (∀ fault after, redirector.runWith root mode onFile world = .error fault after ↔
        ∃ last, ReflTransGen (redirector.Advances root mode onFile) (.start paths world) last ∧
          redirector.Halts root mode onFile last fault after) ∧
      ∀ stage, ReflTransGen (redirector.Advances root mode onFile) (.start paths world) stage →
        (∃ visited, paths = visited ++ stage.pending ∧
          (stage.told.map FileHits.path).Sublist visited) ∧
        (∀ record : μ → List FileHits,
          (∀ file before after, onFile file before = .ok () after →
            record after.memory = record before.memory ++ [file]) →
          record stage.world.memory = record world.memory ++ stage.told) ∧
        (mode = .dryRun → Command.tellAll onFile stage.told world = .ok () stage.world) := by
  constructor
  · intro fault failed
    exact runWith_unlisted failed
  · intro paths listed
    refine ⟨runWith_eq_ok_iff listed, runWith_eq_error_iff listed, ?_⟩
    intro stage reaches
    refine ⟨told_sublist_of_reaches reaches, ?_, ?_⟩
    · intro record records
      exact record_of_reaches records reaches
    · intro shows
      subst shows
      exact tellAll_told_of_reaches reaches

end Redirector

end Redirect
