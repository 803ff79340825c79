/-
# Actions that do the same

Two actions do the same when they go alike from every disk: both end in one fault, or in values
that belong together, and both leave one disk. What they remember may differ, as long as the two
memories belong together from beginning to end. Actions put together from such parts do the same,
so what a run or a pass does depends on those who are told about files only as far as they touch
the disk or fail.
-/

import Redirect.Command.Execute
import Redirect.Proofs.Visits

namespace Redirect

namespace Action

variable {μ ν α β γ δ : Type} {values : α → β → Prop} {memories : μ → ν → Prop}

/-- Two results that say the same: one fault, or values that belong together. -/
inductive Match (values : α → β → Prop) (memories : μ → ν → Prop) :
    EStateM.Result Fault (World μ) α → EStateM.Result Fault (World ν) β → Prop
  | ok {value : α} {other : β} (disk : Disk) {memory : μ} {otherMemory : ν}
      (together : values value other) (related : memories memory otherMemory) :
      Match values memories (.ok value ⟨disk, memory⟩) (.ok other ⟨disk, otherMemory⟩)
  | error (fault : Fault) (disk : Disk) {memory : μ} {otherMemory : ν}
      (related : memories memory otherMemory) :
      Match values memories (.error fault ⟨disk, memory⟩) (.error fault ⟨disk, otherMemory⟩)

/-- Two actions that do the same from every disk. -/
def Alike (values : α → β → Prop) (memories : μ → ν → Prop) (first : Action μ α)
    (second : Action ν β) : Prop :=
  ∀ disk memory otherMemory, memories memory otherMemory →
    Match values memories (first ⟨disk, memory⟩) (second ⟨disk, otherMemory⟩)

/-- There is nothing to compare. -/
def Anything (_ : α) (_ : β) : Prop :=
  True

theorem alike_pure {value : α} {other : β} (together : values value other) :
    Alike values memories (pure value) (pure other) :=
  fun disk _ _ related => .ok disk together related

theorem alike_look (question : Disk → Except Fault α) :
    Alike Eq memories (look question : Action μ α) (look question : Action ν α) := by
  intro disk memory otherMemory related
  cases answered : question disk with
  | ok answer =>
    rw [look_of_ok answered, look_of_ok answered]
    exact .ok disk rfl related
  | error fault =>
    rw [look_of_error answered, look_of_error answered]
    exact .error fault disk related

theorem alike_writeIf (mode : Mode) (path : Path) (text : String) :
    Alike Anything memories (writeIf mode path text : Action μ Unit)
      (writeIf mode path text : Action ν Unit) := by
  intro disk memory otherMemory related
  cases mode with
  | dryRun => exact .ok disk trivial related
  | apply =>
    cases written : disk.writeText path text with
    | ok newDisk =>
      rw [writeIf_apply_of_ok written, writeIf_apply_of_ok written]
      exact .ok newDisk trivial related
    | error fault =>
      rw [writeIf_apply_of_error written, writeIf_apply_of_error written]
      exact .error fault disk related

/-- What goes on alike after what went alike. -/
theorem Alike.bind {later : γ → δ → Prop} {first : Action μ α} {second : Action ν β}
    {next : α → Action μ γ} {follow : β → Action ν δ} (alike : Alike values memories first second)
    (goesOn : ∀ value other, values value other →
      Alike later memories (next value) (follow other)) :
    Alike later memories (first >>= next) (second >>= follow) := by
  intro disk memory otherMemory related
  have begun := alike disk memory otherMemory related
  generalize ended : first ⟨disk, memory⟩ = result at begun
  generalize otherEnded : second ⟨disk, otherMemory⟩ = otherResult at begun
  cases begun with
  | ok after together relatedAfter =>
    rw [bind_of_ok ended, bind_of_ok otherEnded]
    exact goesOn _ _ together _ _ _ relatedAfter
  | error fault after relatedAfter =>
    rw [bind_of_error ended, bind_of_error otherEnded]
    exact .error fault after relatedAfter

/-- Steps that leave the disk alone have no counterpart. -/
theorem Alike.after_silent {later : γ → δ → Prop} {first : Action μ α} {next : α → Action μ γ}
    {follow : Action ν δ} (silent : Alike Anything memories first (pure () : Action ν Unit))
    (goesOn : ∀ value, Alike later memories (next value) follow) :
    Alike later memories (first >>= next) follow := by
  have alike : Alike later memories (first >>= next)
      ((pure () : Action ν Unit) >>= fun _ => follow) :=
    silent.bind fun value _ _ => goesOn value
  rw [pure_bind] at alike
  exact alike

theorem silent_writeIf_dryRun (path : Path) (text : String) :
    Alike Anything memories (writeIf .dryRun path text : Action μ Unit)
      (pure () : Action ν Unit) :=
  fun disk _ _ related => .ok disk trivial related

/-- Looking twice at one disk is one look. -/
theorem look_bind (question : Disk → Except Fault α) (next : α → Disk → Except Fault β) :
    (look (fun disk => question disk >>= fun answer => next answer disk) : Action μ β) =
      look question >>= fun answer => look (next answer) := by
  funext world
  cases answered : question world.disk with
  | ok answer =>
    rw [bind_of_ok (look_of_ok answered), look, look, answered]
    rfl
  | error fault =>
    rw [bind_of_error (look_of_error answered), look, answered]
    rfl

end Action

open Redirect.Action (Alike Anything alike_pure alike_look alike_writeIf)

variable {μ ν : Type} {memories : μ → ν → Prop}

namespace Command

/-- Telling about things that leaves the disk alone has no counterpart. -/
theorem silent_tellAll {α : Type} {tell : α → Action μ Unit}
    (silent : ∀ thing, Alike Anything memories (tell thing) (pure () : Action ν Unit))
    (things : List α) :
    Alike Anything memories (tellAll tell things) (pure () : Action ν Unit) := by
  induction things with
  | nil => exact alike_pure trivial
  | cons first rest ih => exact (silent first).after_silent fun _ => ih

end Command

/-! ## Redirecting -/

/-- The lines of a file are named by its own path. -/
def FileHits.OwnLines (file : FileHits) : Prop :=
  ∀ hit ∈ file.hits, hit.path = file.path

namespace Redirector

variable {redirector : Redirector} {root : Path} {mode : Mode}
variable {onFile : FileHits → Action μ Unit} {other : FileHits → Action ν Unit}

theorem ownLines_of_redirectText {path : Path} {text newText : String} {hits : List Hit}
    (affected : redirector.redirectText path text = some (newText, hits)) :
    FileHits.OwnLines ⟨path, hits⟩ := by
  intro hit member
  rw [redirectText] at affected
  split at affected
  · cases affected
  · cases affected
    obtain ⟨entry, -, made⟩ := List.mem_filterMap.mp member
    obtain ⟨-, -, rfl⟩ := Option.map_eq_some_iff.mp made
    rfl

theorem alike_visit
    (told : ∀ file, file.OwnLines → Alike Anything memories (onFile file) (other file))
    (paths : List Path) :
    Alike (fun files others => files = others ∧ ∀ file ∈ files, file.OwnLines) memories
      (redirector.visit root mode onFile paths) (redirector.visit root mode other paths) := by
  induction paths with
  | nil => exact alike_pure ⟨rfl, List.forall_mem_nil _⟩
  | cons path rest ih =>
    cases selected : redirector.selector.selects root path with
    | false =>
      rw [visit_unselected selected, visit_unselected selected]
      exact ih
    | true =>
      rw [visit, visit, if_pos selected, if_pos selected]
      refine (alike_look _).bind fun text _ same => ?_
      subst same
      cases affected : redirector.redirectText path text with
      | none => exact ih
      | some redirected =>
        obtain ⟨newText, hits⟩ := redirected
        have own := ownLines_of_redirectText affected
        refine (told _ own).bind fun _ _ _ => ?_
        refine (alike_writeIf mode path newText).bind fun _ _ _ => ?_
        refine ih.bind fun files _ same => alike_pure ⟨?_, ?_⟩
        · rw [same.1]
        · exact List.forall_mem_cons.mpr ⟨own, same.2⟩

theorem alike_runWith
    (told : ∀ file, file.OwnLines → Alike Anything memories (onFile file) (other file)) :
    Alike (fun report others => report = others ∧ ∀ file ∈ report.files, file.OwnLines) memories
      (redirector.runWith root mode onFile) (redirector.runWith root mode other) := by
  refine (alike_look _).bind fun paths _ same => ?_
  subst same
  refine (alike_visit told paths).bind fun files _ same => alike_pure ⟨?_, same.2⟩
  rw [same.1]

end Redirector

/-! ## Substituting -/

namespace Substitution

variable {substitution : Substitution} {root : Path} {extensions : List String} {mode : Mode}
variable {onFile : Path → Action μ Unit} {other : Path → Action ν Unit}

theorem alike_visit (told : ∀ path, Alike Anything memories (onFile path) (other path))
    (paths : List Path) :
    Alike Eq memories (substitution.visit mode onFile paths)
      (substitution.visit mode other paths) := by
  induction paths with
  | nil => exact alike_pure rfl
  | cons path rest ih =>
    rw [visit, visit]
    refine (alike_look _).bind fun text _ same => ?_
    subst same
    split
    · refine (told path).bind fun _ _ _ => (alike_writeIf mode path _).bind fun _ _ _ => ?_
      exact ih.bind fun files _ same => alike_pure (congrArg (List.cons path) same)
    · exact ih

theorem alike_pass (told : ∀ path, Alike Anything memories (onFile path) (other path)) :
    Alike Eq memories (substitution.pass root extensions mode onFile)
      (substitution.pass root extensions mode other) := by
  refine (alike_look _).bind fun paths _ same => ?_
  subst same
  exact (alike_visit told paths).bind fun files _ same => alike_pure (same ▸ rfl)

theorem alike_passes (told : ∀ path, Alike Anything memories (onFile path) (other path))
    (substitutions : List Substitution) :
    Alike Eq memories (passes root extensions mode onFile substitutions)
      (passes root extensions mode other substitutions) := by
  induction substitutions with
  | nil => exact alike_pure rfl
  | cons substitution rest ih =>
    refine (alike_pass told).bind fun outcome _ same => ?_
    subst same
    exact ih.bind fun outcomes _ same => alike_pure (same ▸ rfl)

end Substitution

/-! ## Commands -/

namespace Command

/-- Two commands that redirect calls go alike, where telling about each file does. -/
theorem alike_redirecting_congr {onFile : FileHits → Action μ Unit}
    {other : FileHits → Action ν Unit}
    (told : ∀ file, file.OwnLines → Alike Anything memories (onFile file) (other file))
    (path config : Option String) (mode : Mode) :
    Alike Eq memories (redirecting path config mode onFile)
      (redirecting path config mode other) := by
  refine (alike_look _).bind fun root _ same => ?_
  subst same
  refine (alike_look _).bind fun configuration _ same => ?_
  subst same
  refine (alike_look _).bind fun redirector _ same => ?_
  subst same
  exact (Redirector.alike_runWith told).bind fun report _ same => alike_pure (same.1 ▸ rfl)

/-- So do two that replace texts. -/
theorem alike_substituting_congr {onFile : Path → Action μ Unit} {other : Path → Action ν Unit}
    (told : ∀ path, Alike Anything memories (onFile path) (other path))
    (path : Option String) (pair : Option (String × String)) (mode : Mode) :
    Alike Eq memories (substituting path pair mode onFile)
      (substituting path pair mode other) := by
  refine (alike_look _).bind fun root _ same => ?_
  subst same
  refine (alike_look _).bind fun substitutions _ same => ?_
  subst same
  exact (Substitution.alike_passes told substitutions).bind fun outcomes _ same =>
    alike_pure (same ▸ rfl)

theorem alike_tellAll {α : Type} {tell : α → Action μ Unit} {other : α → Action ν Unit}
    (told : ∀ thing, Alike Anything memories (tell thing) (other thing)) (things : List α) :
    Alike Anything memories (tellAll tell things) (tellAll other things) := by
  induction things with
  | nil => exact alike_pure trivial
  | cons first rest ih => exact (told first).bind fun _ _ _ => ih

/-- So do two that search for texts. -/
theorem alike_searching_congr {onMatch : SearchMatch → Action μ Unit}
    {other : SearchMatch → Action ν Unit}
    (told : ∀ found, Alike Anything memories (onMatch found) (other found))
    (path : Option String) (terms : List String) :
    Alike Eq memories (searching path terms onMatch) (searching path terms other) := by
  refine (alike_look _).bind fun root _ same => ?_
  subst same
  refine (alike_look _).bind fun results _ same => ?_
  subst same
  exact (alike_tellAll told results).bind fun _ _ _ => alike_pure rfl

end Command

end Redirect
