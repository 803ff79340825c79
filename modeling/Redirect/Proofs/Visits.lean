/-
# One visit at a time

What a run does at the file that comes next: it passes over it, goes on from another world,
or ends. Each outcome follows from what the disk holds just before the file is read and from
what becomes of telling about it.
-/

import Redirect.Run
import Redirect.Substitution

namespace Redirect

theorem exists_of_except_bind_eq_ok {ε α β : Type} {first : Except ε α} {next : α → Except ε β}
    {result : β} (went : (first >>= next) = .ok result) :
    ∃ value, first = .ok value ∧ next value = .ok result := by
  cases first with
  | error failure => cases went
  | ok value => exact ⟨value, rfl, went⟩

namespace Action

variable {μ α β γ : Type} {action : Action μ α} {world after : World μ}

theorem bind_of_ok {value : α} (done : action world = .ok value after)
    (next : α → Action μ β) : (action >>= next) world = next value after := by
  show EStateM.bind action next world = next value after
  rw [EStateM.bind, done]

theorem bind_of_error {fault : Fault} (failed : action world = .error fault after)
    (next : α → Action μ β) : (action >>= next) world = .error fault after := by
  show EStateM.bind action next world = .error fault after
  rw [EStateM.bind, failed]

theorem map_of_ok {value : α} (done : action world = .ok value after) (f : α → β) :
    (f <$> action) world = .ok (f value) after := by
  show EStateM.map f action world = .ok (f value) after
  simp only [EStateM.map, done]

theorem map_of_error {fault : Fault} (failed : action world = .error fault after) (f : α → β) :
    (f <$> action) world = .error fault after := by
  show EStateM.map f action world = .error fault after
  simp only [EStateM.map, failed]

/-- What comes of an action that goes on as another one is passed on. -/
theorem map_of_map {other : Action μ β} {f : β → α}
    (continues : action world = (f <$> other) after) (g : α → γ) :
    (g <$> action) world = ((g ∘ f) <$> other) after := by
  cases ended : other after with
  | ok value left =>
    rw [map_of_ok (continues.trans (map_of_ok ended f)), map_of_ok ended]
    rfl
  | error fault left =>
    rw [map_of_error (continues.trans (map_of_error ended f)), map_of_error ended]

theorem exists_of_bind_eq_ok {next : α → Action μ β} {result : β}
    (went : (action >>= next) world = .ok result after) :
    ∃ value middle, action world = .ok value middle ∧ next value middle = .ok result after := by
  cases ended : action world with
  | ok value middle => exact ⟨value, middle, rfl, (bind_of_ok ended next).symm.trans went⟩
  | error fault left =>
    rw [bind_of_error ended] at went
    cases went

theorem exists_of_map_eq_ok {f : α → β} {result : β}
    (went : (f <$> action) world = .ok result after) :
    ∃ value, action world = .ok value after ∧ f value = result := by
  cases ended : action world with
  | ok value middle =>
    rw [map_of_ok ended] at went
    cases went
    exact ⟨value, rfl, rfl⟩
  | error fault left =>
    rw [map_of_error ended] at went
    cases went

theorem look_of_ok {question : Disk → Except Fault α} {answer : α}
    (answered : question world.disk = .ok answer) :
    (look question : Action μ α) world = .ok answer world := by
  rw [look, answered]

theorem look_of_error {question : Disk → Except Fault α} {fault : Fault}
    (failed : question world.disk = .error fault) :
    (look question : Action μ α) world = .error fault world := by
  rw [look, failed]

theorem exists_of_look_bind_eq_ok {question : Disk → Except Fault α} {next : α → Action μ β}
    {result : β} (went : (look question >>= next) world = .ok result after) :
    ∃ answer, question world.disk = .ok answer ∧ next answer world = .ok result after := by
  cases seen : question world.disk with
  | ok answer =>
    rw [bind_of_ok (look_of_ok seen)] at went
    exact ⟨answer, rfl, went⟩
  | error fault =>
    rw [bind_of_error (look_of_error seen)] at went
    cases went

theorem writeIf_dryRun (path : Path) (text : String) (world : World μ) :
    (writeIf .dryRun path text : Action μ Unit) world = .ok () world :=
  rfl

theorem writeIf_apply_of_ok {path : Path} {text : String} {disk : Disk}
    (written : world.disk.writeText path text = .ok disk) :
    (writeIf .apply path text : Action μ Unit) world = .ok () { world with disk := disk } := by
  show change (·.writeText path text) world = _
  simp only [change, written]

theorem writeIf_apply_of_error {path : Path} {text : String} {fault : Fault}
    (failed : world.disk.writeText path text = .error fault) :
    (writeIf .apply path text : Action μ Unit) world = .error fault world := by
  show change (·.writeText path text) world = _
  simp only [change, failed]

end Action

namespace Redirector

variable {μ : Type} {redirector : Redirector} {root path : Path} {rest : List Path} {mode : Mode}
variable {onFile : FileHits → Action μ Unit} {world after : World μ} {fault : Fault}
variable {text newText : String} {hits : List Hit}

theorem visit_unselected (unselected : redirector.selector.selects root path = false) :
    redirector.visit root mode onFile (path :: rest) =
      redirector.visit root mode onFile rest := by
  rw [visit, unselected]
  rfl

theorem visit_unread (selected : redirector.selector.selects root path = true)
    (failed : world.disk.readText path = .error fault) :
    redirector.visit root mode onFile (path :: rest) world = .error fault world := by
  rw [visit, if_pos selected]
  exact Action.bind_of_error (Action.look_of_error failed) _

theorem visit_unaffected (selected : redirector.selector.selects root path = true)
    (held : world.disk.readText path = .ok text)
    (unaffected : redirector.redirectText path text = none) :
    redirector.visit root mode onFile (path :: rest) world =
      redirector.visit root mode onFile rest world := by
  rw [visit, if_pos selected, Action.bind_of_ok (Action.look_of_ok held), unaffected]

theorem visit_affected (selected : redirector.selector.selects root path = true)
    (held : world.disk.readText path = .ok text)
    (affected : redirector.redirectText path text = some (newText, hits)) :
    redirector.visit root mode onFile (path :: rest) world =
      (do
        onFile ⟨path, hits⟩
        Action.writeIf mode path newText
        let others ← redirector.visit root mode onFile rest
        pure (⟨path, hits⟩ :: others) : Action μ (List FileHits)) world := by
  rw [visit, if_pos selected, Action.bind_of_ok (Action.look_of_ok held), affected]

theorem visit_refused (selected : redirector.selector.selects root path = true)
    (held : world.disk.readText path = .ok text)
    (affected : redirector.redirectText path text = some (newText, hits))
    (refused : onFile ⟨path, hits⟩ world = .error fault after) :
    redirector.visit root mode onFile (path :: rest) world = .error fault after := by
  rw [visit_affected selected held affected]
  exact Action.bind_of_error refused _

theorem visit_shown (selected : redirector.selector.selects root path = true)
    (held : world.disk.readText path = .ok text)
    (affected : redirector.redirectText path text = some (newText, hits))
    (told : onFile ⟨path, hits⟩ world = .ok () after) :
    redirector.visit root .dryRun onFile (path :: rest) world =
      (List.cons ⟨path, hits⟩ <$> redirector.visit root .dryRun onFile rest) after := by
  rw [visit_affected selected held affected, Action.bind_of_ok told,
    Action.bind_of_ok (Action.writeIf_dryRun path newText after)]
  rfl

theorem visit_unwritten (selected : redirector.selector.selects root path = true)
    (held : world.disk.readText path = .ok text)
    (affected : redirector.redirectText path text = some (newText, hits))
    (told : onFile ⟨path, hits⟩ world = .ok () after)
    (failed : after.disk.writeText path newText = .error fault) :
    redirector.visit root .apply onFile (path :: rest) world = .error fault after := by
  rw [visit_affected selected held affected, Action.bind_of_ok told]
  exact Action.bind_of_error (Action.writeIf_apply_of_error failed) _

theorem visit_written {disk : Disk} (selected : redirector.selector.selects root path = true)
    (held : world.disk.readText path = .ok text)
    (affected : redirector.redirectText path text = some (newText, hits))
    (told : onFile ⟨path, hits⟩ world = .ok () after)
    (written : after.disk.writeText path newText = .ok disk) :
    redirector.visit root .apply onFile (path :: rest) world =
      (List.cons ⟨path, hits⟩ <$> redirector.visit root .apply onFile rest)
        { after with disk := disk } := by
  rw [visit_affected selected held affected, Action.bind_of_ok told,
    Action.bind_of_ok (Action.writeIf_apply_of_ok written)]
  rfl

/-- A run that finds no list of files ends where it started. -/
theorem runWith_unlisted (failed : world.disk.filesBelowRoot root = .error fault) :
    redirector.runWith root mode onFile world = .error fault world :=
  Action.bind_of_error (Action.look_of_error failed) _

/-- The list of files is fixed before the first visit. -/
theorem runWith_listed {paths : List Path}
    (listed : world.disk.filesBelowRoot root = .ok paths) :
    redirector.runWith root mode onFile world =
      ((⟨·, mode.writes⟩ : List FileHits → Report) <$>
        redirector.visit root mode onFile paths) world := by
  rw [runWith, Action.bind_of_ok (Action.look_of_ok listed)]
  rfl

end Redirector

namespace Substitution

variable {μ : Type} {substitution : Substitution} {path : Path} {rest : List Path} {mode : Mode}
variable {onFile : Path → Action μ Unit} {world after : World μ} {text : String}

theorem visit_unread {fault : Fault} (failed : world.disk.readText path = .error fault) :
    substitution.visit mode onFile (path :: rest) world = .error fault world := by
  rw [visit]
  exact Action.bind_of_error (Action.look_of_error failed) _

theorem visit_absent (held : world.disk.readText path = .ok text)
    (absent : ¬holds text substitution.old) :
    substitution.visit mode onFile (path :: rest) world =
      substitution.visit mode onFile rest world := by
  rw [visit, Action.bind_of_ok (Action.look_of_ok held), if_neg absent]

theorem visit_present (held : world.disk.readText path = .ok text)
    (present : holds text substitution.old) :
    substitution.visit mode onFile (path :: rest) world =
      (do
        onFile path
        Action.writeIf mode path (substitution.apply text)
        let others ← substitution.visit mode onFile rest
        pure (path :: others) : Action μ (List Path)) world := by
  rw [visit, Action.bind_of_ok (Action.look_of_ok held), if_pos present]

theorem visit_refused {fault : Fault} (held : world.disk.readText path = .ok text)
    (present : holds text substitution.old) (refused : onFile path world = .error fault after) :
    substitution.visit mode onFile (path :: rest) world = .error fault after := by
  rw [visit_present held present]
  exact Action.bind_of_error refused _

theorem visit_written {disk : Disk} (held : world.disk.readText path = .ok text)
    (present : holds text substitution.old) (told : onFile path world = .ok () after)
    (written : after.disk.writeText path (substitution.apply text) = .ok disk) :
    substitution.visit .apply onFile (path :: rest) world =
      (List.cons path <$> substitution.visit .apply onFile rest) { after with disk := disk } := by
  rw [visit, Action.bind_of_ok (Action.look_of_ok held), if_pos present, Action.bind_of_ok told,
    Action.bind_of_ok (Action.writeIf_apply_of_ok written)]
  rfl

/-- The list of files is fixed before the first visit of a pass. -/
theorem pass_listed {root : Path} {extensions : List String} {paths : List Path}
    (listed : world.disk.candidates extensions root = .ok paths) :
    substitution.pass root extensions mode onFile world =
      ((⟨substitution, ·, mode.writes⟩ : List Path → SubstitutionOutcome) <$>
        substitution.visit mode onFile paths) world := by
  rw [pass, Action.bind_of_ok (Action.look_of_ok listed)]
  rfl

end Substitution

end Redirect
