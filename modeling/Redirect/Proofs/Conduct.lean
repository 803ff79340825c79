/-
# The conduct of a command

A command that keeps what it is told about either is refused before it has done anything, or it
sets to work below its root. From there on it only overwrites files, it is told about nothing but
regular files that stood below the root at first, and what can still go wrong is no fault of the
request.
-/

import Redirect.Proofs.Accounts

namespace Redirect

namespace Action

variable {μ α β : Type} {holds : World μ → Prop} {fails : Fault → Prop}

/-- The end of an action that keeps an invariant of worlds and has faults of one kind only. -/
inductive Ends (holds : World μ → Prop) (fails : Fault → Prop) :
    EStateM.Result Fault (World μ) α → Prop
  | ok {value : α} {after : World μ} (kept : holds after) : Ends holds fails (.ok value after)
  | error {fault : Fault} {after : World μ} (kept : holds after) (failed : fails fault) :
      Ends holds fails (.error fault after)

/-- An action keeps an invariant, wherever it ends. -/
def Keeps (holds : World μ → Prop) (fails : Fault → Prop) (action : Action μ α) : Prop :=
  ∀ world, holds world → Ends holds fails (action world)

theorem keeps_pure (value : α) : Keeps holds fails (pure value) :=
  fun _ kept => .ok kept

theorem Keeps.bind {first : Action μ α} {next : α → Action μ β} (keeps : Keeps holds fails first)
    (goesOn : ∀ value, Keeps holds fails (next value)) : Keeps holds fails (first >>= next) := by
  intro world held
  have begun := keeps world held
  generalize ended : first world = result at begun
  cases begun with
  | ok kept =>
    rw [bind_of_ok ended]
    exact goesOn _ _ kept
  | error kept failed =>
    rw [bind_of_error ended]
    exact .error kept failed

/-- What is seen while the invariant holds may be used in what follows. -/
theorem keeps_look_bind {question : Disk → Except Fault α} {next : α → Action μ β}
    (answered : ∀ world answer, holds world → question world.disk = .ok answer →
      Keeps holds fails (next answer))
    (failed : ∀ world fault, holds world → question world.disk = .error fault → fails fault) :
    Keeps holds fails (look question >>= next) := by
  intro world held
  cases seen : question world.disk with
  | ok answer =>
    rw [bind_of_ok (look_of_ok seen)]
    exact answered world answer held seen world held
  | error fault =>
    rw [bind_of_error (look_of_error seen)]
    exact .error held (failed world fault held seen)

end Action

open Redirect.Action (Ends Keeps keeps_pure keeps_look_bind)

/-- A fault in carrying out a request that was in order. -/
def Fault.Operational (fault : Fault) : Prop :=
  fault.exitStatus = 1

/-- Files may have been overwritten, and everything that was kept is good. -/
structure Within {τ : Type} (disk : Disk) (good : τ → Prop) (world : World (List τ)) : Prop where
  rewritten : ∃ changes, world.disk = disk.overwrite changes
  good : ∀ thing ∈ world.memory, good thing

namespace Within

variable {τ : Type} {disk : Disk} {good : τ → Prop} {world : World (List τ)}

theorem start (proper : disk.tree.Proper) (good : τ → Prop) : Within disk good ⟨disk, []⟩ :=
  ⟨⟨[], (Disk.overwrite_nil proper).symm⟩, List.forall_mem_nil _⟩

theorem proper (within : Within disk good world) (proper : disk.tree.Proper) :
    world.disk.tree.Proper := by
  obtain ⟨changes, rewritten⟩ := within.rewritten
  rw [rewritten]
  exact proper.overwrite changes

/-- The files below a root are listed as at first. -/
theorem filesBelowRoot_eq (within : Within disk good world) (root : Path) :
    world.disk.filesBelowRoot root = disk.filesBelowRoot root := by
  obtain ⟨changes, rewritten⟩ := within.rewritten
  rw [rewritten, Disk.filesBelowRoot_overwrite]

/-- Telling about a file that was read and writing it keeps to the invariant. -/
theorem tell_write {α : Type} {path : Path} {text : String} {thing : τ} {fails : Fault → Prop}
    {next : Action (List τ) α} (within : Within disk good world) (proper : disk.tree.Proper)
    (held : world.disk.readText path = .ok text) (isGood : good thing) (mode : Mode)
    (newText : String) (goesOn : Keeps (Within disk good) fails next) :
    Ends (Within disk good) fails
      ((do
        Command.keep thing
        Action.writeIf mode path newText
        next : Action (List τ) α) world) := by
  obtain ⟨now, memory⟩ := world
  have kept : Command.keep thing ⟨now, memory⟩ = .ok () ⟨now, memory ++ [thing]⟩ := rfl
  have allGood : ∀ other ∈ memory ++ [thing], good other :=
    List.forall_mem_append.mpr ⟨within.good, List.forall_mem_singleton.mpr isGood⟩
  rw [Action.bind_of_ok kept]
  cases mode with
  | dryRun =>
    rw [Action.bind_of_ok (Action.writeIf_dryRun path newText _)]
    exact goesOn _ ⟨within.rewritten, allGood⟩
  | apply =>
    have nowProper : now.tree.Proper := within.proper proper
    have heldNow : now.readText path = .ok text := held
    obtain ⟨after, written, changes, overwritten, -⟩ :=
      Disk.accounts_writeText nowProper heldNow newText
    obtain ⟨before, (rewritten : now = disk.overwrite before)⟩ := within.rewritten
    rw [Action.bind_of_ok (Action.writeIf_apply_of_ok written)]
    refine goesOn _ ⟨⟨changes ++ before, ?_⟩, allGood⟩
    show after = disk.overwrite (changes ++ before)
    rw [overwritten, rewritten, Disk.overwrite, Disk.overwrite, Disk.overwrite,
      Node.overwrite_overwrite proper]

end Within

namespace Disk

/-- A path is listed among the files below a root. -/
def Lists (disk : Disk) (root path : Path) : Prop :=
  ∃ paths, disk.filesBelowRoot root = .ok paths ∧ path ∈ paths

variable {disk : Disk} {path root : Path} {fault : Fault}

theorem operational_of_readText (failed : disk.readText path = .error fault) :
    fault.Operational := by
  rw [readText] at failed
  split at failed
  · cases failed
    rfl
  · split at failed
    · cases failed
      rfl
    · cases failed

theorem operational_of_filesBelowRoot (isDirectory : disk.isDirectory root = true)
    (failed : disk.filesBelowRoot root = .error fault) : fault.Operational := by
  rw [filesBelowRoot, if_pos isDirectory, files] at failed
  split at failed
  · cases failed
    rfl
  · cases failed

theorem filesBelowRoot_of_not_isDirectory (notDirectory : disk.isDirectory root = false) :
    disk.filesBelowRoot root = .error (.rootNotDirectory root) := by
  rw [filesBelowRoot, notDirectory]
  rfl

end Disk

/-! ## Runs -/

namespace Redirector

variable {redirector : Redirector} {disk : Disk} {root : Path} {mode : Mode}

/-- What a run may be told about. -/
def MayTell (disk : Disk) (root : Path) (file : FileHits) : Prop :=
  file.OwnLines ∧ disk.Lists root file.path

theorem keeps_visit (proper : disk.tree.Proper) {paths : List Path}
    (listed : ∀ path ∈ paths, disk.Lists root path) :
    Keeps (Within disk (MayTell disk root)) Fault.Operational
      (redirector.visit root mode Command.keep paths) := by
  induction paths with
  | nil => exact keeps_pure []
  | cons path rest ih =>
    obtain ⟨isListed, restListed⟩ := List.forall_mem_cons.mp listed
    intro world within
    cases selected : redirector.selector.selects root path with
    | false =>
      rw [visit_unselected selected]
      exact ih restListed world within
    | true =>
      cases held : world.disk.readText path with
      | error fault =>
        rw [visit_unread selected held]
        exact .error within (Disk.operational_of_readText held)
      | ok text =>
        cases affected : redirector.redirectText path text with
        | none =>
          rw [visit_unaffected selected held affected]
          exact ih restListed world within
        | some redirected =>
          rw [visit_affected selected held affected]
          refine within.tell_write proper held ⟨ownLines_of_redirectText affected, isListed⟩ mode _
            ?_
          exact (ih restListed).bind fun files => keeps_pure _

theorem keeps_runWith (proper : disk.tree.Proper) (isDirectory : disk.isDirectory root = true) :
    Keeps (Within disk (MayTell disk root)) Fault.Operational
      (redirector.runWith root mode Command.keep) := by
  refine keeps_look_bind (fun world paths within listed => ?_) fun world fault within failed => ?_
  · rw [within.filesBelowRoot_eq] at listed
    exact (keeps_visit proper fun path member => ⟨paths, listed, member⟩).bind fun files =>
      keeps_pure _
  · rw [within.filesBelowRoot_eq] at failed
    exact Disk.operational_of_filesBelowRoot isDirectory failed

end Redirector

/-! ## Passes -/

namespace Substitution

variable {substitution : Substitution} {disk : Disk} {root : Path} {extensions : List String}
variable {mode : Mode}

theorem keeps_visit (proper : disk.tree.Proper) {paths : List Path}
    (listed : ∀ path ∈ paths, disk.Lists root path) :
    Keeps (Within disk (disk.Lists root)) Fault.Operational
      (substitution.visit mode Command.keep paths) := by
  induction paths with
  | nil => exact keeps_pure []
  | cons path rest ih =>
    obtain ⟨isListed, restListed⟩ := List.forall_mem_cons.mp listed
    intro world within
    cases held : world.disk.readText path with
    | error fault =>
      rw [visit_unread held]
      exact .error within (Disk.operational_of_readText held)
    | ok text =>
      by_cases present : holds text substitution.old
      · rw [visit_present held present]
        refine within.tell_write proper held isListed mode _ ?_
        exact (ih restListed).bind fun files => keeps_pure _
      · rw [visit_absent held present]
        exact ih restListed world within

theorem keeps_pass (proper : disk.tree.Proper) (isDirectory : disk.isDirectory root = true) :
    Keeps (Within disk (disk.Lists root)) Fault.Operational
      (substitution.pass root extensions mode Command.keep) := by
  refine keeps_look_bind (fun world paths within listed => ?_) fun world fault within failed => ?_
  · cases below : disk.filesBelowRoot root with
    | error fault =>
      have unlisted := (within.filesBelowRoot_eq root).trans below
      rw [Disk.candidates_of_unlisted unlisted] at listed
      cases listed
    | ok found =>
      rw [Disk.candidates, within.filesBelowRoot_eq, below] at listed
      cases listed
      refine (keeps_visit proper fun path member => ?_).bind fun files => keeps_pure _
      exact ⟨found, below, List.mem_of_mem_filter member⟩
  · cases below : disk.filesBelowRoot root with
    | error other =>
      have unlisted := (within.filesBelowRoot_eq root).trans below
      rw [Disk.candidates_of_unlisted unlisted] at failed
      cases failed
      exact Disk.operational_of_filesBelowRoot isDirectory below
    | ok found =>
      rw [Disk.candidates, within.filesBelowRoot_eq, below] at failed
      cases failed

theorem keeps_passes (proper : disk.tree.Proper) (isDirectory : disk.isDirectory root = true)
    (substitutions : List Substitution) :
    Keeps (Within disk (disk.Lists root)) Fault.Operational
      (passes root extensions mode Command.keep substitutions) := by
  induction substitutions with
  | nil => exact keeps_pure []
  | cons substitution rest ih =>
    exact (keeps_pass proper isDirectory).bind fun outcome => ih.bind fun others => keeps_pure _

end Substitution

/-! ## Commands -/

namespace Command

/-- How a command ends that keeps what it is told about. It was refused before it did anything, or
it went to work, and then only operational faults have ended it. -/
inductive Conduct {τ α : Type} (disk : Disk) (good : τ → Prop) :
    EStateM.Result Fault (World (List τ)) α → Prop
  | refused (fault : Fault) : Conduct disk good (.error fault ⟨disk, []⟩)
  | worked {result : EStateM.Result Fault (World (List τ)) α}
      (ends : Ends (Within disk good) Fault.Operational result) : Conduct disk good result

/-- A file that a command may be told about stands below its root. -/
def Lists (path : Option String) (disk : Disk) (file : Path) : Prop :=
  ∃ place, root path disk = .ok place ∧ disk.Lists place file

variable {disk : Disk}

/-- A command may be refused by what it looks at first. -/
theorem Conduct.look_bind {τ α β : Type} {good : τ → Prop} {question : Disk → Except Fault α}
    {next : α → Action (List τ) β}
    (answered : ∀ answer, question disk = .ok answer → Conduct disk good (next answer ⟨disk, []⟩)) :
    Conduct disk good ((Action.look question >>= next) ⟨disk, []⟩) := by
  cases seen : question disk with
  | ok answer =>
    have looked : (Action.look question : Action (List τ) α) ⟨disk, []⟩ = .ok answer ⟨disk, []⟩ :=
      Action.look_of_ok seen
    rw [Action.bind_of_ok looked]
    exact answered answer seen
  | error fault =>
    have looked : (Action.look question : Action (List τ) α) ⟨disk, []⟩ =
        .error fault ⟨disk, []⟩ := Action.look_of_error seen
    rw [Action.bind_of_error looked]
    exact .refused fault

/-- What follows may change the value, but nothing else. -/
theorem Conduct.bind_pure {τ α β : Type} {good : τ → Prop} {action : Action (List τ) α}
    (conduct : Conduct disk good (action ⟨disk, []⟩)) (result : α → β) :
    Conduct disk good ((action >>= fun value => pure (result value)) ⟨disk, []⟩) := by
  generalize ended : action ⟨disk, []⟩ = ending at conduct
  cases conduct with
  | refused fault =>
    rw [Action.bind_of_error ended]
    exact .refused fault
  | worked ends =>
    cases ends with
    | ok kept =>
      rw [Action.bind_of_ok ended]
      exact .worked (.ok kept)
    | error kept failed =>
      rw [Action.bind_of_error ended]
      exact .worked (.error kept failed)

theorem Conduct.mono {τ α : Type} {good better : τ → Prop}
    {result : EStateM.Result Fault (World (List τ)) α} (conduct : Conduct disk good result)
    (implies : ∀ thing, good thing → better thing) : Conduct disk better result := by
  have weaken (world : World (List τ)) (within : Within disk good world) :
      Within disk better world :=
    ⟨within.rewritten, fun thing member => implies thing (within.good thing member)⟩
  cases conduct with
  | refused fault => exact .refused fault
  | worked ends =>
    cases ends with
    | ok kept => exact .worked (.ok (weaken _ kept))
    | error kept failed => exact .worked (.error (weaken _ kept) failed)

/-- What was kept is good, wherever a command has ended. -/
theorem Conduct.good_of_ok {τ α : Type} {good : τ → Prop} {value : α} {after : World (List τ)}
    (conduct : Conduct disk good (.ok value after)) : ∀ thing ∈ after.memory, good thing := by
  cases conduct with
  | worked ends =>
    cases ends with
    | ok kept => exact kept.good

theorem Conduct.good_of_error {τ α : Type} {good : τ → Prop} {fault : Fault}
    {after : World (List τ)}
    (conduct : Conduct disk good (.error fault after : EStateM.Result Fault (World (List τ)) α)) :
    ∀ thing ∈ after.memory, good thing := by
  cases conduct with
  | refused fault => exact List.forall_mem_nil _
  | worked ends =>
    cases ends with
    | error kept failed => exact kept.good

theorem conduct_runWith (proper : disk.tree.Proper) (redirector : Redirector) (place : Path)
    (mode : Mode) :
    Conduct disk (Redirector.MayTell disk place)
      (redirector.runWith place mode keep ⟨disk, []⟩) := by
  cases isDirectory : disk.isDirectory place with
  | true => exact .worked (Redirector.keeps_runWith proper isDirectory _ (.start proper _))
  | false =>
    rw [Redirector.runWith_unlisted (Disk.filesBelowRoot_of_not_isDirectory isDirectory)]
    exact .refused _

theorem conduct_passes (proper : disk.tree.Proper) (place : Path) (extensions : List String)
    (mode : Mode) (substitutions : List Substitution) :
    Conduct disk (disk.Lists place)
      (Substitution.passes place extensions mode keep substitutions ⟨disk, []⟩) := by
  cases isDirectory : disk.isDirectory place with
  | true => exact .worked (Substitution.keeps_passes proper isDirectory _ _ (.start proper _))
  | false =>
    cases substitutions with
    | nil => exact .worked (.ok (.start proper _))
    | cons substitution rest =>
      have unlisted : disk.candidates extensions place = .error (.rootNotDirectory place) :=
        Disk.candidates_of_unlisted (Disk.filesBelowRoot_of_not_isDirectory isDirectory)
      have refused : substitution.pass place extensions mode keep ⟨disk, []⟩ =
          .error (.rootNotDirectory place) ⟨disk, []⟩ :=
        Action.bind_of_error (Action.look_of_error unlisted) _
      rw [Substitution.passes, Action.bind_of_error refused]
      exact .refused _

theorem conduct_redirecting (proper : disk.tree.Proper) (path config : Option String)
    (mode : Mode) :
    Conduct disk (fun file : FileHits => file.OwnLines ∧ Lists path disk file.path)
      (redirecting path config mode keep ⟨disk, []⟩) := by
  refine .look_bind fun place isRoot => .look_bind fun configuration _ => ?_
  refine .look_bind fun redirector _ => .bind_pure ?_ _
  exact (conduct_runWith proper redirector place mode).mono fun file may =>
    ⟨may.1, place, isRoot, may.2⟩

theorem conduct_substituting (proper : disk.tree.Proper) (path : Option String)
    (pair : Option (String × String)) (mode : Mode) :
    Conduct disk (Lists path disk) (substituting path pair mode keep ⟨disk, []⟩) := by
  refine .look_bind fun place isRoot => .look_bind fun substitutions _ => .bind_pure ?_ _
  exact (conduct_passes proper place _ mode substitutions).mono fun file listed =>
    ⟨place, isRoot, listed⟩

/-- The texts that a search looks for. -/
def needles (terms : List String) : List String :=
  if terms.isEmpty then Substitution.defaultTerms else terms

/-- The root of a search and what is found below it. -/
def searchResults (path : Option String) (terms : List String) (disk : Disk) :
    Except Fault (Path × List SearchMatch) :=
  match root path disk with
  | .error fault => .error fault
  | .ok place =>
    match disk.search place Substitution.defaultExtensions (needles terms) with
    | .error fault => .error fault
    | .ok results => .ok (place, results)

variable {μ : Type} {path : Option String} {terms : List String} {world : World μ}

/-- A search is over before anything is told. -/
theorem searching_of_ok {place : Path} {results : List SearchMatch}
    (found : searchResults path terms world.disk = .ok (place, results))
    (onMatch : SearchMatch → Action μ Unit) :
    searching path terms onMatch world =
      (tellAll onMatch results >>= fun _ =>
        pure (SearchMatch.responseJson? results place) : Action μ (Option Json)) world := by
  rw [searchResults] at found
  split at found
  · cases found
  · next isRoot =>
    split at found
    · cases found
    · next searched =>
      cases found
      rw [searching, Action.bind_of_ok (Action.look_of_ok isRoot)]
      exact Action.bind_of_ok (Action.look_of_ok searched) _

theorem searching_of_error {fault : Fault}
    (failed : searchResults path terms world.disk = .error fault)
    (onMatch : SearchMatch → Action μ Unit) :
    searching path terms onMatch world = .error fault world := by
  rw [searchResults] at failed
  rw [searching]
  split at failed
  · next isRoot =>
    cases failed
    exact Action.bind_of_error (Action.look_of_error isRoot) _
  · next isRoot =>
    rw [Action.bind_of_ok (Action.look_of_ok isRoot)]
    split at failed
    · next searched =>
      cases failed
      exact Action.bind_of_error (Action.look_of_error searched) _
    · cases failed

end Command

end Redirect
