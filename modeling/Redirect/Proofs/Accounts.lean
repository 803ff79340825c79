/-
# Every change is told about

A run or a pass that keeps the path of each file that it tells about has kept, at whatever point
it ends, a path to every file that it has overwritten; and it has changed nothing else. If it ends
well, these are the paths of the files that it has found.
-/

import Redirect.Proofs.Operation

namespace Redirect

namespace Disk

variable {disk middle after : Disk} {told more : List Path} {path : Path} {location : Location}

/-- A path leads to the file at a location. -/
def LeadsTo (disk : Disk) (path : Path) (location : Location) : Prop :=
  ∃ data, disk.resolve .reading path = .ok (.file location data)

/-- From one disk to another files were overwritten, and some paths lead to each of them. -/
def Accounts (disk : Disk) (told : List Path) (after : Disk) : Prop :=
  ∃ changes, after = disk.overwrite changes ∧
    ∀ change ∈ changes, ∃ path ∈ told, disk.LeadsTo path change.1

/-- The file at a location holds something else than before, or is gone. -/
def Changed (disk after : Disk) (location : Location) : Prop :=
  ∃ data, disk.tree.at? location = some (.file data) ∧
    after.tree.at? location ≠ some (.file data)

theorem changed_of_at? {old new : Bytes} (held : disk.tree.at? location = some (.file old))
    (now : after.tree.at? location = some (.file new)) (different : new ≠ old) :
    disk.Changed after location := by
  refine ⟨old, held, ?_⟩
  rw [now]
  exact fun same => different (Node.file.inj (Option.some.inj same))

/-- Overwriting files redirects no path. -/
theorem LeadsTo.of_overwrite {changes : List (Location × Bytes)}
    (leads : (disk.overwrite changes).LeadsTo path location) : disk.LeadsTo path location := by
  obtain ⟨data, led⟩ := leads
  rw [resolve_overwrite] at led
  cases before : disk.resolve .reading path with
  | error error =>
    rw [before] at led
    cases led
  | ok place =>
    rw [before] at led
    cases place with
    | file there held =>
      cases led
      exact ⟨held, before⟩
    | directory there entries => cases led
    | vacant there => cases led

theorem Accounts.refl (proper : disk.tree.Proper) (told : List Path) : disk.Accounts told disk :=
  ⟨[], (overwrite_nil proper).symm, List.forall_mem_nil _⟩

theorem Accounts.proper (accounts : disk.Accounts told after) (proper : disk.tree.Proper) :
    after.tree.Proper := by
  obtain ⟨changes, rfl, -⟩ := accounts
  exact proper.overwrite changes

theorem Accounts.mono (accounts : disk.Accounts told after) (within : told ⊆ more) :
    disk.Accounts more after := by
  obtain ⟨changes, overwritten, known⟩ := accounts
  refine ⟨changes, overwritten, fun change member => ?_⟩
  obtain ⟨path, isTold, leads⟩ := known change member
  exact ⟨path, within isTold, leads⟩

theorem Accounts.trans (accounts : disk.Accounts told middle) (proper : disk.tree.Proper)
    (later : middle.Accounts more after) : disk.Accounts (told ++ more) after := by
  obtain ⟨first, rfl, known⟩ := accounts
  obtain ⟨second, rfl, knownLater⟩ := later
  refine ⟨second ++ first, ?_, ?_⟩
  · rw [overwrite, overwrite, overwrite, Node.overwrite_overwrite proper]
  · intro change member
    rcases List.mem_append.mp member with member | member
    · obtain ⟨path, isTold, leads⟩ := knownLater change member
      exact ⟨path, List.mem_append_right told isTold, leads.of_overwrite⟩
    · obtain ⟨path, isTold, leads⟩ := known change member
      exact ⟨path, List.mem_append_left more isTold, leads⟩

/-- Some of the paths leads to a file that has changed. -/
theorem Accounts.of_changed (accounts : disk.Accounts told after)
    (changed : disk.Changed after location) : ∃ path ∈ told, disk.LeadsTo path location := by
  obtain ⟨changes, rfl, known⟩ := accounts
  obtain ⟨data, held, differs⟩ := changed
  rw [overwrite, Node.at?_overwrite_of_file held] at differs
  cases listed : changes.lookup location with
  | none =>
    rw [listed] at differs
    exact absurd rfl differs
  | some new =>
    obtain ⟨before, rest, rfl, -⟩ := List.lookup_eq_some_iff.mp listed
    exact known (location, new) (List.mem_append_right before List.mem_cons_self)

/-- A file that was read as a text can be written, and that changes no other file. -/
theorem accounts_writeText (proper : disk.tree.Proper) {text : String}
    (held : disk.readText path = .ok text) (newText : String) :
    ∃ after, disk.writeText path newText = .ok after ∧ disk.Accounts [path] after := by
  obtain ⟨data, got⟩ := exists_read_of_readText held
  obtain ⟨location, led⟩ := resolve_of_read got
  refine ⟨disk.overwrite [(location, Utf8.encode newText)], ?_, _, rfl, ?_⟩
  · rw [writeText, write_of_resolve led, overwrite,
      Node.set_eq_overwrite proper (stands_of_resolve led)]
  · rw [List.forall_mem_singleton]
    exact ⟨path, List.mem_singleton_self path, data, led⟩

end Disk

namespace Action

variable {α β : Type} {files : α → List Path → Prop} {disk middle : Disk}
variable {memory told : List Path}

/-- The end of an action: it has told about some paths, which account for what it has changed, and
has kept them; if it has ended well, its value belongs to them. -/
inductive Accounted (files : α → List Path → Prop) (disk : Disk) (memory : List Path) :
    EStateM.Result Fault (World (List Path)) α → Prop
  | ok {value : α} {told left : List Path} {after : Disk} (accounts : disk.Accounts told after)
      (kept : left = memory ++ told) (belongs : files value told) :
      Accounted files disk memory (.ok value ⟨after, left⟩)
  | error {fault : Fault} {told left : List Path} {after : Disk}
      (accounts : disk.Accounts told after) (kept : left = memory ++ told) :
      Accounted files disk memory (.error fault ⟨after, left⟩)

/-- An action accounts for what it changes on any disk. -/
def Accountable (files : α → List Path → Prop) (action : Action (List Path) α) : Prop :=
  ∀ disk memory, disk.tree.Proper → Accounted files disk memory (action ⟨disk, memory⟩)

/-- What was told about before counts, too. -/
theorem Accounted.after {result : EStateM.Result Fault (World (List Path)) α}
    (before : disk.Accounts told middle) (proper : disk.tree.Proper)
    (ends : Accounted (fun value more => files value (told ++ more)) middle (memory ++ told)
      result) : Accounted files disk memory result := by
  cases ends with
  | ok accounts kept belongs =>
    exact .ok (before.trans proper accounts) (kept.trans (List.append_assoc _ _ _)) belongs
  | error accounts kept =>
    exact .error (before.trans proper accounts) (kept.trans (List.append_assoc _ _ _))

theorem accountable_pure {value : α} (belongs : files value []) :
    Accountable files (pure value) :=
  fun _ memory proper => .ok (.refl proper []) (List.append_nil memory).symm belongs

theorem accountable_look (question : Disk → Except Fault α) :
    Accountable (fun _ told => told = []) (look question) := by
  intro disk memory proper
  cases answered : question disk with
  | ok answer =>
    rw [look_of_ok answered]
    exact .ok (.refl proper []) (List.append_nil memory).symm rfl
  | error fault =>
    rw [look_of_error answered]
    exact .error (.refl proper []) (List.append_nil memory).symm

/-- What goes on accountably after what was accountable. -/
theorem Accountable.bind {later : β → List Path → Prop} {first : Action (List Path) α}
    {next : α → Action (List Path) β} (accountable : Accountable files first)
    (goesOn : ∀ value told, files value told →
      Accountable (fun result more => later result (told ++ more)) (next value)) :
    Accountable later (first >>= next) := by
  intro disk memory proper
  have begun := accountable disk memory proper
  generalize ended : first ⟨disk, memory⟩ = result at begun
  cases begun with
  | ok accounts kept belongs =>
    rw [bind_of_ok ended, kept]
    exact .after accounts proper (goesOn _ _ belongs _ _ (accounts.proper proper))
  | error accounts kept =>
    rw [bind_of_error ended]
    exact .error accounts kept

/-- Telling about a file that was read and writing it, before an accountable action. -/
theorem Accountable.tell_write {path : Path} {text : String} {next : Action (List Path) α}
    (accountable : Accountable (fun value more => files value (path :: more)) next)
    (proper : disk.tree.Proper) (held : disk.readText path = .ok text) (mode : Mode)
    (newText : String) (memory : List Path) :
    Accounted files disk memory
      ((do
        Command.keep path
        writeIf mode path newText
        next : Action (List Path) α) ⟨disk, memory⟩) := by
  -- Reading and writing see the same disk, so the path leads to the file that is written.
  have kept : Command.keep path ⟨disk, memory⟩ = .ok () ⟨disk, memory ++ [path]⟩ := rfl
  rw [bind_of_ok kept]
  cases mode with
  | dryRun =>
    rw [bind_of_ok (writeIf_dryRun path newText _)]
    exact .after (.refl proper [path]) proper (accountable disk (memory ++ [path]) proper)
  | apply =>
    obtain ⟨after, written, accounts⟩ := Disk.accounts_writeText proper held newText
    rw [bind_of_ok (writeIf_apply_of_ok written)]
    exact .after accounts proper (accountable after (memory ++ [path]) (accounts.proper proper))

end Action

open Redirect.Action (Accountable Accounted accountable_pure accountable_look)

/-! ## Runs -/

namespace Redirector

variable {redirector : Redirector} {root : Path} {mode : Mode}

theorem accountable_visit (paths : List Path) :
    Accountable (fun files told => told = files.map FileHits.path)
      (redirector.visit root mode (fun file => Command.keep file.path) paths) := by
  induction paths with
  | nil => exact accountable_pure rfl
  | cons path rest ih =>
    intro disk memory proper
    cases selected : redirector.selector.selects root path with
    | false =>
      rw [visit_unselected selected]
      exact ih disk memory proper
    | true =>
      cases held : disk.readText path with
      | error fault =>
        rw [visit_unread selected held]
        exact .error (.refl proper []) (List.append_nil memory).symm
      | ok text =>
        cases affected : redirector.redirectText path text with
        | none =>
          rw [visit_unaffected selected held affected]
          exact ih disk memory proper
        | some redirected =>
          rw [visit_affected selected held affected]
          refine Accountable.tell_write ?_ proper held mode redirected.1 memory
          refine ih.bind fun files told found => accountable_pure ?_
          rw [found, List.append_nil, List.map_cons]

theorem accountable_runWith :
    Accountable (fun report told => told = report.files.map FileHits.path)
      (redirector.runWith root mode fun file => Command.keep file.path) := by
  refine (accountable_look _).bind fun paths _ nothing => ?_
  subst nothing
  refine (accountable_visit paths).bind fun files told found => accountable_pure ?_
  rw [found, List.nil_append, List.append_nil]

end Redirector

/-! ## Passes -/

namespace Substitution

variable {substitution : Substitution} {root : Path} {extensions : List String} {mode : Mode}

theorem accountable_visit (paths : List Path) :
    Accountable (fun files told => told = files)
      (substitution.visit mode Command.keep paths) := by
  induction paths with
  | nil => exact accountable_pure rfl
  | cons path rest ih =>
    intro disk memory proper
    cases held : disk.readText path with
    | error fault =>
      rw [visit_unread held]
      exact .error (.refl proper []) (List.append_nil memory).symm
    | ok text =>
      by_cases present : holds text substitution.old
      · rw [visit_present held present]
        refine Accountable.tell_write ?_ proper held mode _ memory
        refine ih.bind fun files told found => accountable_pure ?_
        rw [found, List.append_nil]
      · rw [visit_absent held present]
        exact ih disk memory proper

theorem accountable_pass :
    Accountable (fun outcome told => told = outcome.files)
      (substitution.pass root extensions mode Command.keep) := by
  refine (accountable_look _).bind fun paths _ nothing => ?_
  subst nothing
  refine (accountable_visit paths).bind fun files told found => accountable_pure ?_
  rw [found, List.nil_append, List.append_nil]

theorem accountable_passes (substitutions : List Substitution) :
    Accountable (fun outcomes told => told = outcomes.flatMap SubstitutionOutcome.files)
      (passes root extensions mode Command.keep substitutions) := by
  induction substitutions with
  | nil => exact accountable_pure rfl
  | cons substitution rest ih =>
    refine accountable_pass.bind fun outcome _ found => ?_
    subst found
    refine ih.bind fun outcomes _ others => accountable_pure ?_
    rw [others, List.append_nil, List.flatMap_cons]

end Substitution

/-! ## Operations -/

namespace Command

/-- The operation of a command has kept paths to all files that it has changed, wherever it ends,
and has found them if it ends well. -/
theorem accountable_operation (command : Command) :
    Accountable (fun found told => told ⊆ found) command.operation := by
  cases command with
  | redirect path write config =>
    refine (accountable_look _).bind fun root _ nothing => ?_
    subst nothing
    refine (accountable_look _).bind fun configuration _ nothing => ?_
    subst nothing
    refine (accountable_look _).bind fun redirector _ nothing => ?_
    subst nothing
    refine Redirector.accountable_runWith.bind fun report _ found => ?_
    subst found
    exact accountable_pure (by simp)
  | substitute path pair write =>
    refine (accountable_look _).bind fun root _ nothing => ?_
    subst nothing
    refine (accountable_look _).bind fun substitutions _ nothing => ?_
    subst nothing
    refine (Substitution.accountable_passes substitutions).bind fun outcomes _ found => ?_
    subst found
    exact accountable_pure (by simp)
  | search path terms =>
    refine (accountable_look _).bind fun root _ nothing => ?_
    subst nothing
    refine (accountable_look _).bind fun results _ nothing => ?_
    subst nothing
    exact accountable_pure (by simp)

end Command

end Redirect
