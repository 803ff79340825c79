/-
# When the standard output fails

In text form a command tells about a file before it writes it. So a command that cannot print ends
where it would print first, and up to there it has changed nothing: with a full output no file is
ever written. An output that nobody reads takes every text and changes nothing but what is kept of
them. In JSON form everything is done before anything is printed.
-/

import Redirect.Proofs.Operation

namespace Redirect

open Redirect.Action (Alike Anything)

namespace Action

variable {α β : Type} {action : Action Console α} {disk : Disk} {written kept : String}

/-- The world that an action leaves. -/
def left : EStateM.Result Fault (World Console) α → World Console
  | .ok _ world => world
  | .error _ world => world

theorem left_bind_of_ok {world after : World Console} {value : α}
    (done : action world = .ok value after) (next : α → Action Console β) :
    left ((action >>= next) world) = left (next value after) := by
  rw [bind_of_ok done]

theorem left_bind_of_error {world after : World Console} {fault : Fault}
    (failed : action world = .error fault after) (next : α → Action Console β) :
    left ((action >>= next) world) = after := by
  rw [bind_of_error failed]
  rfl

/-! ## What is printed stays printed -/

/-- On a working output, an action prints behind what was printed before. -/
def Appends (action : Action Console α) : Prop :=
  ∀ disk written, ∃ text,
    (left (action ⟨disk, ⟨.working, written⟩⟩)).memory = ⟨.working, written ++ text⟩

theorem appends_pure (value : α) : Appends (pure value) :=
  fun _ written => ⟨"", by rw [String.append_empty]; rfl⟩

theorem appends_writeIf (mode : Mode) (path : Path) (text : String) :
    Appends (writeIf mode path text) := by
  intro disk written
  refine ⟨"", ?_⟩
  rw [String.append_empty]
  cases mode with
  | dryRun => rfl
  | apply =>
    cases done : disk.writeText path text with
    | ok newDisk =>
      rw [writeIf_apply_of_ok done]
      rfl
    | error fault =>
      rw [writeIf_apply_of_error done]
      rfl

theorem Appends.bind {next : α → Action Console β} (appends : Appends action)
    (goesOn : ∀ value, Appends (next value)) : Appends (action >>= next) := by
  intro disk written
  obtain ⟨text, printed⟩ := appends disk written
  cases ended : action ⟨disk, ⟨.working, written⟩⟩ with
  | error fault after =>
    rw [ended] at printed
    exact ⟨text, by rw [left_bind_of_error ended]; exact printed⟩
  | ok value after =>
    rw [ended] at printed
    obtain ⟨newDisk, console⟩ := after
    cases printed
    obtain ⟨more, printedMore⟩ := goesOn value newDisk (written ++ text)
    refine ⟨text ++ more, ?_⟩
    rw [left_bind_of_ok ended, printedMore, String.append_assoc]

/-- Something was printed on a working output behind what it held. -/
def HasPrinted (written : String) (world : World Console) : Prop :=
  ∃ text, text ≠ "" ∧ world.memory = ⟨.working, written ++ text⟩

/-- It stays printed, whatever follows. -/
theorem HasPrinted.bind {start : World Console} (printed : HasPrinted written (left (action start)))
    {next : α → Action Console β} (appends : ∀ value, Appends (next value)) :
    HasPrinted written (left ((action >>= next) start)) := by
  cases ended : action start with
  | error fault after =>
    rw [ended] at printed
    rwa [left_bind_of_error ended]
  | ok value after =>
    rw [ended] at printed
    obtain ⟨newDisk, console⟩ := after
    obtain ⟨text, nonempty, rfl⟩ := printed
    obtain ⟨more, printedMore⟩ := appends value newDisk (written ++ text)
    refine ⟨text ++ more, fun empty => nonempty (String.append_eq_empty_iff.mp empty).1, ?_⟩
    rw [left_bind_of_ok ended, printedMore, String.append_assoc]

/-! ## Speaking first -/

/-- The end of an action on a working output beside its end on a full one. Either nothing was
printed and written, and both end alike; or something was printed, and where that should have
happened the full output has ended the action, with the disk as it was. -/
inductive Unheard (disk : Disk) (written kept : String) :
    EStateM.Result Fault (World Console) α → EStateM.Result Fault (World Console) α → Prop
  | ok (value : α) :
      Unheard disk written kept (.ok value ⟨disk, ⟨.working, written⟩⟩)
        (.ok value ⟨disk, ⟨.full, kept⟩⟩)
  | error (fault : Fault) :
      Unheard disk written kept (.error fault ⟨disk, ⟨.working, written⟩⟩)
        (.error fault ⟨disk, ⟨.full, kept⟩⟩)
  | refused {result : EStateM.Result Fault (World Console) α}
      (printed : HasPrinted written (left result)) :
      Unheard disk written kept result
        (.error (.outputRefused .outOfSpace) ⟨disk, ⟨.full, kept⟩⟩)

/-- An action prints before it writes, so it does nothing that it could not tell about. -/
def SpeaksFirst (action : Action Console α) : Prop :=
  ∀ disk written kept, Unheard disk written kept (action ⟨disk, ⟨.working, written⟩⟩)
    (action ⟨disk, ⟨.full, kept⟩⟩)

theorem SpeaksFirst.appends (speaks : SpeaksFirst action) : Appends action := by
  intro disk written
  have ends := speaks disk written ""
  generalize action ⟨disk, ⟨.working, written⟩⟩ = result at ends
  generalize action ⟨disk, ⟨.full, ""⟩⟩ = other at ends
  cases ends with
  | ok value => exact ⟨"", by rw [String.append_empty]; rfl⟩
  | error fault => exact ⟨"", by rw [String.append_empty]; rfl⟩
  | refused printed =>
    obtain ⟨text, -, isPrinted⟩ := printed
    exact ⟨text, isPrinted⟩

theorem speaksFirst_pure (value : α) : SpeaksFirst (pure value) :=
  fun _ _ _ => .ok value

theorem speaksFirst_look (question : Disk → Except Fault α) : SpeaksFirst (look question) := by
  intro disk written kept
  cases answered : question disk with
  | ok answer =>
    rw [look_of_ok answered, look_of_ok answered]
    exact .ok answer
  | error fault =>
    rw [look_of_error answered, look_of_error answered]
    exact .error fault

theorem SpeaksFirst.bind {next : α → Action Console β} (speaks : SpeaksFirst action)
    (goesOn : ∀ value, SpeaksFirst (next value)) : SpeaksFirst (action >>= next) := by
  intro disk written kept
  have begun := speaks disk written kept
  generalize ended : action ⟨disk, ⟨.working, written⟩⟩ = result at begun
  generalize otherEnded : action ⟨disk, ⟨.full, kept⟩⟩ = other at begun
  cases begun with
  | ok value =>
    rw [bind_of_ok ended, bind_of_ok otherEnded]
    exact goesOn value disk written kept
  | error fault =>
    rw [bind_of_error ended, bind_of_error otherEnded]
    exact .error fault
  | refused printed =>
    rw [bind_of_error otherEnded]
    rw [← ended] at printed
    exact .refused (printed.bind fun value => (goesOn value).appends)

end Action

open Redirect.Action (SpeaksFirst Appends speaksFirst_pure speaksFirst_look)

/-! ## Commands in text form -/

namespace Command

theorem print_full {text : String} (nonempty : text ≠ "") (kept : String) :
    Console.print ⟨.full, kept⟩ text = .error (.outputRefused .outOfSpace) := by
  rw [Console.print, if_neg (mt String.isEmpty_iff.mp nonempty)]

theorem hasPrinted_printText {text : String} (nonempty : text ≠ "") (disk : Disk)
    (written : String) :
    Action.HasPrinted written (Action.left (printText text ⟨disk, ⟨.working, written⟩⟩)) := by
  have printed : Console.print ⟨.working, written⟩ text = .ok ⟨.working, written ++ text⟩ :=
    print_working rfl text
  refine ⟨text, nonempty, ?_⟩
  simp only [printText, printed]
  rfl

/-- After a text that has to be printed first, an action need not speak first. -/
theorem speaksFirst_printText_bind {α : Type} {text : String} (nonempty : text ≠ "")
    {next : Unit → Action Console α} (appends : ∀ value, Appends (next value)) :
    SpeaksFirst (printText text >>= next) := by
  intro disk written kept
  have refused : printText text ⟨disk, ⟨.full, kept⟩⟩ =
      .error (.outputRefused .outOfSpace) ⟨disk, ⟨.full, kept⟩⟩ := by
    simp only [printText, print_full nonempty]
  rw [Action.bind_of_error refused]
  exact .refused ((hasPrinted_printText nonempty disk written).bind appends)

theorem speaksFirst_printText (text : String) : SpeaksFirst (printText text) := by
  by_cases empty : text = ""
  · subst empty
    exact fun _ _ _ => .ok ()
  · have alone := speaksFirst_printText_bind empty fun value => Action.appends_pure value
    rwa [bind_pure] at alone

end Command

open Redirect.Command (printText speaksFirst_printText speaksFirst_printText_bind)

theorem FileHits.text_ne_empty (file : FileHits) : file.text ≠ "" := by
  intro empty
  have characters := congrArg String.toList empty
  rw [text, String.toList_ofList, render] at characters
  simp at characters

theorem renderPaths_singleton_ne_empty (path : Path) : renderPaths [path] ≠ "" := by
  intro empty
  have characters := congrArg String.toList empty
  rw [renderPaths, String.toList_ofList] at characters
  simp at characters

theorem Redirector.speaksFirst_visit (redirector : Redirector) (root : Path) (mode : Mode)
    (paths : List Path) :
    SpeaksFirst (redirector.visit root mode (fun file => printText file.text) paths) := by
  induction paths with
  | nil => exact speaksFirst_pure []
  | cons path rest ih =>
    rw [visit]
    split
    · refine (speaksFirst_look _).bind fun text => ?_
      split
      · -- The file is told about before it is written.
        refine speaksFirst_printText_bind (FileHits.text_ne_empty _) fun _ => ?_
        refine (Action.appends_writeIf mode path _).bind fun _ => ?_
        exact ih.appends.bind fun _ => Action.appends_pure _
      · exact ih
    · exact ih

theorem Redirector.speaksFirst_runWith (redirector : Redirector) (root : Path) (mode : Mode) :
    SpeaksFirst (redirector.runWith root mode fun file => printText file.text) := by
  refine (speaksFirst_look _).bind fun paths => ?_
  exact (redirector.speaksFirst_visit root mode paths).bind fun _ => speaksFirst_pure _

namespace Substitution

theorem speaksFirst_visit (substitution : Substitution) (mode : Mode) (paths : List Path) :
    SpeaksFirst (substitution.visit mode (fun path => printText (renderPaths [path])) paths) := by
  induction paths with
  | nil => exact speaksFirst_pure []
  | cons path rest ih =>
    rw [visit]
    refine (speaksFirst_look _).bind fun text => ?_
    split
    · refine speaksFirst_printText_bind (renderPaths_singleton_ne_empty path) fun _ => ?_
      refine (Action.appends_writeIf mode path _).bind fun _ => ?_
      exact ih.appends.bind fun _ => Action.appends_pure _
    · exact ih

theorem speaksFirst_pass (substitution : Substitution) (root : Path) (extensions : List String)
    (mode : Mode) :
    SpeaksFirst (substitution.pass root extensions mode
      fun path => printText (renderPaths [path])) := by
  refine (speaksFirst_look _).bind fun paths => ?_
  exact (substitution.speaksFirst_visit mode paths).bind fun _ => speaksFirst_pure _

theorem speaksFirst_passes (root : Path) (extensions : List String) (mode : Mode)
    (substitutions : List Substitution) :
    SpeaksFirst (passes root extensions mode (fun path => printText (renderPaths [path]))
      substitutions) := by
  induction substitutions with
  | nil => exact speaksFirst_pure []
  | cons substitution rest ih =>
    refine (substitution.speaksFirst_pass root extensions mode).bind fun outcome => ?_
    exact ih.bind fun _ => speaksFirst_pure _

end Substitution

namespace Command

theorem speaksFirst_tellAll {α : Type} (describe : α → String) (things : List α) :
    SpeaksFirst (tellAll (fun thing => printText (describe thing)) things) := by
  induction things with
  | nil => exact speaksFirst_pure ()
  | cons first rest ih => exact (speaksFirst_printText _).bind fun _ => ih

/-- Every command in text form speaks first. -/
theorem speaksFirst_inText (command : Command) : SpeaksFirst command.inText := by
  cases command with
  | redirect path write config =>
    refine (speaksFirst_look _).bind fun root => (speaksFirst_look _).bind fun configuration => ?_
    refine (speaksFirst_look _).bind fun redirector => ?_
    exact (redirector.speaksFirst_runWith root _).bind fun _ => speaksFirst_pure _
  | substitute path pair write =>
    refine (speaksFirst_look _).bind fun root => (speaksFirst_look _).bind fun substitutions => ?_
    exact (Substitution.speaksFirst_passes root _ _ substitutions).bind fun _ => speaksFirst_pure _
  | search path terms =>
    refine (speaksFirst_look _).bind fun root => (speaksFirst_look _).bind fun results => ?_
    exact (speaksFirst_tellAll _ results).bind fun _ => speaksFirst_pure _

/-! ## An output that nobody reads -/

/-- Of two consoles one keeps what is printed, and the other one has lost it. -/
def Losing (console other : Console) : Prop :=
  console.output = .working ∧ other = .fresh .closed

theorem print_closed (text : String) :
    (Console.fresh .closed).print text = .ok (.fresh .closed) := by
  rw [Console.print]
  split <;> rfl

theorem alike_printText_losing (text : String) :
    Alike Anything Losing (printText text) (printText text) := by
  intro disk console other outputs
  obtain ⟨output, written⟩ := console
  obtain ⟨works, rfl⟩ := outputs
  cases works
  have taken : Console.print ⟨.working, written⟩ text = .ok ⟨.working, written ++ text⟩ :=
    print_working rfl text
  simp only [printText, taken, print_closed]
  exact .ok disk trivial ⟨rfl, rfl⟩

theorem alike_inText_losing (command : Command) :
    Alike Eq Losing command.inText command.inText := by
  cases command with
  | redirect path write config =>
    exact alike_redirecting_congr (fun _ _ => alike_printText_losing _) path config _
  | substitute path pair write =>
    exact alike_substituting_congr (fun _ => alike_printText_losing _) path pair _
  | search path terms =>
    exact alike_searching_congr (fun _ => alike_printText_losing _) path terms

theorem executeText_closed (command : Command) (disk : Disk) :
    command.executeText disk .closed =
      { command.executeText disk .working with stdout := "" } := by
  have agrees := command.alike_inText_losing disk (.fresh .working) (.fresh .closed) ⟨rfl, rfl⟩
  rw [executeText, executeText]
  generalize command.inText ⟨disk, .fresh .working⟩ = result at agrees
  generalize command.inText ⟨disk, .fresh .closed⟩ = other at agrees
  cases agrees with
  | ok after same related =>
    cases same
    cases related.2
    rfl
  | error fault after related =>
    cases related.2
    rfl

/-! ## A full output -/

theorem executeText_full (command : Command) (disk : Disk) :
    (command.executeText disk .full).disk = disk ∧
      ((command.executeText disk .working).stdout ≠ "" →
        (command.executeText disk .full).exitStatus = 1) ∧
      ((command.executeText disk .working).stdout = "" →
        command.executeText disk .full = command.executeText disk .working) := by
  have ends := command.speaksFirst_inText disk "" ""
  rw [executeText, executeText, Console.fresh, Console.fresh]
  generalize command.inText ⟨disk, ⟨.working, ""⟩⟩ = result at ends
  generalize command.inText ⟨disk, ⟨.full, ""⟩⟩ = other at ends
  cases ends with
  | ok data => exact ⟨rfl, fun printed => absurd rfl printed, fun _ => rfl⟩
  | error fault => exact ⟨rfl, fun printed => absurd rfl printed, fun _ => rfl⟩
  | refused printed =>
    obtain ⟨text, nonempty, isPrinted⟩ := printed
    rw [String.empty_append] at isPrinted
    refine ⟨rfl, fun _ => rfl, fun silent => ?_⟩
    cases result with
    | ok data after =>
      exact absurd ((congrArg Console.written isPrinted).symm.trans silent) nonempty
    | error fault after =>
      exact absurd ((congrArg Console.written isPrinted).symm.trans silent) nonempty

theorem executeJson_disk (command : Command) (disk : Disk) (output : Output) :
    (command.executeJson disk output).disk = (command.respond disk).2 := by
  simp only [executeJson]
  split <;> rfl

theorem executeJson_full (command : Command) (disk : Disk) :
    (command.executeJson disk .full).exitStatus = 1 := by
  have nonempty (text : String) : text ++ "\n" ≠ "" := fun empty =>
    absurd (String.append_eq_empty_iff.mp empty).2 (by decide)
  simp only [executeJson, Console.fresh, print_full (nonempty _)]
  rfl

/-- What a failing standard output does to a command. In text form, a full one leaves every file as
it was, even where changes were to be applied: if the command would have printed anything it exits
with status one, and otherwise it ends just as with a working one. An output that nobody reads
changes neither what becomes of the files nor the exit status. In JSON form the files never depend
on the output, and a full one is status one. -/
theorem nothing_written_unheard (command : Command) (disk : Disk) :
    let inText := fun output => (Request.invoke ⟨false, command⟩).execute disk output
    let inJson := fun output => (Request.invoke ⟨true, command⟩).execute disk output
    ((inText .full).disk = disk ∧
      ((inText .working).stdout ≠ "" → (inText .full).exitStatus = 1) ∧
      ((inText .working).stdout = "" → inText .full = inText .working)) ∧
    ((inText .closed).disk = (inText .working).disk ∧
      (inText .closed).exitStatus = (inText .working).exitStatus) ∧
    (∀ output, (inJson output).disk = (inJson .working).disk) ∧
    (inJson .full).exitStatus = 1 := by
  refine ⟨command.executeText_full disk, ?_, fun output => ?_, command.executeJson_full disk⟩
  · show (command.executeText disk .closed).disk = _ ∧
      (command.executeText disk .closed).exitStatus = _
    rw [executeText_closed]
    exact ⟨rfl, rfl⟩
  · exact (command.executeJson_disk disk output).trans (command.executeJson_disk disk .working).symm

end Command

end Redirect
