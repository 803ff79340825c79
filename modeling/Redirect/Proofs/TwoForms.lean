/-
# Text form and JSON form say the same

In text form a command prints each thing as it is told about; in JSON form it keeps all of them for
one envelope at the end, or for the details of its error. Whatever way the two go and wherever they
stop, the first has printed what the second has kept. Where names are texts everything that is kept
has a form in JSON, so the printed text can be read off the envelope.
-/

import Redirect.Proofs.Envelopes
import Redirect.Proofs.Reading
import Redirect.Proofs.Stages
import Redirect.Proofs.TextNames

namespace Redirect

open Redirect.Action (Alike Anything)
open Utf8 (Encoded)

/-! ## Reading values back -/

namespace Json

variable {α β : Type}

/-- The natural number that a number is. -/
def nat? : Json → Option Nat
  | .number ⟨false, whole, [], none⟩ => some whole
  | _ => none

/-- What is read from a member of an object. -/
def field? (key : String) (read : Json → Option α) (value : Json) : Option α :=
  (value.member? key).bind read

theorem field?_of_member? {key : String} {value found : Json}
    (held : value.member? key = some found) (read : Json → Option α) :
    value.field? key read = read found := by
  rw [field?, held]
  rfl

/-- Things of which each is read back from its own form are read back from all their forms. -/
theorem mapM_bind_mapM {json? : α → Option Json} {read : Json → Option β} {view : α → β}
    {things : List α} (back : ∀ thing ∈ things, (json? thing).bind read = some (view thing)) :
    (things.mapM json?).bind (List.mapM read) = some (things.map view) := by
  induction things with
  | nil => rfl
  | cons thing rest ih =>
    obtain ⟨backFirst, backRest⟩ := List.forall_mem_cons.mp back
    obtain ⟨element, made, readFirst⟩ := Option.bind_eq_some_iff.mp backFirst
    obtain ⟨elements, madeRest, readRest⟩ := Option.bind_eq_some_iff.mp (ih backRest)
    rw [List.mapM_cons, made, madeRest]
    show (element :: elements).mapM read = _
    rw [List.mapM_cons, readFirst, readRest]
    rfl

/-- And from the array of them. -/
theorem array_bind_elements? {json? : α → Option Json} {read : Json → Option β} {view : α → β}
    {things : List α} (back : ∀ thing ∈ things, (json? thing).bind read = some (view thing)) :
    ((things.mapM json?).map Json.array).bind (elements? read) = some (things.map view) := by
  rw [Option.bind_map]
  exact mapM_bind_mapM back

end Json

open Json (elements? field? field?_of_member? array_bind_elements? mapM_bind_mapM)

/-- The path that a string spells. -/
def Path.ofJson? (value : Json) : Option Path :=
  value.text?.map .ofText

/-- The redirected line that an object stands for. -/
def Hit.ofJson? (value : Json) : Option Hit := do
  let path ← value.field? "path" Path.ofJson?
  let line ← value.field? "line" Json.nat?
  let before ← value.field? "original" Json.text?
  some ⟨path, line, before⟩

/-- The file with its redirected lines that an object stands for. -/
def FileHits.ofJson? (value : Json) : Option FileHits := do
  let path ← value.field? "path" Path.ofJson?
  let hits ← value.field? "hits" (elements? Hit.ofJson?)
  some ⟨path, hits⟩

theorem Path.json?_bind_ofJson? {path : Path} (encoded : Encoded path.bytes) :
    path.json?.bind ofJson? = some path := by
  obtain ⟨text, spelled, back⟩ := exists_text?_of_encoded encoded
  rw [json?, spelled]
  exact congrArg some back

theorem Path.listJson?_bind_elements? {paths : List Path}
    (encoded : ∀ path ∈ paths, Encoded path.bytes) :
    (listJson? paths).bind (elements? ofJson?) = some paths := by
  rw [listJson?, array_bind_elements? fun path member => json?_bind_ofJson? (encoded path member),
    List.map_id']

theorem Hit.json?_bind_ofJson? {hit : Hit} (encoded : Encoded hit.path.bytes) :
    hit.json?.bind ofJson? = some hit := by
  obtain ⟨path, made, back⟩ := Option.bind_eq_some_iff.mp (Path.json?_bind_ofJson? encoded)
  rw [json?, made]
  show ofJson? (.ofMembers _) = _
  rw [ofJson?, field?_of_member? (Json.member?_ofMembers _ _), back,
    field?_of_member? (Json.member?_ofMembers _ _), field?_of_member? (Json.member?_ofMembers _ _)]
  rfl

theorem FileHits.json?_bind_ofJson? {file : FileHits} (own : file.OwnLines)
    (encoded : Encoded file.path.bytes) : file.json?.bind ofJson? = some file := by
  have lines : ∀ hit ∈ file.hits, hit.json?.bind Hit.ofJson? = some hit := fun hit member =>
    Hit.json?_bind_ofJson? (own hit member ▸ encoded)
  obtain ⟨path, made, back⟩ := Option.bind_eq_some_iff.mp (Path.json?_bind_ofJson? encoded)
  obtain ⟨hits, madeHits, backHits⟩ := Option.bind_eq_some_iff.mp (mapM_bind_mapM lines)
  rw [json?, made, madeHits]
  show ofJson? (.ofMembers _) = _
  rw [ofJson?, field?_of_member? (Json.member?_ofMembers _ _), back,
    field?_of_member? (Json.member?_ofMembers _ _)]
  show ((hits.mapM Hit.ofJson?).bind fun hits => some (⟨file.path, hits⟩ : FileHits)) = _
  rw [backHits, List.map_id']
  rfl

theorem FileHits.listJson?_bind_elements? {files : List FileHits}
    (good : ∀ file ∈ files, file.OwnLines ∧ Encoded file.path.bytes) :
    (listJson? files).bind (elements? ofJson?) = some files := by
  rw [listJson?, array_bind_elements? fun file member =>
    json?_bind_ofJson? (good file member).1 (good file member).2, List.map_id']

/-! ## What an envelope says was printed -/

/-- The text of a report on some files. -/
def renderReport (files : List FileHits) : String :=
  (⟨files, false⟩ : Report).text

theorem renderReport_append (files : List FileHits) (file : FileHits) :
    renderReport (files ++ [file]) = renderReport files ++ file.text := by
  rw [renderReport, renderReport, Report.text, Report.text, FileHits.text, List.flatMap_append,
    List.flatMap_singleton, String.ofList_append]

theorem renderPaths_append (paths others : List Path) :
    renderPaths (paths ++ others) = renderPaths paths ++ renderPaths others := by
  rw [renderPaths, renderPaths, renderPaths, List.flatMap_append, String.ofList_append]

theorem renderPaths_flatten (lists : List (List Path)) :
    renderPaths lists.flatten = String.join (lists.map renderPaths) := by
  induction lists with
  | nil => rfl
  | cons paths rest ih =>
    rw [List.flatten_cons, renderPaths_append, ih, List.map_cons, String.join_cons]

namespace Command

/-- The listings of the files that each object under a key names, one after the other. -/
def listings? (key : String) (data : Json) : Option String :=
  (data.field? key (elements? (field? "files" (elements? Path.ofJson?)))).map fun lists =>
    String.join (lists.map renderPaths)

/-- The text that a command prints where its data are these. -/
def printedData? : Command → Json → Option String
  | .redirect .., data => (data.field? "files" (elements? FileHits.ofJson?)).map renderReport
  | .substitute .., data => listings? "rules" data
  | .search .., data => listings? "matches" data

/-- The text that a command has printed where it fails and these are the files reported before. -/
def printedReported? : Command → Json → Option String
  | .redirect .., files => (elements? FileHits.ofJson? files).map renderReport
  | .substitute .., files | .search .., files =>
    (elements? Path.ofJson? files).map renderPaths

/-- The text that a command has printed where this is its envelope: its data say so or, where it
has failed, the files that the details of the error report; nothing was printed where they report
none. -/
def printed? (command : Command) (envelope : Json) : Option String :=
  match envelope.member? "data" with
  | some data => command.printedData? data
  | none =>
    match envelope.field? "error" (field? "details" (Json.member? "reportedFiles")) with
    | some files => command.printedReported? files
    | none => some ""

/-! ## Printing and keeping -/

/-- A working console shows what was kept. -/
def Transcript {τ : Type} (render : List τ → String) (console : Console) (things : List τ) : Prop :=
  console = ⟨.working, render things⟩

theorem printText_working (text : String) (disk : Disk) (written : String) :
    printText text ⟨disk, ⟨.working, written⟩⟩ = .ok () ⟨disk, ⟨.working, written ++ text⟩⟩ := by
  simp only [printText, print_working]

theorem alike_printText_keep {τ : Type} {render : List τ → String} {text : String} {thing : τ}
    (adds : ∀ things, render (things ++ [thing]) = render things ++ text) :
    Alike Anything (Transcript render) (printText text) (keep thing) := by
  rintro disk _ things rfl
  have printed := printText_working text disk (render things)
  rw [printed]
  exact .ok disk trivial (by rw [Transcript, adds])

/-- Printing one thing after the other on a working console. -/
theorem tellAll_printText {τ : Type} (text : τ → String) (things : List τ) (disk : Disk)
    (written : String) :
    tellAll (fun thing => printText (text thing)) things ⟨disk, ⟨.working, written⟩⟩ =
      .ok () ⟨disk, ⟨.working, written ++ String.join (things.map text)⟩⟩ := by
  induction things generalizing written with
  | nil =>
    rw [List.map_nil, String.join_nil, String.append_empty]
    rfl
  | cons first rest ih =>
    rw [tellAll, Action.bind_of_ok (printText_working (text first) disk written), ih,
      List.map_cons, String.join_cons, String.append_assoc]

theorem tellAll_pure {τ μ : Type} (things : List τ) (world : World μ) :
    tellAll (fun _ => pure ()) things world = .ok () world := by
  induction things with
  | nil => rfl
  | cons first rest ih => exact ih

variable {command : Command} {disk : Disk}

/-- The outcome in text form says the same as a response in JSON form that leaves some disk. -/
structure SaysSame (command : Command) (outcome : Outcome) (response : Response) (left : Disk) :
    Prop where
  disk : outcome.disk = left
  exitStatus : outcome.exitStatus = response.exitStatus
  printed : command.printed? response.envelope = some outcome.stdout

section Keeping

variable {τ : Type} {action : Action (List τ) (Option Json)} {describe : List τ → Option Json}
variable {render : List τ → String}

theorem exitStatus_noticeAfter (fault : Fault) (things : List τ)
    (describe : List τ → Option Json) : (noticeAfter fault things describe).exitStatus =
      fault.exitStatus := by
  rw [noticeAfter]
  split
  · rfl
  · rw [Notice.withDetail]
    split <;> rfl

/-- The envelope of a failure shows what its details report. -/
theorem printed?_error (notice : Notice) :
    command.printed? (Response.envelope (.error notice)) =
      match notice.details.member? "reportedFiles" with
      | some files => command.printedReported? files
      | none => some "" :=
  rfl

/-- The envelope of a failure shows nothing where nothing was kept. -/
theorem printed?_notice (fault : Fault) :
    command.printed? (Response.envelope (.error fault.notice)) = some "" := by
  rw [printed?_error, fault.member?_reportedFiles]

/-- The envelope of a failure shows what was kept before it. -/
theorem printed?_noticeAfter (fault : Fault) {things : List τ} (empty : render [] = "")
    (reported : (describe things).bind command.printedReported? = some (render things)) :
    command.printed? (Response.envelope (.error (noticeAfter fault things describe))) =
      some (render things) := by
  cases things with
  | nil =>
    rw [empty]
    exact printed?_notice fault
  | cons first rest =>
    obtain ⟨files, made, back⟩ := Option.bind_eq_some_iff.mp reported
    have listed : (noticeAfter fault (first :: rest) describe).details.member? "reportedFiles" =
        some files := by
      rw [noticeAfter, made]
      exact fault.notice.member?_withDetail "reportedFiles" files
    rw [printed?_error, listed]
    exact back

/-- A command that prints what another form of it keeps says the same, where what was kept can be
read back from the data or from the details. -/
theorem saysSame_of_alike (alike : Alike Eq (Transcript render) command.inText action)
    (empty : render [] = "")
    (answered : ∀ data after, action ⟨disk, []⟩ = .ok data after →
      data.bind command.printedData? = some (render after.memory))
    (reported : ∀ fault after, action ⟨disk, []⟩ = .error fault after →
      (describe after.memory).bind command.printedReported? = some (render after.memory)) :
    command.SaysSame (command.executeText disk .working) (respondKeeping action describe disk).1
      (respondKeeping action describe disk).2 := by
  have fresh : Console.fresh .working = ⟨.working, render []⟩ := by
    rw [empty]
    rfl
  have agrees := alike disk _ [] rfl
  rw [executeText, respondKeeping, fresh]
  generalize command.inText ⟨disk, ⟨.working, render []⟩⟩ = textEnded at agrees
  generalize ended : action ⟨disk, []⟩ = result at agrees
  cases agrees with
  | ok left same related =>
    cases same
    cases related
    have back := answered _ _ ended
    obtain ⟨data, rfl, back⟩ := Option.bind_eq_some_iff.mp back
    exact ⟨rfl, rfl, back⟩
  | error fault left related =>
    cases related
    exact ⟨rfl, (exitStatus_noticeAfter fault _ describe).symm,
      printed?_noticeAfter fault empty (reported _ _ ended)⟩

end Keeping

/-! ## Redirecting -/

theorem memory_of_runWith {redirector : Redirector} {root : Path} {mode : Mode} {report : Report}
    {after : World (List FileHits)}
    (ended : redirector.runWith root mode keep ⟨disk, []⟩ = .ok report after) :
    after.memory = report.files := by
  cases listed : disk.filesBelowRoot root with
  | error fault =>
    rw [Redirector.runWith_unlisted listed] at ended
    cases ended
  | ok paths =>
    have reaches := ((Redirector.runWith_eq_ok_iff listed report after).mp ended).1
    have records (file : FileHits) (world after : World (List FileHits))
        (kept : keep file world = .ok () after) : id after.memory = id world.memory ++ [file] := by
      cases kept
      rfl
    exact Redirector.record_of_reaches records reaches

/-- The data of a command that redirects calls report what it has kept. -/
theorem exists_report_of_redirecting {path config : Option String} {mode : Mode}
    {data : Option Json} {after : World (List FileHits)}
    (ended : redirecting path config mode keep ⟨disk, []⟩ = .ok data after) :
    ∃ report : Report, ∃ root ruleCount,
      data = report.json? root ruleCount ∧ after.memory = report.files := by
  obtain ⟨root, -, ended⟩ := Action.exists_of_look_bind_eq_ok ended
  obtain ⟨configuration, -, ended⟩ := Action.exists_of_look_bind_eq_ok ended
  obtain ⟨redirector, -, ended⟩ := Action.exists_of_look_bind_eq_ok ended
  obtain ⟨report, left, ran, ended⟩ := Action.exists_of_bind_eq_ok ended
  cases ended
  exact ⟨report, root, redirector.rules.length, rfl, memory_of_runWith ran⟩

theorem printedData?_report {path config : Option String} {write : Bool} {report : Report}
    (good : ∀ file ∈ report.files, file.OwnLines ∧ Encoded file.path.bytes) (root : Path)
    (ruleCount : Nat) :
    (report.json? root ruleCount).bind (redirect path write config).printedData? =
      some (renderReport report.files) := by
  obtain ⟨files, made, back⟩ := Option.bind_eq_some_iff.mp (FileHits.listJson?_bind_elements? good)
  rw [Report.json?, made]
  show ((Json.ofMembers _).field? "files" (elements? FileHits.ofJson?)).map renderReport = _
  rw [field?_of_member? (Json.member?_ofMembers _ _), back]
  rfl

theorem alike_inText_redirect (path config : Option String) (write : Bool) :
    Alike Eq (Transcript renderReport) (redirect path write config).inText
      (redirecting path config (.ofFlag write) keep) :=
  alike_redirecting_congr (fun file _ => alike_printText_keep fun files =>
    renderReport_append files file) path config (.ofFlag write)

theorem saysSame_redirect (proper : disk.tree.Proper) (named : disk.tree.NamedByTexts)
    (path config : Option String) (write : Bool) :
    (redirect path write config).SaysSame
      ((redirect path write config).executeText disk .working)
      ((redirect path write config).respond disk).1
      ((redirect path write config).respond disk).2 := by
  have conduct := (conduct_redirecting proper path config (.ofFlag write)).mono fun file good =>
    And.intro good.1 (good.2.encoded proper named)
  refine saysSame_of_alike (alike_inText_redirect path config write) rfl
    (fun data after ended => ?_) fun fault after ended => ?_
  · obtain ⟨report, root, ruleCount, rfl, kept⟩ := exists_report_of_redirecting ended
    have good := Conduct.good_of_ok (ended ▸ conduct)
    rw [kept] at good ⊢
    exact printedData?_report good root ruleCount
  · have good := Conduct.good_of_error (ended ▸ conduct)
    obtain ⟨files, made, back⟩ :=
      Option.bind_eq_some_iff.mp (FileHits.listJson?_bind_elements? good)
    rw [made]
    exact congrArg (Option.map renderReport) back

/-! ## Replacing -/

theorem memory_of_passes (proper : disk.tree.Proper) {root : Path} {extensions : List String}
    {mode : Mode} {substitutions : List Substitution} {outcomes : List SubstitutionOutcome}
    {after : World (List Path)}
    (passed : Substitution.passes root extensions mode keep substitutions ⟨disk, []⟩ =
      .ok outcomes after) : after.memory = outcomes.flatMap SubstitutionOutcome.files := by
  have accounted : Action.Accounted _ disk [] (.ok outcomes after) :=
    passed ▸ Substitution.accountable_passes substitutions disk [] proper
  cases accounted with
  | ok accounts kept belongs => rw [kept, belongs, List.nil_append]

/-- The data of a command that replaces texts report what it has kept. -/
theorem exists_outcomes_of_substituting (proper : disk.tree.Proper) {path : Option String}
    {pair : Option (String × String)} {mode : Mode} {data : Option Json}
    {after : World (List Path)}
    (ended : substituting path pair mode keep ⟨disk, []⟩ = .ok data after) :
    ∃ outcomes root, data = SubstitutionOutcome.responseJson? outcomes root mode ∧
      after.memory = outcomes.flatMap SubstitutionOutcome.files := by
  obtain ⟨root, -, ended⟩ := Action.exists_of_look_bind_eq_ok ended
  obtain ⟨substitutions, -, ended⟩ := Action.exists_of_look_bind_eq_ok ended
  obtain ⟨outcomes, left, passed, ended⟩ := Action.exists_of_bind_eq_ok ended
  cases ended
  exact ⟨outcomes, root, rfl, memory_of_passes proper passed⟩

/-- Listings are read back from the objects that were made for them. -/
theorem bind_listings? {α : Type} {json? : α → Option Json} {filesOf : α → List Path}
    {things : List α} {key : String} {build : List Json → Json}
    (back : ∀ thing ∈ things,
      (json? thing).bind (field? "files" (elements? Path.ofJson?)) = some (filesOf thing))
    (held : ∀ elements, (build elements).member? key = some (.array elements)) :
    ((things.mapM json?).bind fun elements => some (build elements)).bind (listings? key) =
      some (renderPaths (things.flatMap filesOf)) := by
  obtain ⟨elements, made, back⟩ := Option.bind_eq_some_iff.mp (mapM_bind_mapM back)
  have read : (build elements).field? key (elements? (field? "files" (elements? Path.ofJson?))) =
      some (things.map filesOf) :=
    (field?_of_member? (held elements) _).trans back
  rw [made]
  show ((build elements).field? key _).map _ = _
  rw [read, Option.map_some, List.flatMap_def, renderPaths_flatten]

theorem SubstitutionOutcome.json?_bind_field? {outcome : SubstitutionOutcome}
    (encoded : ∀ path ∈ outcome.files, Encoded path.bytes) :
    outcome.json?.bind (field? "files" (elements? Path.ofJson?)) = some outcome.files := by
  obtain ⟨files, made, back⟩ := Option.bind_eq_some_iff.mp (Path.listJson?_bind_elements? encoded)
  rw [SubstitutionOutcome.json?, made]
  exact (field?_of_member? (Json.member?_ofMembers _ _) _).trans back

theorem alike_inText_substitute (path : Option String) (pair : Option (String × String))
    (write : Bool) :
    Alike Eq (Transcript renderPaths) (substitute path pair write).inText
      (substituting path pair (.ofFlag write) keep) :=
  alike_substituting_congr (fun file => alike_printText_keep fun files =>
    renderPaths_append files [file]) path pair (.ofFlag write)

theorem saysSame_substitute (proper : disk.tree.Proper) (named : disk.tree.NamedByTexts)
    (path : Option String) (pair : Option (String × String)) (write : Bool) :
    (substitute path pair write).SaysSame
      ((substitute path pair write).executeText disk .working)
      ((substitute path pair write).respond disk).1
      ((substitute path pair write).respond disk).2 := by
  have conduct := (conduct_substituting proper path pair (.ofFlag write)).mono fun file lists =>
    lists.encoded proper named
  refine saysSame_of_alike (alike_inText_substitute path pair write) rfl
    (fun data after ended => ?_) fun fault after ended => ?_
  · obtain ⟨outcomes, root, rfl, kept⟩ := exists_outcomes_of_substituting proper ended
    have good := Conduct.good_of_ok (ended ▸ conduct)
    rw [kept] at good ⊢
    refine bind_listings? (fun outcome member => SubstitutionOutcome.json?_bind_field? ?_)
      fun rules => Json.member?_ofMembers _ _
    exact fun file isFound => good file (List.mem_flatMap.mpr ⟨outcome, member, isFound⟩)
  · have good := Conduct.good_of_error (ended ▸ conduct)
    obtain ⟨files, made, back⟩ := Option.bind_eq_some_iff.mp (Path.listJson?_bind_elements? good)
    rw [made]
    exact congrArg (Option.map renderPaths) back

end Command

/-! ## Searching -/

namespace Disk

variable {disk : Disk} {root : Path} {extensions needles : List String}

theorem subset_of_holding {needle : String} {paths found : List Path}
    (held : disk.holding needle paths = .ok found) : found ⊆ paths := by
  induction paths generalizing found with
  | nil =>
    cases held
    exact List.Subset.refl []
  | cons path rest ih =>
    obtain ⟨text, -, held⟩ := exists_of_except_bind_eq_ok held
    obtain ⟨others, later, held⟩ := exists_of_except_bind_eq_ok held
    cases held
    split
    · exact List.cons_subset_cons path (ih later)
    · exact List.subset_cons_of_subset path (ih later)

theorem lists_of_candidates {paths : List Path}
    (found : disk.candidates extensions root = .ok paths) :
    ∀ path ∈ paths, disk.Lists root path := by
  obtain ⟨all, listed, found⟩ := exists_of_except_bind_eq_ok found
  cases found
  exact fun path member => ⟨all, listed, List.mem_of_mem_filter member⟩

/-- A search finds files below its root. -/
theorem lists_of_search {results : List SearchMatch}
    (searched : disk.search root extensions needles = .ok results) :
    ∀ found ∈ results, ∀ path ∈ found.files, disk.Lists root path := by
  induction needles generalizing results with
  | nil =>
    cases searched
    exact List.forall_mem_nil _
  | cons needle rest ih =>
    obtain ⟨paths, candidates, searched⟩ := exists_of_except_bind_eq_ok searched
    obtain ⟨files, held, searched⟩ := exists_of_except_bind_eq_ok searched
    obtain ⟨others, later, searched⟩ := exists_of_except_bind_eq_ok searched
    cases searched
    refine List.forall_mem_cons.mpr ⟨fun path member => ?_, ih later⟩
    exact lists_of_candidates candidates path (subset_of_holding held member)

end Disk

namespace Command

variable {disk : Disk}

theorem SearchMatch.json?_bind_field? {found : SearchMatch}
    (encoded : ∀ path ∈ found.files, Encoded path.bytes) :
    found.json?.bind (field? "files" (elements? Path.ofJson?)) = some found.files := by
  obtain ⟨files, made, back⟩ := Option.bind_eq_some_iff.mp (Path.listJson?_bind_elements? encoded)
  rw [SearchMatch.json?, made]
  exact (field?_of_member? (Json.member?_ofMembers _ _) _).trans back

theorem encoded_of_searchResults (proper : disk.tree.Proper) (named : disk.tree.NamedByTexts)
    {path : Option String} {terms : List String} {place : Path} {results : List SearchMatch}
    (searched : searchResults path terms disk = .ok (place, results)) :
    ∀ found ∈ results, ∀ file ∈ found.files, Encoded file.bytes := by
  rw [searchResults] at searched
  split at searched
  · cases searched
  · next isRoot =>
    split at searched
    · cases searched
    · next ended =>
      cases searched
      intro found member file isFound
      exact (Disk.lists_of_search ended found member file isFound).encoded proper named
        (encoded_root named isRoot)

theorem bind_printedData?_matches (path : Option String) (terms : List String)
    {results : List SearchMatch}
    (encoded : ∀ found ∈ results, ∀ file ∈ found.files, Encoded file.bytes) (place : Path) :
    (SearchMatch.responseJson? results place).bind (search path terms).printedData? =
      some (renderPaths (results.flatMap SearchMatch.files)) :=
  bind_listings? (fun found member => SearchMatch.json?_bind_field? (encoded found member))
    fun _ => Json.member?_ofMembers _ _

/-- What a search prints is a listing of all files that it has found. -/
theorem inText_search {path : Option String} {terms : List String} {place : Path}
    {results : List SearchMatch} (searched : searchResults path terms disk = .ok (place, results)) :
    (search path terms).inText ⟨disk, .fresh .working⟩ =
      .ok (SearchMatch.responseJson? results place)
        ⟨disk, ⟨.working, renderPaths (results.flatMap SearchMatch.files)⟩⟩ := by
  have printed := tellAll_printText (fun found : SearchMatch => renderPaths found.files) results
    disk ""
  have listing : "" ++ String.join (results.map fun found => renderPaths found.files) =
      renderPaths (results.flatMap SearchMatch.files) := by
    rw [String.empty_append, List.flatMap_def, renderPaths_flatten, List.map_map]
    rfl
  rw [listing] at printed
  exact (searching_of_ok searched _).trans (Action.bind_of_ok printed _)

theorem inText_search_of_error {path : Option String} {terms : List String} {fault : Fault}
    {output : Output} (failed : searchResults path terms disk = .error fault) :
    (search path terms).inText ⟨disk, .fresh output⟩ = .error fault ⟨disk, .fresh output⟩ :=
  searching_of_error failed _

theorem respond_search {path : Option String} {terms : List String} {place : Path}
    {results : List SearchMatch} (searched : searchResults path terms disk = .ok (place, results)) :
    (search path terms).respond disk =
      (.ofData (SearchMatch.responseJson? results place), disk) := by
  have ended : searching path terms (fun _ => pure ()) ⟨disk, ([] : List Path)⟩ =
      .ok (SearchMatch.responseJson? results place) ⟨disk, []⟩ :=
    (searching_of_ok searched _).trans (Action.bind_of_ok (tellAll_pure results _) _)
  rw [respond, respondKeeping, ended]

theorem respond_search_of_error {path : Option String} {terms : List String} {fault : Fault}
    (failed : searchResults path terms disk = .error fault) :
    (search path terms).respond disk = (.error fault.notice, disk) := by
  have ended : searching path terms (fun _ => pure ()) ⟨disk, ([] : List Path)⟩ =
      .error fault ⟨disk, []⟩ := searching_of_error failed _
  rw [respond, respondKeeping, ended]
  rfl

theorem saysSame_search (proper : disk.tree.Proper) (named : disk.tree.NamedByTexts)
    (path : Option String) (terms : List String) :
    (search path terms).SaysSame ((search path terms).executeText disk .working)
      ((search path terms).respond disk).1 ((search path terms).respond disk).2 := by
  cases searched : searchResults path terms disk with
  | error fault =>
    rw [executeText, inText_search_of_error searched, respond_search_of_error searched]
    exact ⟨rfl, rfl, printed?_notice fault⟩
  | ok found =>
    obtain ⟨place, results⟩ := found
    have encoded := encoded_of_searchResults proper named searched
    obtain ⟨data, made, printed⟩ :=
      Option.bind_eq_some_iff.mp (bind_printedData?_matches path terms encoded place)
    rw [executeText, inText_search searched, respond_search searched, made]
    exact ⟨rfl, rfl, printed⟩

/-! ## Whole commands -/

theorem saysSame (proper : disk.tree.Proper) (named : disk.tree.NamedByTexts) (command : Command) :
    command.SaysSame (command.executeText disk .working) (command.respond disk).1
      (command.respond disk).2 := by
  cases command with
  | redirect path write config => exact saysSame_redirect proper named path config write
  | substitute path pair write => exact saysSame_substitute proper named path pair write
  | search path terms => exact saysSame_search proper named path terms

theorem exitStatus_executeJson (command : Command) (disk : Disk) :
    (command.executeJson disk .working).exitStatus = (command.respond disk).1.exitStatus := by
  simp only [executeJson, print_fresh]

end Command

theorem Response.isSome_data_iff (response : Response) :
    (response.envelope.member? "data").isSome = true ↔ response.exitStatus = 0 := by
  cases response with
  | ok data => exact ⟨fun _ => rfl, fun _ => rfl⟩
  | error notice =>
    constructor
    · intro present
      cases present
    · intro zero
      exact absurd zero notice.code.exitStatus_ne_zero

namespace Request

variable {words : List Bytes} {command : Command}

/-- The words of a command may ask for JSON, and then it does not matter whether the option was
given before. -/
theorem ofWords_eq_invoke {json : Bool} {grammar : Grammar} {make : Parsed → Option Command}
    {invocation : Invocation} (accepted : ofWords json grammar make words = .invoke invocation) :
    ∃ inWords, invocation.json = (json || inWords) ∧
      ∀ before,
        ofWords before grammar make words = .invoke ⟨before || inWords, invocation.command⟩ := by
  cases read : readWords grammar {} none words with
  | error stop =>
    simp only [ofWords, read] at accepted
    cases stop <;> cases accepted
  | ok parsed =>
    cases made : make parsed with
    | none =>
      simp only [ofWords, read, made] at accepted
      cases accepted
    | some command =>
      simp only [ofWords, read, made] at accepted
      cases accepted
      refine ⟨parsed.flags.contains "json", rfl, fun before => ?_⟩
      simp only [ofWords, read, made]

theorem ofHelpWords_ne_invoke (invocation : Invocation) :
    ofHelpWords words ≠ .invoke invocation := by
  intro accepted
  rw [ofHelpWords.eq_def] at accepted
  split at accepted
  · cases accepted
  · split at accepted <;> cases accepted
  · cases accepted

theorem ofCommandName_eq_invoke {json : Bool} {name : String} {invocation : Invocation}
    (accepted : ofCommandName json name words = .invoke invocation) :
    ∃ inWords, invocation.json = (json || inWords) ∧
      ∀ before, ofCommandName before name words =
        .invoke ⟨before || inWords, invocation.command⟩ := by
  simp only [ofCommandName] at accepted ⊢
  split_ifs at accepted ⊢
  · exact ofWords_eq_invoke accepted
  · exact ofWords_eq_invoke accepted
  · exact ofWords_eq_invoke accepted
  · exact absurd accepted (ofHelpWords_ne_invoke invocation)

/-- An accepted command line begins with the name of a command or with the option for JSON. -/
theorem ofArgumentsAfter_eq_invoke {json : Bool} {invocation : Invocation}
    (accepted : ofArgumentsAfter json words = .invoke invocation) :
    (∃ name rest, ∀ before, ofArgumentsAfter before words = ofCommandName before name rest) ∨
      json = false ∧ ∃ rest, ofArgumentsAfter true rest = .invoke invocation := by
  cases words with
  | nil =>
    rw [ofArgumentsAfter] at accepted
    cases accepted
  | cons bytes rest =>
    rw [ofArgumentsAfter] at accepted
    split at accepted
    · cases accepted
    · split_ifs at accepted
    · cases accepted
    · split at accepted
      · split_ifs at accepted with given
        exact .inr ⟨eq_false_of_ne_true given, rest, accepted⟩
      · cases accepted
      · cases accepted
      · cases accepted
    · next bytesName form =>
      split at accepted
      · next name spelled =>
        refine .inl ⟨name, rest, fun before => ?_⟩
        rw [ofArgumentsAfter]
        simp only [form, spelled]
      · cases accepted

theorem json_of_ofArgumentsAfter_true {invocation : Invocation}
    (accepted : ofArgumentsAfter true words = .invoke invocation) : invocation.json = true := by
  rcases ofArgumentsAfter_eq_invoke accepted with ⟨name, rest, named⟩ | ⟨given, -⟩
  · obtain ⟨inWords, isJson, -⟩ := ofCommandName_eq_invoke ((named true).symm.trans accepted)
    rw [isJson, Bool.true_or]
  · cases given

/-- An accepted command line is accepted with the option before it, for the same command. -/
theorem ofArguments_json (accepted : ofArguments words = .invoke ⟨false, command⟩) :
    ofArguments (Utf8.encode "--json" :: words) = .invoke ⟨true, command⟩ := by
  show ofArgumentsAfter true words = _
  rcases ofArgumentsAfter_eq_invoke accepted with ⟨name, rest, named⟩ | ⟨-, rest, later⟩
  · obtain ⟨inWords, -, accepts⟩ := ofCommandName_eq_invoke ((named false).symm.trans accepted)
    rw [named true, accepts true, Bool.true_or]
  · cases json_of_ofArgumentsAfter_true later

/-- Text form and JSON form of one command line. Where every name in the tree is a text, a command
leaves the same files and the same exit status with the option for JSON and without it, and the text
that it prints can be read off the envelope: it renders what the data name, which stand there
exactly where the status is zero, and else the files that the details of the error report, or is
empty where they report none. -/
theorem text_and_json_agree {disk : Disk} (proper : disk.tree.Proper)
    (named : disk.tree.NamedByTexts)
    (accepted : ofArguments words = .invoke ⟨false, command⟩) :
    let text := (ofArguments words).execute disk .working
    let json := (ofArguments (Utf8.encode "--json" :: words)).execute disk .working
    text.disk = json.disk ∧ text.exitStatus = json.exitStatus ∧
      ∃ envelope : Json, json.stdout = envelope.pretty ++ "\n" ∧
        command.printed? envelope = some text.stdout ∧
        ((envelope.member? "data").isSome = true ↔ text.exitStatus = 0) := by
  have same := command.saysSame proper named
  have status := command.exitStatus_executeJson disk
  rcases responded : command.respond disk with ⟨response, left⟩
  rw [responded] at same status
  obtain ⟨stdout, leaves⟩ := Command.executeJson_working responded
  rw [accepted, ofArguments_json accepted]
  refine ⟨same.disk.trans leaves.symm, same.exitStatus.trans status.symm, response.envelope, stdout,
    same.printed, ?_⟩
  exact response.isSome_data_iff.trans (Eq.congr_left same.exitStatus.symm)

theorem namedByTexts_threeFiles (first second : Bytes) :
    (Substitution.threeFiles first second).tree.NamedByTexts := by
  refine .directory ?_ ?_
  · simp [Utf8.encoded_encode]
  · simp [Node.NamedByTexts.file]

/-- A command line for the passes of one substitution. -/
def replaceWords : List Bytes :=
  ["replace", "--path", ".", "--from", "aa", "--to", "b", "--write"].map Utf8.encode

/-- The second file holds no text and ends the command, when the first one has been told about. -/
theorem text_and_json_agree_threeFiles :
    ofArguments replaceWords =
        .invoke ⟨false, .substitute (some ".") (some ("aa", "b")) true⟩ ∧
      ∃ envelope : Json,
        ((ofArguments (Utf8.encode "--json" :: replaceWords)).execute
          (Substitution.threeFiles (Utf8.encode "aaa") [0xFF]) .working).stdout =
            envelope.pretty ++ "\n" ∧
        (Command.substitute (some ".") (some ("aa", "b")) true).printed? envelope =
          some "./a.lua\n" := by
  have accepted : ofArguments replaceWords =
      .invoke ⟨false, .substitute (some ".") (some ("aa", "b")) true⟩ := by
    cbv
  have ended :
      (Command.substitute (some ".") (some ("aa", "b")) true).inText
          ⟨Substitution.threeFiles (Utf8.encode "aaa") [0xFF], .fresh .working⟩ =
        .error (.notText (.ofText "./b.tml") (.invalid 0 1))
          ⟨Substitution.threeFiles (Utf8.encode "ba") [0xFF],
            ⟨.working, "" ++ renderPaths [.ofText "./a.lua"]⟩⟩ := by
    cbv
  have printed : ((ofArguments replaceWords).execute
      (Substitution.threeFiles (Utf8.encode "aaa") [0xFF]) .working).stdout = "./a.lua\n" := by
    rw [accepted, execute, Command.executeText, ended]
    decide
  obtain ⟨-, -, envelope, stdout, same, -⟩ :=
    text_and_json_agree (Substitution.proper_threeFiles (Utf8.encode "aaa") [0xFF])
      (namedByTexts_threeFiles (Utf8.encode "aaa") [0xFF]) accepted
  exact ⟨accepted, envelope, stdout, same.trans (congrArg some printed)⟩

end Request

end Redirect
