/-
# What a configuration file gives

What a configuration file gives does not depend on the order of its members, on what stands beside
them, or on how they are spelled: each field that is given has the value that it is given, and each
other field has the built-in one. A field that is given twice, or that is given null, spoils the
file.
-/

import Mathlib.Data.List.Perm.Basic
import Redirect.Proofs.BadRequests
import Redirect.Proofs.ConfigurationReading

namespace Redirect

open Json

namespace Configuration

/-! ## Fields -/

/-- The fields of a configuration. -/
inductive Field where
  | extensions
  | excludedNames
  | excludedSegments
  | protectedMarkers
  | rules
  deriving DecidableEq, Repr

namespace Field

/-- The key of a field. -/
def name : Field → String
  | .extensions => "extensions"
  | .excludedNames => "excluded_names"
  | .excludedSegments => "excluded_segments"
  | .protectedMarkers => "protected_markers"
  | .rules => "rules"

/-- Every field. -/
def all : List Field :=
  [.extensions, .excludedNames, .excludedSegments, .protectedMarkers, .rules]

/-- The value of a field of a configuration. -/
def json (configuration : Configuration) : Field → Json
  | .extensions => .ofStrings configuration.extensions
  | .excludedNames => .ofStrings configuration.excludedNames
  | .excludedSegments => .ofStrings configuration.excludedSegments
  | .protectedMarkers => .ofStrings configuration.protectedMarkers
  | .rules => .array (configuration.rules.map RuleEntry.json)

/-- A field of a configuration as a member of an object. -/
def member (configuration : Configuration) (field : Field) : String × Json :=
  (field.name, field.json configuration)

end Field

/-- The parts that some fields of a configuration come to. -/
def Parts.of (configuration : Configuration) (fields : List Field) : Parts where
  extensions := if .extensions ∈ fields then some configuration.extensions else none
  excludedNames := if .excludedNames ∈ fields then some configuration.excludedNames else none
  excludedSegments :=
    if .excludedSegments ∈ fields then some configuration.excludedSegments else none
  protectedMarkers :=
    if .protectedMarkers ∈ fields then some configuration.protectedMarkers else none
  rules := if .rules ∈ fields then some configuration.rules else none

/-- The values of a configuration on some fields, and the built-in values on the others. -/
def on (configuration : Configuration) (fields : List Field) : Configuration where
  extensions := if .extensions ∈ fields then configuration.extensions else builtin.extensions
  excludedNames :=
    if .excludedNames ∈ fields then configuration.excludedNames else builtin.excludedNames
  excludedSegments :=
    if .excludedSegments ∈ fields then configuration.excludedSegments
    else builtin.excludedSegments
  protectedMarkers :=
    if .protectedMarkers ∈ fields then configuration.protectedMarkers
    else builtin.protectedMarkers
  rules := if .rules ∈ fields then configuration.rules else builtin.rules

section Fields

variable {configuration : Configuration} {fields others : List Field} {field : Field}

theorem ofParts_of : ofParts (.of configuration fields) = configuration.on fields := by
  have getD_ite {α : Type} (given : Prop) [Decidable given] (value default : α) :
      (if given then some value else none).getD default = if given then value else default := by
    split <;> rfl
  simp only [ofParts, Parts.of, on, getD_ite]

theorem on_all : configuration.on Field.all = configuration :=
  rfl

theorem Parts.of_congr (same : ∀ field, field ∈ fields ↔ field ∈ others) :
    Parts.of configuration fields = .of configuration others := by
  simp only [Parts.of, same]

theorem texts?_ofStrings (texts : List String) : texts? (.ofStrings texts) = some texts :=
  elements?_array_map .string text? (fun _ => rfl) texts

theorem rules?_array (rules : List RuleEntry) :
    rules? (.array (rules.map RuleEntry.json)) = some rules :=
  elements?_array_map RuleEntry.json RuleEntry.ofJson? RuleEntry.ofJson?_json rules

/-- A field is added to fields that it is none of. -/
theorem Parts.add_member (absent : field ∉ fields) :
    (Parts.of configuration fields).add (field.member configuration) =
      some (.of configuration (field :: fields)) := by
  cases field <;>
    simp [Parts.add, Field.member, Field.name, Field.json, Parts.of, once, absent,
      texts?_ofStrings, rules?_array]

/-- What is no field is passed over. -/
theorem Parts.add_foreign {member : String × Json}
    (foreign : ∀ field : Field, member.1 ≠ field.name) (parts : Parts) :
    parts.add member = some parts := by
  have notThis {α : Type} (field : Field) (this other : α) :
      (if member.1 = field.name then this else other) = other := if_neg (foreign field)
  exact (notThis .extensions _ _).trans <| (notThis .excludedNames _ _).trans <|
    (notThis .excludedSegments _ _).trans <| (notThis .protectedMarkers _ _).trans <|
      notThis .rules _ _

theorem perm_move {α : Type} (before after others : List α) (a : α) :
    (before ++ a :: after ++ others).Perm (before ++ after ++ a :: others) := by
  have toFront : (before ++ a :: after ++ others).Perm (a :: (before ++ after ++ others)) := by
    rw [List.append_assoc, List.cons_append, List.append_assoc]
    exact List.perm_middle
  exact toFront.trans List.perm_middle.symm

/-- Members that are some fields of a configuration and what is no field, in any order, add these
fields to the ones that were there before. -/
theorem Parts.foldlM_add {members extras : List (String × Json)}
    (foreign : ∀ extra ∈ extras, ∀ field : Field, extra.1 ≠ field.name)
    (distinct : (fields ++ others).Nodup)
    (holds : members.Perm (fields.map (Field.member configuration) ++ extras)) :
    members.foldlM Parts.add (.of configuration others) =
      some (.of configuration (fields ++ others)) := by
  induction members generalizing fields extras others with
  | nil =>
    obtain ⟨noFields, -⟩ := List.append_eq_nil_iff.mp holds.nil_eq.symm
    rw [List.map_eq_nil_iff.mp noFields]
    rfl
  | cons member members ih =>
    rw [List.foldlM_cons]
    -- What is left without the first member is again in any order, with one field or one extra
    -- less.
    rcases List.mem_append.mp (holds.subset List.mem_cons_self) with isField | isExtra
    · obtain ⟨field, among, rfl⟩ := List.mem_map.mp isField
      obtain ⟨before, after, rfl⟩ := List.append_of_mem among
      have moved := perm_move before after others field
      have distinctNow := moved.nodup_iff.mp distinct
      have absent : field ∉ others := (List.nodup_cons.mp (List.nodup_append.mp distinctNow).2.1).1
      have left : members.Perm ((before ++ after).map (Field.member configuration) ++ extras) := by
        rw [List.map_append, List.map_cons, List.append_assoc, List.cons_append] at holds
        rw [List.map_append, List.append_assoc]
        exact (holds.trans List.perm_middle).cons_inv
      rw [Parts.add_member absent]
      show members.foldlM Parts.add (.of configuration (field :: others)) = _
      rw [ih foreign distinctNow left]
      exact congrArg some (Parts.of_congr fun _ => moved.mem_iff.symm)
    · obtain ⟨before, after, rfl⟩ := List.append_of_mem isExtra
      have left : members.Perm (fields.map (Field.member configuration) ++ (before ++ after)) := by
        rw [← List.append_assoc] at holds ⊢
        exact (holds.trans List.perm_middle).cons_inv
      have foreignLeft : ∀ extra ∈ before ++ after, ∀ field : Field, extra.1 ≠ field.name :=
        fun extra among => foreign extra (List.perm_middle.mem_iff.mpr (.tail _ among))
      rw [Parts.add_foreign (foreign member isExtra)]
      exact ih foreignLeft distinct left

/-! ## Files that are spoiled -/

/-- Whether a field has been given. -/
def Parts.has (parts : Parts) : Field → Bool
  | .extensions => parts.extensions.isSome
  | .excludedNames => parts.excludedNames.isSome
  | .excludedSegments => parts.excludedSegments.isSome
  | .protectedMarkers => parts.protectedMarkers.isSome
  | .rules => parts.rules.isSome

/-- A field that has been given is not given again. -/
theorem Parts.has_add {parts next : Parts} {member : String × Json}
    (adds : parts.add member = some next) (field : Field) :
    (next.has field).toNat =
      (parts.has field).toNat + if member.1 = field.name then 1 else 0 := by
  rw [Parts.add] at adds
  split_ifs at adds with key key key key key
  case neg =>
    cases adds
    cases field <;> simp_all [Field.name]
  all_goals
    obtain ⟨value, given, rfl⟩ := Option.map_eq_some_iff.mp adds
    rw [key]
    cases field <;> simp [Parts.has, Field.name, once_eq_some given]

theorem Parts.has_foldlM {members : List (String × Json)} {parts last : Parts}
    (adds : members.foldlM Parts.add parts = some last) (field : Field) :
    (last.has field).toNat =
      (parts.has field).toNat + members.countP fun member => member.1 = field.name := by
  induction members generalizing parts with
  | nil =>
    cases adds
    rfl
  | cons member members ih =>
    rw [List.foldlM_cons] at adds
    obtain ⟨next, first, others⟩ := Option.bind_eq_some_iff.mp adds
    rw [ih others, Parts.has_add first, List.countP_cons]
    simp only [decide_eq_true_eq]
    omega

/-- A field that is given twice spoils an object. -/
theorem Parts.ofMembers?_of_twice {members : List (String × Json)}
    (twice : 2 ≤ members.countP fun member => member.1 = field.name) :
    Parts.ofMembers? members = none := by
  cases adds : Parts.ofMembers? members with
  | none => rfl
  | some last =>
    have counted := Parts.has_foldlM adds field
    have atMostOne := Bool.toNat_le (last.has field)
    omega

theorem Parts.add_null (parts : Parts) (field : Field) : parts.add (field.name, .null) = none := by
  have spoils {α : Type} (meaning : Json → Option α) (seen : Option (List α)) :
      once (elements? meaning) seen .null = none := by
    cases seen <;> rfl
  cases field <;> simp [Parts.add, Field.name, texts?, rules?, spoils]

theorem foldlM_eq_none {α σ : Type} {add : σ → α → Option σ} {a : α} {things : List α}
    (spoils : ∀ state, add state a = none) (among : a ∈ things) (state : σ) :
    things.foldlM add state = none := by
  induction things generalizing state with
  | nil => cases among
  | cons thing things ih =>
    rw [List.foldlM_cons]
    rcases List.mem_cons.mp among with rfl | among
    · rw [spoils]
      rfl
    · cases add state thing with
      | none => rfl
      | some next => exact ih among next

end Fields

/-! ## Loading -/

theorem load_eq {disk : Disk} {path : Path} {text : String}
    (held : disk.read path = .ok (Utf8.encode text)) :
    load disk path = (ofText text).mapError (.notConfiguration path) := by
  rw [load, Disk.readText_of_decode held (Utf8.decode_encode text)]
  dsimp only [bind, Except.bind]
  cases ofText text <;> rfl

/-- What a file gives that holds an object, in whatever way the object is spelled. If the object is
made of some fields of a configuration and of any members that are no fields, in any order, loading
gives the values of the configuration on these fields and the built-in values on the others; with
all fields and nothing else it gives the configuration back. If the object gives a field twice, or
gives a field no value but null, loading fails and the file is called no configuration. -/
theorem load_spelled_object {disk : Disk} {path : Path} {text : String}
    {members : List (String × Json)} (held : disk.read path = .ok (Utf8.encode text))
    (spells : SpellsAlone (.object members) text) :
    (∀ (configuration : Configuration) (fields : List Field) (extras : List (String × Json)),
      fields.Nodup → (∀ extra ∈ extras, ∀ field : Field, extra.1 ≠ field.name) →
      members.Perm (fields.map (Field.member configuration) ++ extras) →
      load disk path = .ok (configuration.on fields)) ∧
    (∀ configuration, members.Perm (Field.all.map (Field.member configuration)) →
      load disk path = .ok configuration) ∧
    ((∃ field : Field, (2 ≤ members.countP fun member => member.1 = field.name) ∨
        (field.name, .null) ∈ members) →
      ∃ mistake, load disk path = .error (.notConfiguration path mistake) ∧
        (Fault.notConfiguration path mistake).notice.code.name = "config.invalid_json") := by
  have givesFields (configuration : Configuration) {fields : List Field}
      {extras : List (String × Json)} (distinct : fields.Nodup)
      (foreign : ∀ extra ∈ extras, ∀ field : Field, extra.1 ≠ field.name)
      (holds : members.Perm (fields.map (Field.member configuration) ++ extras)) :
      load disk path = .ok (configuration.on fields) := by
    have adds : members.foldlM Parts.add (.of configuration []) =
        some (.of configuration (fields ++ [])) :=
      Parts.foldlM_add foreign (by rwa [List.append_nil]) holds
    rw [List.append_nil] at adds
    rw [load_eq held, ofText_of_parts spells adds, ofParts_of]
    rfl
  refine ⟨fun configuration _ _ => givesFields configuration, fun configuration holds => ?_, ?_⟩
  · rw [← List.append_nil (Field.all.map _)] at holds
    have loaded := givesFields configuration (by decide) (List.forall_mem_nil _) holds
    rwa [on_all] at loaded
  · rintro ⟨field, spoils⟩
    have spoiled : Parts.ofMembers? members = none := by
      rcases spoils with twice | null
      · exact Parts.ofMembers?_of_twice twice
      · exact foldlM_eq_none (fun parts => Parts.add_null parts field) null {}
    obtain ⟨mistake, fails⟩ := exists_ofText_error spells spoiled
    exact ⟨mistake, by rw [load_eq held, fails]; rfl, rfl⟩

/-- A configuration that differs from the built-in one in all fields. -/
def sample : Configuration where
  extensions := ["luau", "\"\\\n\t\u0001é🦀"]
  excludedNames := []
  excludedSegments := ["vendor"]
  protectedMarkers := ["#"]
  rules := [⟨"dict", "d.dict"⟩, ⟨"", "nothing"⟩]

/-- Members that are no fields. -/
def sampleExtras : List (String × Json) :=
  [("Rules", .null), ("", .object [("rules", .array [.number ⟨true, 0, [0, 5], some (-7)⟩])])]

/-- The members of an object that gives two fields of the sample. -/
def sampleMembers : List (String × Json) :=
  sampleExtras ++ [.rules, .extensions].map (Field.member sample)

/-- The two fields are taken from the file and the three others are built in, until the file gives
one of the two again. -/
theorem load_spelled_object_sample :
    let holding members := Request.besideConfiguration (Utf8.encode (Json.object members).compress)
    load (holding sampleMembers) (.ofText "c.json") =
        .ok { Configuration.builtin with extensions := sample.extensions, rules := sample.rules } ∧
      ∃ mistake, load (holding (sampleMembers ++ [("rules", .array [])])) (.ofText "c.json") =
        .error (.notConfiguration (.ofText "c.json") mistake) := by
  intro holding
  have foreign : ∀ extra ∈ sampleExtras, ∀ field : Field, extra.1 ≠ field.name := by
    rintro extra (_ | ⟨_, _ | ⟨_, ⟨⟩⟩⟩) field <;> cases field <;> decide
  obtain ⟨givesFields, -, -⟩ := load_spelled_object
    (Request.read_besideConfiguration _) (spellsAlone_compress (.object sampleMembers))
  obtain ⟨-, -, spoils⟩ := load_spelled_object (Request.read_besideConfiguration _)
    (spellsAlone_compress (.object (sampleMembers ++ [("rules", .array [])])))
  obtain ⟨mistake, fails, -⟩ := spoils ⟨.rules, .inl (by decide)⟩
  exact ⟨givesFields sample [.rules, .extensions] sampleExtras (by decide) foreign
    List.perm_append_comm, mistake, fails⟩

end Configuration

end Redirect
