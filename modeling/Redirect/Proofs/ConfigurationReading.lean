/-
# Reading configurations and rules

The readers of a rule and of a configuration go through an object member by member and keep the
parts that they have met. What the members come to is told here by a function on values: a part that
is met twice, or that is given no value of its shape, spoils the object. Whatever way an object is
spelled, its reader gives what the function gives.
-/

import Redirect.Configuration.Reader
import Redirect.Proofs.Reading

namespace Redirect

open Json

/-! ## Rules -/

namespace RuleEntry

/-- The parts of a rule with one more member. -/
def Parts.add (parts : Parts) (member : String × Json) : Option Parts :=
  if member.1 = "pattern" then
    (once text? parts.pattern member.2).map fun text => { parts with pattern := some text }
  else if member.1 = "replacement" then
    (once text? parts.replacement member.2).map fun text => { parts with replacement := some text }
  else some parts

/-- The rule that its parts make. -/
def Parts.entry? (parts : Parts) : Option RuleEntry := do
  some ⟨← parts.pattern, ← parts.replacement⟩

/-- The rule that a value is: an array of both parts, or an object with both. -/
def ofJson? : Json → Option RuleEntry
  | .array [pattern, replacement] => do some ⟨← pattern.text?, ← replacement.text?⟩
  | .object members => members.foldlM Parts.add {} >>= Parts.entry?
  | _ => none

/-- A rule as an object. -/
def json (entry : RuleEntry) : Json :=
  .object [("pattern", .string entry.pattern), ("replacement", .string entry.replacement)]

theorem ofJson?_json (entry : RuleEntry) : ofJson? entry.json = some entry :=
  rfl

theorem readsMember : ReadsMember readMember Parts.add := by
  intro parts key value s spells position before after rest blanksBefore blanksAfter delimited
  rw [readMember, Parts.add]
  split_ifs
  · exact (gives_readField reads_text key parts.pattern spells position blanksBefore blanksAfter
      delimited).map _
  · exact (gives_readField reads_text key parts.replacement spells position blanksBefore
      blanksAfter delimited).map _
  · obtain ⟨reached, skipped⟩ := exists_skipMember spells position blanksBefore blanksAfter
      delimited
    rw [skipped]
    exact ⟨reached, rfl⟩

theorem gives_ofParts (parts : Parts) (position : Position) (rest : List Char) :
    Gives rest parts.entry? (ofParts parts ⟨position, rest⟩) := by
  obtain ⟨pattern, replacement⟩ := parts
  cases pattern with
  | none => exact ⟨_, rfl⟩
  | some pattern => cases replacement <;> exact ⟨_, rfl⟩

section Parts

variable {value : Json} {others : List Json} {s t blanks rest : List Char}

theorem gives_readPart (spells : Spells value s) (delimited : Delimited rest) {count : Nat}
    {cursor : Cursor} {position : Position}
    (more : nextElement (count = 0) cursor = .ok (true, ⟨position, s ++ rest⟩)) :
    Gives rest value.text? (readPart count cursor) := by
  rw [readPart, more]
  exact reads_text value s spells position [] rest blanks_nil delimited

theorem exists_readPart_last (areBlanks : Blanks blanks) (count : Nat) (position : Position)
    (rest : List Char) :
    ∃ mistake, readPart count ⟨position, blanks ++ ']' :: rest⟩ = .error mistake := by
  rw [readPart, nextElement_last _ areBlanks]
  show ∃ mistake, (endArray ⟨position.pastAll blanks, ']' :: rest⟩ >>= fun cursor =>
    cursor.wrongBefore (.tooFew count "struct RuleConfig with 2 elements")) = .error mistake
  exact exists_error_bind fun _ => ⟨_, rfl⟩

/-- After its first part a rule given as an array has one more. -/
theorem gives_lastPart (spells : SpellsElements others t) (pattern : String)
    (position : Position) (rest : List Char) :
    Gives rest (ofJson? (.array (.string pattern :: others)))
      (readPart 1 ⟨position, t ++ rest⟩ >>= fun found =>
        endArray found.2 >>= fun cursor => .ok (⟨pattern, found.1⟩, cursor)) := by
  cases spells with
  | @last blanks areBlanks =>
    obtain ⟨mistake, fails⟩ := exists_readPart_last areBlanks 1 position rest
    rw [List.append_assoc, List.singleton_append, fails]
    exact ⟨mistake, rfl⟩
  | @next replacement others before after s t blanksBefore blanksAfter spells others =>
    obtain ⟨reached, more⟩ := nextElement_next spells blanksBefore blanksAfter position (t ++ rest)
    have second : Gives (t ++ rest) replacement.text? (readPart 1
        ⟨position, before ++ ',' :: (after ++ (s ++ (t ++ rest)))⟩) :=
      gives_readPart spells (others.apart rest) more
    simp only [List.append_assoc, List.cons_append]
    cases others with
    | last areBlanks =>
      refine second.bind fun replacement position => ?_
      rw [List.append_assoc, List.singleton_append, endArray_last areBlanks]
      exact ⟨_, rfl⟩
    | next blanksBefore =>
      refine second.exists_error fun replacement position => ?_
      obtain ⟨mistake, fails⟩ := exists_endArray_next blanksBefore position _
      rw [List.append_assoc, List.cons_append, fails]
      exact ⟨mistake, rfl⟩

end Parts

theorem ofJson?_array_cons (pattern : Json) (others : List Json) :
    ofJson? (.array (pattern :: others)) =
      pattern.text? >>= fun text => ofJson? (.array (.string text :: others)) := by
  match others with
  | [] => cases pattern.text? <;> rfl
  | [_] => rfl
  | _ :: _ :: _ => cases pattern.text? <;> rfl

theorem reads : Reads read ofJson? := by
  intro value s spells position blanks rest areBlanks _
  rw [read, skipBlanks_spelled spells areBlanks]
  obtain ⟨c, t, rfl, begins⟩ := exists_kindOf? spells
  show Gives rest _ (if c = '[' then
    readPart 0 ⟨(position.pastAll blanks).step c, t ++ rest⟩ >>= _ else if c = '\x7b' then
      readObject readMember {} ⟨(position.pastAll blanks).step c, t ++ rest⟩ >>= _ else
        wrongShape "struct RuleConfig" _)
  cases value with
  | array elements =>
    cases spells with
    | emptyArray areBlanks =>
      obtain ⟨mistake, fails⟩ := exists_readPart_last areBlanks 0
        ((position.pastAll blanks).step '[') rest
      rw [if_pos rfl, List.append_assoc, List.singleton_append, fails]
      exact ⟨mistake, rfl⟩
    | @array first others inner s t areBlanks spells others =>
      have firstPart : Gives (t ++ rest) first.text? (readPart 0
          ⟨(position.pastAll blanks).step '[', inner ++ (s ++ (t ++ rest))⟩) :=
        gives_readPart spells (others.apart rest) (nextElement_first spells areBlanks _ _)
      rw [if_pos rfl, List.append_assoc, List.append_assoc, ofJson?_array_cons]
      exact firstPart.bind fun pattern position => gives_lastPart others pattern position rest
  | object members =>
    obtain ⟨t, same, gives⟩ := gives_readObject readsMember spells {}
      ((position.pastAll blanks).step '\x7b') rest
    cases same
    rw [if_neg (by decide), if_pos rfl]
    exact gives.bind fun parts position => gives_ofParts parts position rest
  | _ =>
    rw [if_neg (ne_of_kindOf?_ne begins .array rfl nofun),
      if_neg (ne_of_kindOf?_ne begins .object rfl nofun)]
    exact exists_wrongShape _ _

end RuleEntry

/-! ## Configurations -/

namespace Configuration

/-- The list of texts that a value is. -/
def texts? : Json → Option (List String) :=
  elements? text?

/-- The list of rules that a value is. -/
def rules? : Json → Option (List RuleEntry) :=
  elements? RuleEntry.ofJson?

/-- The parts of a configuration with one more member. -/
def Parts.add (parts : Parts) (member : String × Json) : Option Parts :=
  if member.1 = "extensions" then
    (once texts? parts.extensions member.2).map fun texts =>
      { parts with extensions := some texts }
  else if member.1 = "excluded_names" then
    (once texts? parts.excludedNames member.2).map fun texts =>
      { parts with excludedNames := some texts }
  else if member.1 = "excluded_segments" then
    (once texts? parts.excludedSegments member.2).map fun texts =>
      { parts with excludedSegments := some texts }
  else if member.1 = "protected_markers" then
    (once texts? parts.protectedMarkers member.2).map fun texts =>
      { parts with protectedMarkers := some texts }
  else if member.1 = "rules" then
    (once rules? parts.rules member.2).map fun rules => { parts with rules := some rules }
  else some parts

theorem readsMember : ReadsMember readMember Parts.add := by
  intro parts key value s spells position before after rest blanksBefore blanksAfter delimited
  have texts (seen : Option (List String)) : Gives rest (once texts? seen value)
      (readField key seen (readArray readText)
        ⟨position, before ++ ':' :: (after ++ (s ++ rest))⟩) :=
    gives_readField (reads_array reads_text) key seen spells position blanksBefore blanksAfter
      delimited
  rw [readMember, Parts.add]
  split_ifs
  · exact (texts parts.extensions).map _
  · exact (texts parts.excludedNames).map _
  · exact (texts parts.excludedSegments).map _
  · exact (texts parts.protectedMarkers).map _
  · exact (gives_readField (reads_array RuleEntry.reads) key parts.rules spells position
      blanksBefore blanksAfter delimited).map _
  · obtain ⟨reached, skipped⟩ := exists_skipMember spells position blanksBefore blanksAfter
      delimited
    rw [skipped]
    exact ⟨reached, rfl⟩

section Objects

variable {members : List (String × Json)} {text : String}

/-- The parts that the members of an object come to. -/
def Parts.ofMembers? (members : List (String × Json)) : Option Parts :=
  members.foldlM Parts.add {}

theorem exists_read_eq (spells : SpellsAlone (.object members) text) :
    ∃ rest, Blanks rest ∧
      Gives rest ((Parts.ofMembers? members).map ofParts) (read (.ofText text.toList)) := by
  obtain ⟨before, s, rest, blanksBefore, spells, blanksAfter, written⟩ := spells
  refine ⟨rest, blanksAfter, ?_⟩
  rw [written, Cursor.ofText, read, skipBlanks_spelled spells blanksBefore]
  obtain ⟨t, rfl, gives⟩ := gives_readObject readsMember spells {}
    ((Position.start.pastAll before).step '\x7b') rest
  exact gives.map ofParts

theorem endText_of_blanks {blanks : List Char} (areBlanks : Blanks blanks) (position : Position) :
    endText ⟨position, blanks⟩ = .ok () := by
  have skipped := skipBlanks_blanks areBlanks (s := []) nofun position
  rw [List.append_nil] at skipped
  rw [endText, skipped]
  rfl

theorem ofText_of_parts {parts : Parts} (spells : SpellsAlone (.object members) text)
    (adds : Parts.ofMembers? members = some parts) : ofText text = .ok (ofParts parts) := by
  obtain ⟨rest, areBlanks, gives⟩ := exists_read_eq spells
  rw [adds] at gives
  obtain ⟨position, found⟩ := gives
  rw [ofText, found]
  show (endText ⟨position, rest⟩ >>= fun _ => _) = _
  rw [endText_of_blanks areBlanks]
  rfl

theorem exists_ofText_error (spells : SpellsAlone (.object members) text)
    (spoiled : Parts.ofMembers? members = none) : ∃ mistake, ofText text = .error mistake := by
  obtain ⟨rest, -, gives⟩ := exists_read_eq spells
  rw [spoiled] at gives
  obtain ⟨mistake, found⟩ := gives
  exact ⟨mistake, by rw [ofText, found]; rfl⟩

end Objects

end Configuration

end Redirect
