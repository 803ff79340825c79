/-
# Reading a configuration

A configuration is written as a JSON object with a member for each part that differs from
the built-in value, in any order; members of other names are passed over. It may also be
an array of the parts in order, of which the last ones may be missing. The same holds of
a rule, but a rule has no part that may be missing.
-/

import Redirect.Configuration
import Redirect.Json.Sequence

namespace Redirect

open Json

namespace RuleEntry

/-- The parts of a rule that have been read. -/
structure Parts where
  pattern : Option String := none
  replacement : Option String := none

/-- Read a member of a rule after its key. -/
def readMember (parts : Parts) (key : String) (cursor : Cursor) :
    Except Mistake (Parts × Cursor) := do
  if key = "pattern" then
    let (text, cursor) ← readField key parts.pattern readText cursor
    .ok ({ parts with pattern := some text }, cursor)
  else if key = "replacement" then
    let (text, cursor) ← readField key parts.replacement readText cursor
    .ok ({ parts with replacement := some text }, cursor)
  else
    .ok (parts, ← skipMember cursor)

/-- The rule that its parts make, at the cursor after its object. -/
def ofParts (parts : Parts) (cursor : Cursor) : Except Mistake (RuleEntry × Cursor) :=
  match parts.pattern, parts.replacement with
  | none, _ => cursor.wrongBefore (.missingField "pattern")
  | some _, none => cursor.wrongBefore (.missingField "replacement")
  | some pattern, some replacement => .ok (⟨pattern, replacement⟩, cursor)

/-- Read the next part of a rule given as an array; `count` parts have been read. -/
def readPart (count : Nat) (cursor : Cursor) : Except Mistake (String × Cursor) := do
  let (more, cursor) ← nextElement (count = 0) cursor
  if more then readText cursor
  else do
    let cursor ← endArray cursor
    cursor.wrongBefore (.tooFew count "struct RuleConfig with 2 elements")

/-- Read a rule. -/
def read (cursor : Cursor) : Except Mistake (RuleEntry × Cursor) :=
  let cursor := cursor.skipBlanks
  match cursor.rest with
  | [] => cursor.wrongAfter .endInValue
  | c :: _ =>
    if c = '[' then do
      let (pattern, cursor) ← readPart 0 (cursor.advance 1)
      let (replacement, cursor) ← readPart 1 cursor
      .ok (⟨pattern, replacement⟩, ← endArray cursor)
    else if c = '\x7b' then do
      let (parts, cursor) ← readObject readMember {} (cursor.advance 1)
      ofParts parts cursor
    else wrongShape "struct RuleConfig" cursor

end RuleEntry

namespace Configuration

/-- The parts of a configuration that have been read. -/
structure Parts where
  extensions : Option (List String) := none
  excludedNames : Option (List String) := none
  excludedSegments : Option (List String) := none
  protectedMarkers : Option (List String) := none
  rules : Option (List RuleEntry) := none

/-- The configuration with the built-in value for each part that was not read. -/
def ofParts (parts : Parts) : Configuration where
  extensions := parts.extensions.getD builtin.extensions
  excludedNames := parts.excludedNames.getD builtin.excludedNames
  excludedSegments := parts.excludedSegments.getD builtin.excludedSegments
  protectedMarkers := parts.protectedMarkers.getD builtin.protectedMarkers
  rules := parts.rules.getD builtin.rules

/-- Read a member of a configuration after its key. -/
def readMember (parts : Parts) (key : String) (cursor : Cursor) :
    Except Mistake (Parts × Cursor) := do
  if key = "extensions" then
    let (texts, cursor) ← readField key parts.extensions (readArray readText) cursor
    .ok ({ parts with extensions := some texts }, cursor)
  else if key = "excluded_names" then
    let (texts, cursor) ← readField key parts.excludedNames (readArray readText) cursor
    .ok ({ parts with excludedNames := some texts }, cursor)
  else if key = "excluded_segments" then
    let (texts, cursor) ← readField key parts.excludedSegments (readArray readText) cursor
    .ok ({ parts with excludedSegments := some texts }, cursor)
  else if key = "protected_markers" then
    let (texts, cursor) ← readField key parts.protectedMarkers (readArray readText) cursor
    .ok ({ parts with protectedMarkers := some texts }, cursor)
  else if key = "rules" then
    let (rules, cursor) ← readField key parts.rules (readArray RuleEntry.read) cursor
    .ok ({ parts with rules := some rules }, cursor)
  else
    .ok (parts, ← skipMember cursor)

/-- Read the next part of a configuration given as an array, if there is one. -/
def readPart {α : Type} (first : Bool) (part : Cursor → Except Mistake (α × Cursor))
    (cursor : Cursor) : Except Mistake (Option α × Cursor) := do
  let (more, cursor) ← nextElement first cursor
  if more then
    let (value, cursor) ← part cursor
    .ok (some value, cursor)
  else .ok (none, cursor)

/-- Read the parts of a configuration given as an array, after its bracket. -/
def readParts (cursor : Cursor) : Except Mistake (Parts × Cursor) := do
  let (extensions, cursor) ← readPart true (readArray readText) cursor
  let (excludedNames, cursor) ← readPart false (readArray readText) cursor
  let (excludedSegments, cursor) ← readPart false (readArray readText) cursor
  let (protectedMarkers, cursor) ← readPart false (readArray readText) cursor
  let (rules, cursor) ← readPart false (readArray RuleEntry.read) cursor
  let cursor ← endArray cursor
  .ok (⟨extensions, excludedNames, excludedSegments, protectedMarkers, rules⟩, cursor)

/-- Read a configuration. -/
def read (cursor : Cursor) : Except Mistake (Configuration × Cursor) :=
  let cursor := cursor.skipBlanks
  match cursor.rest with
  | [] => cursor.wrongAfter .endInValue
  | c :: _ =>
    if c = '[' then do
      let (parts, cursor) ← readParts (cursor.advance 1)
      .ok (ofParts parts, cursor)
    else if c = '\x7b' then do
      let (parts, cursor) ← readObject readMember {} (cursor.advance 1)
      .ok (ofParts parts, cursor)
    else wrongShape "struct RewriteConfig" cursor

/-- The configuration that a text gives. -/
def ofText (text : String) : Except Mistake Configuration := do
  let (configuration, cursor) ← read (.ofText text.toList)
  endText cursor
  .ok configuration

end Configuration

end Redirect
