/-
# Names that are texts

A tree in which every name is a text. Below a root whose path is a text, the path of each file then
is a text as well, and it can be read back from the exact text that spells it. The working
directory of such a tree is a root of this kind, and so is every directory that a command line
names.
-/

import Redirect.Proofs.Conduct
import Redirect.Proofs.Encoding

namespace Redirect

namespace Utf8

/-- The octets of some text. -/
def Encoded (bytes : Bytes) : Prop :=
  ∃ text, encode text = bytes

theorem encoded_encode (text : String) : Encoded (encode text) :=
  ⟨text, rfl⟩

theorem Encoded.append {first second : Bytes} (encoded : Encoded first)
    (others : Encoded second) : Encoded (first ++ second) := by
  obtain ⟨text, rfl⟩ := encoded
  obtain ⟨other, rfl⟩ := others
  refine ⟨text ++ other, ?_⟩
  rw [encode, String.toList_append, List.flatMap_append]
  rfl

theorem encoded_nil : Encoded [] :=
  encoded_encode ""

theorem encoded_slash : Encoded [slash] :=
  encoded_encode "/"

end Utf8

open Utf8 (Encoded encoded_encode encoded_nil encoded_slash)

/-- The path that names spell from the top of a tree is a text where the names are. -/
theorem encoded_spelled {names : List Name} (areTexts : ∀ name ∈ names, Encoded name) :
    Encoded (names.flatMap (slash :: ·)) := by
  induction names with
  | nil => exact encoded_nil
  | cons name rest ih =>
    obtain ⟨isText, restTexts⟩ := List.forall_mem_cons.mp areTexts
    exact (encoded_slash.append isText).append (ih restTexts)

/-! ## Trees -/

namespace Node

/-- A tree in which every name is a text. -/
inductive NamedByTexts : Node → Prop
  | file (data : Bytes) : NamedByTexts (.file data)
  | link (target : Path) : NamedByTexts (.link target)
  | directory {entries : List (Name × Node)} (named : ∀ entry ∈ entries, Encoded entry.1)
      (below : ∀ entry ∈ entries, NamedByTexts entry.2) : NamedByTexts (.directory entries)

/-- The names that lead to a node are texts. -/
theorem NamedByTexts.encoded_of_at? {node found : Node} (named : node.NamedByTexts)
    {location : Location} (held : node.at? location = some found) :
    ∀ name ∈ location, Encoded name := by
  induction location generalizing node with
  | nil => exact List.forall_mem_nil _
  | cons name rest ih =>
    obtain ⟨child, (entryFound : node.entries.lookup name = some child), childHeld⟩ :=
      Option.bind_eq_some_iff.mp held
    obtain ⟨before, after, among, -⟩ := List.lookup_eq_some_iff.mp entryFound
    have member : (name, child) ∈ node.entries := among ▸ List.mem_append_right _ List.mem_cons_self
    cases named with
    | file data => cases member
    | link target => cases member
    | directory entriesNamed below =>
      exact List.forall_mem_cons.mpr
        ⟨entriesNamed _ member, ih (below _ member) childHeld⟩

end Node

/-! ## Paths -/

namespace Path

variable {path root : Path}

theorem encoded_join (encoded : Encoded path.bytes) {name : Name} (isText : Encoded name) :
    Encoded (path.join name).bytes := by
  rw [join]
  split
  · exact isText
  · split
    · exact encoded.append isText
    · exact encoded.append (encoded_slash.append isText)

theorem encoded_joinAll (encoded : Encoded path.bytes) {names : List Name}
    (areTexts : ∀ name ∈ names, Encoded name) : Encoded (path.joinAll names).bytes := by
  induction names generalizing path with
  | nil => exact encoded
  | cons name rest ih =>
    obtain ⟨isText, restTexts⟩ := List.forall_mem_cons.mp areTexts
    exact ih (encoded_join encoded isText) restTexts

/-- A path that is a text is read back from that text. -/
theorem exists_text?_of_encoded (encoded : Encoded path.bytes) :
    ∃ text, path.text? = some text ∧ ofText text = path := by
  obtain ⟨bytes⟩ := path
  obtain ⟨text, rfl⟩ := encoded
  refine ⟨text, ?_, rfl⟩
  rw [text?, Utf8.decode?, Utf8.decode_encode]
  rfl

end Path

/-! ## Disks -/

section Disks

variable {disk : Disk} {root path : Path}

/-- Below a root whose path is a text, the path of each file is a text. -/
theorem Disk.Lists.encoded (lists : disk.Lists root path) (proper : disk.tree.Proper)
    (named : disk.tree.NamedByTexts) (rootEncoded : Encoded root.bytes) : Encoded path.bytes := by
  obtain ⟨paths, listed, member⟩ := lists
  rw [eq_map_path_of_filesBelowRoot proper listed] at member
  obtain ⟨file, found, rfl⟩ := List.mem_map.mp member
  rw [regularFiles] at found
  split at found
  · next led =>
    obtain ⟨source, sourceMember, rfl⟩ := List.mem_map.mp found
    have standing := standing_of_mem_regularFiles proper led sourceMember
    refine Path.encoded_joinAll rootEncoded fun name isName => ?_
    exact named.encoded_of_at? standing name (List.mem_append_right _ isName)
  · cases found

/-- The root of a command has a path that is a text. -/
theorem Command.encoded_root (named : disk.tree.NamedByTexts) {given : Option String}
    (isRoot : Command.root given disk = .ok root) : Encoded root.bytes := by
  cases given with
  | some text =>
    cases isRoot
    exact encoded_encode text
  | none =>
    rw [Command.root, Disk.workingPath] at isRoot
    cases held : disk.tree.at? disk.workingLocation with
    | none =>
      rw [held] at isRoot
      cases isRoot
    | some node =>
      have names := named.encoded_of_at? held
      rw [held] at isRoot
      cases node with
      | file data => cases isRoot
      | link target => cases isRoot
      | directory entries =>
        cases isRoot
        show Encoded (if disk.workingLocation.isEmpty then [slash] else _)
        split
        · exact encoded_slash
        · exact encoded_spelled names

/-- Every file that a command may be told about has a path that is a text. -/
theorem Command.Lists.encoded {given : Option String} (lists : Command.Lists given disk path)
    (proper : disk.tree.Proper) (named : disk.tree.NamedByTexts) : Encoded path.bytes := by
  obtain ⟨place, isRoot, listed⟩ := lists
  exact listed.encoded proper named (encoded_root named isRoot)

end Disks

end Redirect
