/-
# Configuration

What a run of redirections is set up by: which files it looks into, which lines it leaves
alone, and which rules it applies. Every part has a built-in value: bare calls of a few
helpers are redirected to the module that holds them.
-/

import Redirect.Rule
import Redirect.Markers
import Redirect.Selector

namespace Redirect

/-- A rule as it is configured, not yet checked. -/
structure RuleEntry where
  pattern : String
  replacement : String
  deriving DecidableEq, Repr

/-- What a run is set up by. -/
structure Configuration where
  extensions : List String
  excludedNames : List String
  excludedSegments : List String
  protectedMarkers : List String
  rules : List RuleEntry
  deriving DecidableEq, Repr

namespace Configuration

/-- The extension of the files that are looked into. -/
def defaultExtensions : List String := ["lua"]

/-- Files that are never looked into. -/
def defaultExcludedNames : List String := ["urls.lua", "utils.lua"]

/-- Directories whose files are never looked into. -/
def defaultExcludedSegments : List String := ["bak", "backup", "utils"]

/-- Declarations and comments are left alone. -/
def defaultProtectedMarkers : List String := ["local ", "--"]

/-- The names that are redirected, longer names before their beginnings. -/
def defaultNames : List String :=
  ["list_extend", "dict_update", "dict", "list", "split", "repr", "serialize_basetype"]

/-- The rules that redirect the names to their module. -/
def defaultRules : List RuleEntry :=
  defaultNames.map fun name => ⟨name, "utils." ++ name⟩

/-- The built-in configuration. -/
def builtin : Configuration where
  extensions := defaultExtensions
  excludedNames := defaultExcludedNames
  excludedSegments := defaultExcludedSegments
  protectedMarkers := defaultProtectedMarkers
  rules := defaultRules

/-- The selection of files that a configuration asks for. -/
def selector (configuration : Configuration) : Selector :=
  ⟨configuration.extensions, configuration.excludedNames, configuration.excludedSegments⟩

/-- The markers that a configuration asks for. -/
def markers (configuration : Configuration) : Markers :=
  .ofList configuration.protectedMarkers

/-- The rules that a configuration asks for. -/
def checkedRules (configuration : Configuration) : Except Fault (List Rule) :=
  Rule.ofPairs (configuration.rules.map fun entry => (entry.pattern, entry.replacement))

end Configuration

end Redirect
