/-
# The built-in redirector

The built-in rules redirect each helper to the module of the helpers: the name of the module
comes before the name of the helper. That name is the name of no rule, and put before a helper
it completes neither of the built-in markers.
-/

import Redirect.Proofs.QualifiedNames

namespace Redirect

namespace Redirector

/-- The rule that redirects a name to the module of the helpers. -/
def toModule (name : String) (isIdentifier : Text.isIdentifier name.toList = true) : Rule :=
  ⟨name, "utils." ++ name, isIdentifier⟩

/-- The redirector that the built-in configuration sets up. -/
def builtin : Redirector where
  rules := [toModule "list_extend" (by decide), toModule "dict_update" (by decide),
    toModule "dict" (by decide), toModule "list" (by decide), toModule "split" (by decide),
    toModule "repr" (by decide), toModule "serialize_basetype" (by decide)]
  selector := Configuration.builtin.selector
  isProtected := Configuration.builtin.markers.protects

theorem ofConfiguration_builtin : ofConfiguration .builtin = .ok builtin :=
  rfl

theorem isProtected_builtin : builtin.isProtected = Configuration.builtin.markers.protects :=
  rfl

theorem replacement_of_mem_builtin : ∀ rule ∈ builtin.rules,
    rule.replacement.toList = "utils.".toList ++ rule.pattern.toList := by
  decide

/-- The built-in rules lead with the name of the module. -/
theorem leadsAway_builtin : builtin.LeadsAway := by
  have apart : ∀ other ∈ builtin.rules, "utils".toList ≠ other.pattern.toList := by decide
  intro rule member
  have named : Text.Members ('.' :: (rule.pattern.toList ++ [])) :=
    .cons rfl rule.isIdentifier .nil
  refine ⟨"utils".toList, ⟨by decide, _, named, ?_⟩, apart⟩
  rw [replacement_of_mem_builtin rule member, List.append_nil]
  rfl

/-- Putting the name of the module before a helper completes neither of the built-in markers. -/
theorem stays_builtin : ∀ rule ∈ builtin.rules, ∀ line, builtin.isProtected line = false →
    builtin.isProtected (rule.apply line) = false := by
  have isForeign : ∀ marker ∈ Configuration.builtin.markers.texts,
      Text.Foreign marker.toList "utils.".toList := by
    have enters : ∀ marker ∈ Configuration.builtin.markers.texts, 'u' ∉ marker.toList := by
      decide
    have leaves : ∀ marker ∈ Configuration.builtin.markers.texts,
        ∀ rest ∈ "utils.".toList.tails, rest ≠ [] →
          ¬rest <+: marker.toList ∧ ¬marker.toList <+: rest := by decide
    intro marker member
    refine ⟨?_, leaves marker member⟩
    intro c isHead
    obtain rfl : 'u' = c := Option.some.inj isHead
    exact enters marker member
  intro rule member line unprotected
  rw [isProtected_builtin] at unprotected ⊢
  exact Markers.protects_apply (replacement_of_mem_builtin rule member) isForeign unprotected

/-- The built-in rules neither give a line the protection of the built-in markers nor take it
away. -/
theorem isProtected_apply_builtin (rule : Rule) (member : rule ∈ builtin.rules) (line : String) :
    builtin.isProtected (rule.apply line) = builtin.isProtected line := by
  have unbroken : ∀ marker ∈ Configuration.builtin.markers.texts,
      Text.Unbroken marker.toList := by
    decide
  cases isProtected : builtin.isProtected line with
  | false => exact stays_builtin rule member line isProtected
  | true =>
    rw [isProtected_builtin] at isProtected ⊢
    exact Markers.protects_apply_of_protects (replacement_of_mem_builtin rule member) unbroken
      isProtected

theorem qualifies_builtin : builtin.Qualifies where
  toKeepsLines := leadsAway_builtin.keepsLines
  leads := leadsAway_builtin.leads
  stays := stays_builtin

end Redirector

end Redirect
