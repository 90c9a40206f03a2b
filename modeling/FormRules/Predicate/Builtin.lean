import FormRules.Predicate.Files
import FormRules.Predicate.Standard
/-!
# The built-in rules

Registering the built-in rules again changes nothing but names that were cleared.
-/
namespace FormRules.Registries

/-- Two registries without rules. -/
def empty : Registries := ⟨.empty "standard", .empty "file"⟩

/-- Register all built-in rules under names that are not taken. -/
def withBuiltins (r : Registries) : Registries :=
  ⟨StandardRule.all.foldl (fun reg rule => reg.register rule.name rule.registration) r.standard,
    FileRule.all.foldl (fun reg rule => reg.register rule.name rule.registration) r.file⟩

/-- The registries that hold exactly the built-in rules. -/
def builtin : Registries := empty.withBuiltins

end FormRules.Registries
