import ServiceLoom.Plan.Compiler
import ServiceLoom.Plan.Selection

/-!
# The plan of an entity

Everything that is decided about a service before its code is written: the rules
of the schema and the bundles.
-/

namespace ServiceLoom

/-- What a service will do. -/
structure EntityPlan where
  selection : Selection
  rules : CompiledRules

namespace EntityPlan

/-- The plan of an entity of a schema. -/
def ofEntity [Pattern.Engine] (l : BundleLibrary) (g : SchemaGraph)
    (e : Entity) : EntityPlan :=
  ⟨Selection.ofEntity l g.modules e, g.compile e⟩

/-- What is woven, in order: the rules first, then the bundles. -/
def fragmentSets (p : EntityPlan) : List FragmentSet :=
  p.rules.fragments :: p.selection.bundles.map fun (b, c) => b.fragments c

/-- The warnings of the plan: about the rules, then about the bundles. -/
def warnings (p : EntityPlan) : List String :=
  p.rules.warnings ++ p.selection.warnings

end EntityPlan

end ServiceLoom
