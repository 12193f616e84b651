import ServiceLoom.Plan.Bundle
import ServiceLoom.Schema.Modules

/-!
# Which bundles an entity gets

A table of conditions on the entity's features is read first, then the entity's
own list of mixins. A bundle is taken once, after the bundles that it requires;
one that cannot be located is left out with a warning.
-/

namespace ServiceLoom

/-- A row of the selection table: a bundle and the feature that configures
it. -/
structure SelectionRule where
  bundle : Bundle
  feature : String

/-- The selection table. -/
def selectionRules : List SelectionRule :=
  [⟨.inventory, "inventory"⟩, ⟨.batchTracking, "batch_tracking"⟩,
    ⟨.serialTracking, "serial_tracking"⟩, ⟨.audit, "audit_trail"⟩,
    ⟨.location, "multi_location"⟩]

/-- The features that imply stock. -/
def stockFeatures : List String :=
  ["inventory", "stock_tracking", "batch_tracking",
    "serial_tracking", "multi_location"]

/-- Whether an entity has stock: a quantity, or a feature that implies one. -/
def wantsInventory (e : Entity) : Bool :=
  e.hasField "quantity" || stockFeatures.any fun f =>
    Features.isEnabled e.features f

/-- Whether the writes of an entity are logged. A feature must say so with
`true`; without one the activity log decides. Internal entities are not
logged. -/
def wantsAudit (e : Entity) (c : ModuleConfig) : Bool :=
  if e.isSystem then false
  else match ["audit_trail", "audit"].findSome? (Dict.get? e.features) with
    | some (.bool b) => b
    | some _ => false
    | none => c.auditsByDefault e.slug

/-- Whether a row of the table applies to an entity. -/
def SelectionRule.applies (r : SelectionRule) (e : Entity)
    (c : ModuleConfig) : Bool :=
  match r.bundle with
  | .inventory => wantsInventory e
  | .audit => wantsAudit e c
  | _ => Features.isEnabled e.features r.feature

/-- The bundles chosen for an entity, each with its configuration. -/
structure Selection where
  bundles : List (Bundle × BundleConfig)
  warnings : List String

namespace Selection

/-- Nothing chosen. -/
def empty : Selection := ⟨[], []⟩

def chosen (s : Selection) : List Bundle := s.bundles.map (·.1)

/-- The names of the chosen bundles. -/
def names (s : Selection) : List String := s.chosen.map (·.name)

/-- A warning, unless it has been given already. -/
def warn (s : Selection) (slug name : String) : Selection :=
  let message := "bundle '" ++ name ++ "' for '" ++
      slug ++ "' not found; skipped"
  if s.warnings.contains message then s
  else { s with warnings := s.warnings ++ [message] }

/-- Adds a bundle without those that it requires. -/
def addAlone (l : BundleLibrary) (slug : String) (s : Selection) (b : Bundle)
    (c : BundleConfig) : Selection :=
  if s.chosen.contains b then s
  else if l.locates b then { s with bundles := s.bundles ++ [(b, c)] }
  else s.warn slug b.name

/-- The configuration that a feature holds for a bundle. -/
def configOf (e : Entity) (feature : String) : BundleConfig :=
  (Features.config? e.features feature).getD []

/-- Adds a bundle after those that it requires. -/
def add (l : BundleLibrary) (e : Entity) (s : Selection) (b : Bundle)
    (c : BundleConfig) : Selection :=
  if s.chosen.contains b then s
  else if l.locates b then
    let s :=
      b.requires.foldl (fun s r => s.addAlone l e.slug r (configOf e r.name)) s
    { s with bundles := s.bundles ++ [(b, c)] }
  else s.warn e.slug b.name

/-- Adds the bundle that a mixin asks for. -/
def addMixin (l : BundleLibrary) (e : Entity) (s : Selection) (m : MixinEntry) :
    Selection :=
  match Bundle.ofMixin? m.name with
  | some b => s.add l e b (m.config?.getD [])
  | none => s.warn e.slug m.name

/-- The bundles of an entity. -/
def ofEntity (l : BundleLibrary) (c : ModuleConfig) (e : Entity) : Selection :=
  let fromTable := (selectionRules.filter (·.applies e c)).foldl
    (fun s r => s.add l e r.bundle (configOf e r.feature)) empty
  e.mixins.foldl (addMixin l e) fromTable

end Selection

end ServiceLoom
