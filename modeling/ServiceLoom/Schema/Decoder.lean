import ServiceLoom.Json.Decoder
import ServiceLoom.Json.Parser
import ServiceLoom.Schema.Entity

/-!
# Reading schema documents

How documents, entities, fields, child relations and mixins are decoded. Only
the name of a field must be written. Most fields of a structure also go by a
second spelling.
-/

namespace ServiceLoom

open Json (string? bool? nat? float? list? freeform? freeformObject?)

/-- A field of an entity. -/
def Field.decode? (j : Json) : Option Field := do
  let f ← j.fields? 13
  return {
    name := ← f.required? 0 ["name"] string?
    type :=
      ← f.default? 1 ["type"] (fun j => j.string?.map FieldType.ofName) .string
    label := ← f.optional? 2 ["label"] string?
    required := ← f.default? 3 ["required"] bool? false
    unique := ← f.default? 4 ["unique"] bool? false
    minLength := ← f.optional? 5 ["min_length", "minLength"] nat?
    maxLength := ← f.optional? 6 ["max_length", "maxLength"] nat?
    min := ← f.optional? 7 ["min", "min_value", "minValue"] float?
    max := ← f.optional? 8 ["max", "max_value", "maxValue"] float?
    pattern := ← f.optional? 9 ["pattern", "regex"] string?
    options := ← f.default? 10 ["options", "enum"] (list? (freeform? 6)) []
    referenceEntity :=
      ← f.optional? 11 ["reference_entity", "referenceEntity",
        "references"] string?
    multiple := ← f.default? 12 ["multiple", "is_array"] bool? false }

/-- A child relation. -/
def ChildRelation.decode? (j : Json) : Option ChildRelation := do
  let f ← j.fields? 3
  return {
    entity := ← f.default? 0 ["entity", "slug"] string? ""
    foreignKey := ← f.optional? 1 ["foreign_key", "foreignKey"] string?
    label := ← f.optional? 2 ["label"] string? }

/-- A mixin: a name, or an object with a name and a configuration. -/
def MixinEntry.decode? : Json → Option MixinEntry
  | .string name => some (.named name)
  | .object members => do
    let f := Json.Fields.named members
    return .configured (← f.required? 0 ["name"] string?)
      (← f.default? 1 ["config"] (freeformObject? 5) [])
  | _ => none

/-- An entity. -/
def Entity.decode? (j : Json) : Option Entity := do
  let f ← j.fields? 14
  return {
    slug := ← f.default? 0 ["slug"] string? ""
    module := ← f.optional? 1 ["module", "module_slug", "moduleSlug"] string?
    displayName := ← f.optional? 2 ["display_name", "displayName"] string?
    displayField := ← f.optional? 3 ["display_field", "displayField"] string?
    fields := ← f.default? 4 ["fields"] (list? Field.decode?) []
    children := ← f.default? 5 ["children"] (list? ChildRelation.decode?) []
    features := ← f.default? 6 ["features"] (freeformObject? 3) []
    mixins := ← f.default? 7 ["mixins"] (list? MixinEntry.decode?) []
    system := ← f.optional? 8 ["system"] (freeform? 3)
    ui := ← f.optional? 9 ["ui"] (freeform? 3)
    bulkActions := ← f.optional? 10 ["bulk_actions",
      "bulkActions"] (freeform? 3)
    inventoryOps := ← f.optional? 11 ["inventory_ops",
      "inventoryOps"] (freeform? 3)
    labels := ← f.optional? 12 ["labels"] (freeform? 3)
    list := ← f.optional? 13 ["list"] (freeform? 3) }

/-- A schema document. -/
def Document.decode? (j : Json) : Option Document := do
  let f ← j.fields? 3
  return {
    projectName := ← f.default? 0 ["project_name", "projectName"] string? ""
    modules := ← f.default? 1 ["modules"] (freeformObject? 1) []
    entities := ← f.default? 2 ["entities"] (list? Entity.decode?) [] }

/-- The schema document that a text holds. -/
def Document.read? (text : String) : Option Document :=
  (Json.parse? text).bind Document.decode?

end ServiceLoom
