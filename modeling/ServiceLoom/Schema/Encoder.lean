import ServiceLoom.Rule.FieldRule
import ServiceLoom.Schema.Entity

/-!
# Writing schema documents

Every structure is written as an object with its fields in order, under their
first spelling. What is empty and optional is left out.
-/

namespace ServiceLoom

/-- A member that is written only for a list with items. -/
def listMember {α : Type} (name : String) (f : α → Json) (xs : List α) :
    List (String × Json) :=
  if xs.isEmpty then [] else [(name, .array (xs.map f))]

def Field.toJson (f : Field) : Json :=
  .object (
    [("name", .string f.name), ("type", .string f.type.name)] ++
    optionalMember "label" .string f.label ++
    [("required", .bool f.required), ("unique", .bool f.unique)] ++
    optionalMember "min_length" .ofNat f.minLength ++
    optionalMember "max_length" .ofNat f.maxLength ++
    optionalMember "min" .ofFloat f.min ++
    optionalMember "max" .ofFloat f.max ++
    optionalMember "pattern" .string f.pattern ++
    listMember "options" id f.options ++
    optionalMember "reference_entity" .string f.referenceEntity ++
    [("multiple", .bool f.multiple)])

def ChildRelation.toJson (c : ChildRelation) : Json :=
  .object (
    [("entity", .string c.entity)] ++
    optionalMember "foreign_key" .string c.foreignKey ++
    optionalMember "label" .string c.label)

def MixinEntry.toJson : MixinEntry → Json
  | .named name => .string name
  | .configured name config =>
      .object [("name", .string name), ("config", .object config)]

def Entity.toJson (e : Entity) : Json :=
  .object (
    [("slug", .string e.slug)] ++
    optionalMember "module" .string e.module ++
    optionalMember "display_name" .string e.displayName ++
    optionalMember "display_field" .string e.displayField ++
    [("fields", .array (e.fields.map (·.toJson)))] ++
    listMember "children" ChildRelation.toJson e.children ++
    (if e.features.isEmpty then [] else [("features", .object e.features)]) ++
    listMember "mixins" MixinEntry.toJson e.mixins ++
    optionalMember "system" id e.system ++
    optionalMember "ui" id e.ui ++
    optionalMember "bulk_actions" id e.bulkActions ++
    optionalMember "inventory_ops" id e.inventoryOps ++
    optionalMember "labels" id e.labels ++
    optionalMember "list" id e.list)

def Document.toJson (d : Document) : Json :=
  .object [("project_name", .string d.projectName), ("modules", .object d.modules),
    ("entities", .array (d.entities.map (·.toJson)))]

end ServiceLoom
