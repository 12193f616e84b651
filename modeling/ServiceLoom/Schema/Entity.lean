import ServiceLoom.Schema.FieldType
import ServiceLoom.Schema.Names
import ServiceLoom.Record.Basic

/-!
# Entities and their fields

What a schema document says about one entity: its fields, the child collections
that it manages, the features that it switches on, and the bundles that it asks
for.
-/

namespace ServiceLoom

/-- A field of an entity. -/
structure Field where
  name : String
  type : FieldType := .string
  label : Option String := none
  required : Bool := false
  unique : Bool := false
  minLength : Option Nat := none
  maxLength : Option Nat := none
  min : Option Float := none
  max : Option Float := none
  pattern : Option String := none
  options : List Json := []
  /-- The entity that the field is declared to refer to. -/
  referenceEntity : Option String := none
  multiple : Bool := false

namespace Field

/-- The label shown to users; a blank one is replaced by a title made from the
name. -/
def displayLabel (f : Field) : String :=
  match f.label with
  | some label => if Text.isBlank label then Names.humanize f.name else label
  | none => Names.humanize f.name

/-- The declared target, unless it is blank. -/
def explicitTarget (f : Field) : Option String :=
  (f.referenceEntity.map Text.trim).filter (· ≠ "")

/-- Whether a text ends in another. -/
def endsIn (ending text : String) : Bool := ending.toList.isSuffixOf text.toList

/-- Whether the field may refer to rows of another entity: by its type, by a
declared target, or by its name. -/
def isReferenceLike (f : Field) : Bool :=
  f.type = .reference || f.explicitTarget.isSome ||
    endsIn "_id" f.name || endsIn "_ids" f.name

/-- Whether the field is declared to be a reference, and not just named like
one. -/
def requiresTarget (f : Field) : Bool :=
  f.type = .reference || f.explicitTarget.isSome

/-- Whether the value is a list. -/
def isMultiple (f : Field) : Bool := f.multiple || endsIn "_ids" f.name

/-- The text of an option: texts as they are, other values in compact form. -/
def optionText : Json → String
  | .string s => s
  | j => j.compact

/-- The value of a declared option: a bare value, or the member `value` of an
object. -/
def optionValue? : Json → Option String
  | .null => none
  | .object members => (Dict.get? members "value").map optionText
  | j => some (optionText j)

/-- The values of the declared options. -/
def optionValues (f : Field) : List String := f.options.filterMap optionValue?

end Field

/-- A child collection that an entity manages. -/
structure ChildRelation where
  entity : String
  foreignKey : Option String
  label : Option String
deriving DecidableEq, Repr

/-- A bundle that an entity asks for, by name or with a configuration. -/
inductive MixinEntry where
  | named (name : String)
  | configured (name : String) (config : Dict Json)

namespace MixinEntry

def name : MixinEntry → String
  | named name => name
  | configured name _ => name

def config? : MixinEntry → Option (Dict Json)
  | named _ => none
  | configured _ config => some config

end MixinEntry

/-- The feature switches of an entity. -/
abbrev Features := Dict Json

namespace Features

/-- Whether a feature is switched on. -/
def isEnabled (f : Features) (name : String) : Bool :=
  (Dict.get? f name).any Json.truthy

/-- The configuration of a feature, if it is an object. -/
def config? (f : Features) (name : String) : Option (Dict Json) :=
  (Dict.get? f name).bind Json.object?

end Features

/-- An entity of a schema. -/
structure Entity where
  slug : String := ""
  module : Option String := none
  displayName : Option String := none
  displayField : Option String := none
  fields : List Field := []
  children : List ChildRelation := []
  features : Features := []
  mixins : List MixinEntry := []
  /-- Marks an internal entity. -/
  system : Option Json := none
  /-- What follows concerns presentation alone and is passed on as it is. -/
  ui : Option Json := none
  bulkActions : Option Json := none
  inventoryOps : Option Json := none
  labels : Option Json := none
  list : Option Json := none

namespace Entity

/-- The first field with a name. -/
def field? (e : Entity) (name : String) : Option Field :=
  e.fields.find? (·.name = name)

def hasField (e : Entity) (name : String) : Bool := (e.field? name).isSome

/-- Whether an entity is internal: by its slug, or because it says so. -/
def isSystem (e : Entity) : Bool :=
  "__".toList.isPrefixOf e.slug.toList ||
    match e.system with
    | some (.bool b) => b
    | some (.object members) =>
        ((Dict.get? members "hidden").bind Json.bool?).getD false
    | _ => false

/-- The name shown to users. -/
def title (e : Entity) : String := e.displayName.getD e.slug

end Entity

/-- A schema document. -/
structure Document where
  projectName : String
  /-- The module settings, not yet interpreted. -/
  modules : Dict Json
  entities : List Entity

end ServiceLoom
