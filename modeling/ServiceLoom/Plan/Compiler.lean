import ServiceLoom.Pattern.Engine
import ServiceLoom.Plan.Fragment
import ServiceLoom.Schema.Graph

/-!
# The rules of a schema

From a checked schema follow the field rules of every entity and the guard
against removing rows to which others refer.
-/

namespace ServiceLoom

/-- How the values of a type are understood. -/
def FieldType.kind (t : FieldType) : FieldKind :=
  if t = .boolean then .boolean
  else if t = .integer then .integer
  else if t.isNumeric then .number
  else .text

/-- The pattern of a field, if it can be read. -/
def Field.usablePattern [Pattern.Engine] (f : Field) : Option String :=
  f.pattern.filter fun p => p ≠ "" && Pattern.isValid p

/-- The warning for a pattern that cannot be read, with what the engine says of
it. -/
def Field.patternWarning [Pattern.Engine] (f : Field) (slug : String) :
    Option String :=
  ((f.pattern.filter (· ≠ "")).bind Pattern.fault?).map fun fault =>
    "pattern for '" ++ slug ++ "." ++ f.name ++
      "' does not compile and is ignored: " ++ fault

/-- The field shown for the rows of an entity: the declared one, `name`, `sku`,
or the first field of its own. -/
def Entity.guessDisplayField (e : Entity) : String :=
  let candidates := (e.displayField.filter e.hasField).toList ++
    (["name", "sku"].filter e.hasField) ++
    ((e.fields.map (·.name)).filter fun n => !Record.systemFields.contains n)
  candidates.head?.getD "id"

namespace SchemaGraph

/-- The rule of a field. -/
def fieldRule [Pattern.Engine] (g : SchemaGraph) (slug : String) (f : Field) :
    FieldRule :=
  { field := f.name
    label := f.displayLabel
    kind := f.type.kind
    multiple := f.isMultiple
    required := f.required
    unique := f.unique
    minLength := f.minLength
    maxLength := f.maxLength
    pattern := f.usablePattern
    numeric := f.type.isNumeric || f.min.isSome || f.max.isSome
    min := f.min
    max := f.max
    options := f.optionValues
    reference := (g.edge? slug f.name).map (·.target) }

/-- The fields of an entity that users write. -/
def ruledFields (e : Entity) : List Field :=
  e.fields.filter fun f => !Record.systemFields.contains f.name

/-- The rules of an entity. -/
def fieldRules [Pattern.Engine] (g : SchemaGraph) (e : Entity) : RuleSet :=
  ⟨(ruledFields e).map (g.fieldRule e.slug)⟩

/-- The warnings about the patterns of an entity. -/
def patternWarnings [Pattern.Engine] (e : Entity) : List String :=
  (ruledFields e).filterMap (·.patternWarning e.slug)

/-- The field shown for the rows of the entity with a slug. -/
def displayFieldOf (g : SchemaGraph) (slug : String) : String :=
  ((g.entity? slug).map (·.guessDisplayField)).getD "id"

/-- Adds a reference to the dependent of its source, which is created if it is
the first. -/
def addDependent (g : SchemaGraph) (dependents : List DependentSpec)
    (e : ReferenceEdge) : List DependentSpec :=
  let field : RefField := ⟨e.field, e.multiple⟩
  if dependents.any (·.entity = e.source) then
    dependents.map fun d =>
      if d.entity = e.source then
        { d with fields := d.fields ++ [field] }
      else d
  else dependents ++ [⟨e.source, g.displayFieldOf e.source, [field]⟩]

/-- The guard of an entity: all references from other entities, grouped by
entity. -/
def deleteGuard (g : SchemaGraph) (slug : String) : DeleteGuard :=
  ⟨((g.edgesTo slug).filter (·.source ≠ slug)).foldl g.addDependent []⟩

end SchemaGraph

/-- The rules of an entity, compiled. -/
structure CompiledRules where
  fieldRules : RuleSet
  deleteGuard : DeleteGuard
  warnings : List String

/-- The rules of an entity of a schema. -/
def SchemaGraph.compile [Pattern.Engine] (g : SchemaGraph) (e : Entity) :
    CompiledRules :=
  ⟨g.fieldRules e, g.deleteGuard e.slug, SchemaGraph.patternWarnings e⟩

/-- The fragments and methods that check the rules. Without rules there are
none. -/
def CompiledRules.fragments (c : CompiledRules) : FragmentSet :=
  let rules : FragmentSet :=
    if c.fieldRules.rules.isEmpty then ⟨[], []⟩
    else ⟨[(.beforeCreateValidation, .fieldRules),
      (.beforeUpdateValidation, .fieldRules)],
      [.fieldRules c.fieldRules]⟩
  let guard : FragmentSet :=
    if c.deleteGuard.dependents.isEmpty then ⟨[], []⟩
    else ⟨[(.beforeDeleteValidation, .deleteGuard)], [.deleteGuard c.deleteGuard]⟩
  ⟨rules.hooks ++ guard.hooks, rules.methods ++ guard.methods⟩

end ServiceLoom
