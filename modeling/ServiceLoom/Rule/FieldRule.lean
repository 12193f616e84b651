import ServiceLoom.Record.Basic

/-!
# Field rules

A field rule lists what the values of one field must satisfy; a rule set is the
ordered list of rules of an entity.
-/

namespace ServiceLoom

/-- How the values of a field are understood. -/
inductive FieldKind where
  | text | integer | number | boolean
deriving DecidableEq, Repr

def FieldKind.name : FieldKind → String
  | text => "text"
  | integer => "integer"
  | number => "number"
  | boolean => "boolean"

/-- The kind with a name. -/
def FieldKind.ofName? (name : String) : Option FieldKind :=
  [text, integer, number, boolean].find? (·.name = name)

/-- What the values of one field must satisfy. -/
structure FieldRule where
  field : String
  label : String
  kind : FieldKind
  /-- Whether the value is a list. -/
  multiple : Bool := false
  required : Bool := false
  unique : Bool := false
  minLength : Option Nat := none
  maxLength : Option Nat := none
  pattern : Option String := none
  /-- Whether the value must denote a number. -/
  numeric : Bool := false
  min : Option Float := none
  max : Option Float := none
  options : List String := []
  /-- The collection whose rows the value refers to. -/
  reference : Option String := none
deriving BEq

/-- The rules of an entity, in order. -/
structure RuleSet where
  rules : List FieldRule
deriving BEq

/-- The rule for a field of a kind, without further constraints. -/
def FieldRule.ofKind (field label : String) (kind : FieldKind) : FieldRule :=
  { field, label, kind, numeric := kind = .integer ∨ kind = .number }

/-- A step in building a rule. -/
inductive RuleStep where
  | required | unique | multiple
  | minLength (n : Nat) | maxLength (n : Nat)
  | pattern (source : String)
  | min (x : Float) | max (x : Float)
  | options (values : List String)
  | references (slug : String)

/-- The rule after a step. A bound makes the value numeric. -/
def RuleStep.apply (r : FieldRule) : RuleStep → FieldRule
  | required => { r with required := true }
  | unique => { r with unique := true }
  | multiple => { r with multiple := true }
  | minLength n => { r with minLength := some n }
  | maxLength n => { r with maxLength := some n }
  | pattern source => { r with pattern := some source }
  | min x => { r with numeric := true, min := some x }
  | max x => { r with numeric := true, max := some x }
  | options values => { r with options := values }
  | references slug => { r with reference := some slug }

/-- The rule after a list of steps. -/
def FieldRule.build (r : FieldRule) (steps : List RuleStep) : FieldRule :=
  steps.foldl RuleStep.apply r

/-- Whether checking a rule reads the rows of its own collection. -/
def FieldRule.needsExistingRows (r : FieldRule) : Bool := r.unique

/-- A member that is written only when there is a value. -/
def optionalMember {α : Type} (name : String) (f : α → Json) : Option α →
    List (String × Json)
  | some x => [(name, f x)]
  | none => []

/-- A rule as a document. -/
def FieldRule.toJson (r : FieldRule) : Json :=
  .object (
    [("field", .string r.field), ("label", .string r.label),
      ("kind", .string r.kind.name), ("multiple", .bool r.multiple),
      ("required", .bool r.required), ("unique", .bool r.unique)] ++
    optionalMember "min_length" .ofNat r.minLength ++
    optionalMember "max_length" .ofNat r.maxLength ++
    optionalMember "pattern" .string r.pattern ++
    [("numeric", .bool r.numeric)] ++
    optionalMember "min" .ofFloat r.min ++
    optionalMember "max" .ofFloat r.max ++
    (if r.options.isEmpty then [] else [("options", .strings r.options)]) ++
    optionalMember "reference" .string r.reference)

def RuleSet.toJson (s : RuleSet) : Json :=
  .object [("rules", .array (s.rules.map (·.toJson)))]

end ServiceLoom
