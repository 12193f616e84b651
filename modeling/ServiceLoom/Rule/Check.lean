import ServiceLoom.Pattern.Engine
import ServiceLoom.Rule.FieldRule
import ServiceLoom.Store.Access

/-!
# Checking a write against its rules

Every rule is checked, and a field reports its first violation. The constraints
of one rule are checked in a fixed order: required, length, pattern, number,
options, unique, reference. The rows of the own collection and the identifiers
of referenced ones are read when a rule first needs them, and at most once.
-/

namespace ServiceLoom

/-- Whether a write creates a row or changes the row with an identifier. -/
inductive WriteMode where
  | create
  | update (id : String)
deriving DecidableEq, Repr

/-- The identifier of the row that a write changes. -/
def WriteMode.ownId : WriteMode → Option String
  | create => none
  | update id => some id

/-- What has been read so far for one check. -/
structure Lookups where
  own : Option (List Record)
  ids : Dict (List String)

namespace FieldRule

/-- Whether a required value is missing. Lists must have items, truth values
must be there, and other values must not be blank. -/
def isMissing (r : FieldRule) (value : Option Json) : Bool :=
  if r.multiple then
    match value with
    | some (.array items) => items.isEmpty
    | _ => true
  else if r.kind = .boolean then isAbsent value
  else isBlank value

/-- The first violated bound on the length or shape of a text. -/
def textViolation? [Pattern.Engine] (r : FieldRule) (text : String) :
    Option String :=
  if r.minLength.any (text.length < ·) then
    some (r.label ++ " must be at least " ++ toString (r.minLength.getD 0) ++
      " characters")
  else if r.maxLength.any (· < text.length) then
    some (r.label ++ " must be at most " ++ toString (r.maxLength.getD 0) ++
      " characters")
  else if r.pattern.any fun p => !Pattern.accepts p text then
    some (r.label ++ " is invalid")
  else none

/-- The first violated bound on a number. -/
def numberViolation? (r : FieldRule) (value : Json) : Option String :=
  match value.numeric? with
  | none => some (r.label ++ " must be a number")
  | some x =>
    if r.kind = .integer ∧ !Decimal.isWhole x then
      some (r.label ++ " must be an integer")
    else if r.min.any (x < ·) then
      some (r.label ++ " must be ≥ " ++ Decimal.boundText (r.min.getD 0))
    else if r.max.any (· < x) then
      some (r.label ++ " must be ≤ " ++ Decimal.boundText (r.max.getD 0))
    else none

/-- The first violated constraint on a single value; lists are exempt. -/
def scalarViolation? [Pattern.Engine] (r : FieldRule) (value : Json) :
    Option String :=
  if value.isArray then none
  else (r.textViolation? value.plainText).orElse fun _ =>
    if r.numeric then r.numberViolation? value else none

/-- Whether a value, or every item of a list, is one of the options. -/
def inOptions (r : FieldRule) : Json → Bool
  | .array items => items.all fun v => r.options.contains v.plainText
  | v => r.options.contains v.plainText

/-- The violation of the options. -/
def optionViolation? (r : FieldRule) (value : Json) : Option String :=
  if !r.options.isEmpty && !r.inOptions value then
    some (r.label ++ " must be one of: " ++ ", ".intercalate r.options)
  else none

/-- The first violation that can be seen without the store. -/
def localViolation? [Pattern.Engine] (r : FieldRule) (value : Json) :
    Option String :=
  (r.scalarViolation? value).orElse fun _ => r.optionViolation? value

/-- Whether a row other than the one that the write changes holds the value. -/
def isTaken (r : FieldRule) (mode : WriteMode) (value : Json)
    (rows : List Record) : Bool :=
  rows.any fun row =>
    !(mode.ownId.isSome && row.id? == mode.ownId) &&
      (row.get? r.field).map Json.plainText == some value.plainText

/-- The violation of a reference, given the identifiers of the referenced
collection. -/
def referenceViolation? (r : FieldRule) (value : Json) (ids : List String) :
    Option String :=
  let dangling := match value with
    | .array items =>
        if r.multiple then items.any fun v => !ids.contains v.plainText
      else !ids.contains value.plainText
    | _ => !ids.contains value.plainText
  if dangling then some (r.label ++ " has an invalid reference") else none

end FieldRule

namespace Lookups

/-- Nothing read yet. -/
def empty : Lookups := ⟨none, []⟩

/-- The rows of the own collection. -/
def rows (slug : String) (l : Lookups) : Access (List Record × Lookups) :=
  match l.own with
  | some rows => .done (rows, l)
  | none => .findAll slug fun rows => .done (rows, { l with own := some rows })

/-- The identifiers of a collection. -/
def identifiers (target : String) (l : Lookups) :
    Access (List String × Lookups) :=
  match l.ids.get? target with
  | some ids => .done (ids, l)
  | none => .findAll target fun rows =>
    let ids := rows.filterMap (·.id?)
    .done (ids, { l with ids := l.ids.insert target ids })

end Lookups

namespace FieldRule

/-- The violation of uniqueness. -/
def uniqueViolation (r : FieldRule) (slug : String) (mode : WriteMode)
    (value : Json) (l : Lookups) : Access (Option String × Lookups) :=
  if r.unique then do
    let (rows, l) ← l.rows slug
    return (if r.isTaken mode value rows then
      some (r.label ++ " must be unique") else none, l)
  else .done (none, l)

/-- The violation of a reference. A list of references must be a list. -/
def danglingViolation (r : FieldRule) (value : Json) (l : Lookups) :
    Access (Option String × Lookups) :=
  match r.reference with
  | none => .done (none, l)
  | some target =>
    if r.multiple && !value.isArray then
      .done (some (r.label ++ " must be a list of IDs"), l)
    else do
      let (ids, l) ← l.identifiers target
      return (r.referenceViolation? value ids, l)

/-- The first violation of a rule by a value. -/
def violation [Pattern.Engine] (r : FieldRule) (slug : String)
    (mode : WriteMode) (value : Option Json) (l : Lookups) :
    Access (Option String × Lookups) :=
  if r.required && r.isMissing value then
    .done (some (r.label ++ " is required"), l)
  else
    match value.filter fun v => !isBlank (some v) with
    | none => .done (none, l)
    | some v =>
      match r.localViolation? v with
      | some message => .done (some message, l)
      | none => do
        let (found, l) ← r.uniqueViolation slug mode v l
        match found with
        | some message => .done (some message, l)
        | none => r.danglingViolation v l

end FieldRule

namespace RuleSet

/-- The violations of the rules by a record, added to those of earlier rules. -/
def collect [Pattern.Engine] (slug : String) (data : Record)
    (mode : WriteMode) :
    List FieldRule → Dict String → Lookups → Access (Dict String)
  | [], errors, _ => .done errors
  | r :: rest, errors, l => do
    let (found, l) ← r.violation slug mode (data.get? r.field) l
    match found with
    | some message =>
        collect slug data mode rest (errors.insert r.field message) l
    | none => collect slug data mode rest errors l

/-- The message of every field that a record gets wrong. -/
def collectErrors [Pattern.Engine] (s : RuleSet) (slug : String) (data : Record)
    (mode : WriteMode) : Access (Dict String) :=
  collect slug data mode s.rules [] .empty

/-- Refuses a record that breaks a rule. -/
def validate [Pattern.Engine] (s : RuleSet) (slug : String) (data : Record)
    (mode : WriteMode) : Access Unit := do
  let errors ← s.collectErrors slug data mode
  if errors.isEmpty then .done () else .refuse (.validationFailed errors)

end RuleSet

end ServiceLoom
