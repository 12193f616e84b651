import ServiceLoom.Operation.Collections
import ServiceLoom.Operation.Fields
import ServiceLoom.Rule.DeleteGuard
import ServiceLoom.Rule.FieldRule

/-!
# Fragments and methods

The behaviour of a generated service as data. A fragment is one step at a hook
of the service's create, update or delete method; a method stands on its own. A
fragment set is what a bundle or the rules of a schema contribute.
-/

namespace ServiceLoom

/-- The places in a service where fragments go. -/
inductive Hook where
  | beforeCreateValidation
  | beforeCreateTransformation
  | afterCreateLogging
  | beforeUpdateValidation
  | afterUpdateLogging
  | beforeDeleteValidation
  | afterDeleteLogging
deriving DecidableEq, Repr

namespace Hook

/-- All hooks, in the order of the skeleton. -/
def all : List Hook :=
  [beforeCreateValidation, beforeCreateTransformation, afterCreateLogging,
    beforeUpdateValidation, afterUpdateLogging, beforeDeleteValidation,
    afterDeleteLogging]

/-- The name of the marker in the skeleton. -/
def marker : Hook → String
  | beforeCreateValidation => "BEFORE_CREATE_VALIDATION"
  | beforeCreateTransformation => "BEFORE_CREATE_TRANSFORMATION"
  | afterCreateLogging => "AFTER_CREATE_LOGGING"
  | beforeUpdateValidation => "BEFORE_UPDATE_VALIDATION"
  | afterUpdateLogging => "AFTER_UPDATE_LOGGING"
  | beforeDeleteValidation => "BEFORE_DELETE_VALIDATION"
  | afterDeleteLogging => "AFTER_DELETE_LOGGING"

/-- The write at which a hook stands. -/
def action : Hook → AuditAction
  | beforeCreateValidation | beforeCreateTransformation | afterCreateLogging =>
      .create
  | beforeUpdateValidation | afterUpdateLogging => .update
  | beforeDeleteValidation | afterDeleteLogging => .delete

end Hook

/-- A step of a service at a hook. -/
inductive Fragment where
  /-- Checks the field rules, on update for the stored row with the changes. -/
  | fieldRules
  /-- Refuses to remove a row to which others refer. -/
  | deleteGuard
  | defaultValue (field : String) (value : Json)
  | forceValue (field : String) (value : Json)
  | coerceNumber (field message : String)
  | normalize (field : String) (case : TextCase)
  | normalizeDate (field : String)
  | require (field message : String)
  | rejectBlank (field message : String)
  | requireAny (fields : List String) (message : String)
  | atLeast (field : String) (least : Float) (message : String)
  | fixedValue (field : String) (value : Json) (message : String)
  | unique (field message : String)
  | oneOf (field : String) (options : List String)
      (default : Option String) (message : String)
  | checkDate (field : String) (allowPast : Bool)
      (invalidMessage pastMessage : String)
  | validDate (field message : String)
  /-- On update the dates are those of the stored row with the changes. -/
  | dateOrder (start finish message : String)
  | sequence (field label : String) (width : Nat) (message : String)
  | dueDate (issue due : String) (days : Int)
  | invoiceTotals (taxRate : Float) (onlyIfTouched : Bool)
  | lineTotal (quantity unitPrice target message : String)
  /-- Recomputes the totals of the parents that the row names, before and after
  an update. -/
  | recalculateParent (foreignKey parentSlug : String) (taxRate : Float)
  | audit

/-- A method of a service besides the common ones. -/
inductive Method where
  /-- The rules that `Fragment.fieldRules` checks. -/
  | fieldRules (rules : RuleSet)
  /-- The guard that `Fragment.deleteGuard` asks. -/
  | deleteGuard (guard : DeleteGuard)
  | adjustStock (name field : String)
  | findBy (name field : String)
  | expired (name field : String)
  | moveStock (name : String)

/-- The name of a method. -/
def Method.name : Method → String
  | fieldRules _ => "field_rules"
  | deleteGuard _ => "delete_guard"
  | adjustStock name _ => name
  | findBy name _ => name
  | expired name _ => name
  | moveStock name => name

/-- Fragments at their hooks, and methods. -/
structure FragmentSet where
  hooks : List (Hook × Fragment)
  methods : List Method

/-- Whether a set contributes nothing. -/
def FragmentSet.isEmpty (s : FragmentSet) : Bool :=
  s.hooks.isEmpty && s.methods.isEmpty

end ServiceLoom
