import ServiceLoom.Json.Basic

/-!
# Errors of a service

What a generated service answers when it refuses a request, with the stable
code, the status and the body that clients receive. A `Failure` is a refusal or
a halt: a halt is no answer at all, because an arithmetic limit was passed.
-/

namespace ServiceLoom

/-- A referencing row, as shown when a removal is refused. -/
structure PreviewRow where
  id : String
  display : String
deriving DecidableEq, Repr

/-- A collection whose rows refer to a row that was to be removed. -/
structure DependentRecord where
  entity : String
  via : List String
  count : Nat
  preview : List PreviewRow
deriving DecidableEq, Repr

/-- Why a service refuses a request. -/
inductive ServiceError where
  | notFound (text : String)
  | validationFailed (fields : Dict String)
  | deleteBlocked (dependents : List DependentRecord)
  | storage (text : String)
  | internal (text : String)
deriving DecidableEq, Repr

namespace ServiceError

/-- A refusal because of one field. -/
def invalid (field message : String) : ServiceError :=
  validationFailed [(field, message)]

/-- The code that clients match on. -/
def code : ServiceError → String
  | notFound _ => "NOT_FOUND"
  | validationFailed _ => "VALIDATION_FAILED"
  | deleteBlocked _ => "DELETE_BLOCKED"
  | storage _ => "STORAGE_ERROR"
  | internal _ => "INTERNAL"

/-- The status of the answer. -/
def status : ServiceError → Nat
  | notFound _ => 404
  | validationFailed _ => 400
  | deleteBlocked _ => 409
  | storage _ => 500
  | internal _ => 500

def message : ServiceError → String
  | notFound text => text
  | validationFailed _ => "validation failed"
  | deleteBlocked _ =>
      "cannot delete: this record is referenced by other records"
  | storage text => text
  | internal text => text

def fields? : ServiceError → Option (Dict String)
  | validationFailed fields => some fields
  | _ => none

def dependents? : ServiceError → Option (List DependentRecord)
  | deleteBlocked dependents => some dependents
  | _ => none

end ServiceError

def PreviewRow.toJson (p : PreviewRow) : Json :=
  .object [("display", .string p.display), ("id", .string p.id)]

def DependentRecord.toJson (d : DependentRecord) : Json :=
  .object [("count", .ofNat d.count), ("entity", .string d.entity),
    ("preview", .array (d.preview.map (·.toJson))), ("via", .strings d.via)]

/-- The body of the answer. -/
def ServiceError.body (e : ServiceError) : Json :=
  let base := [("code", Json.string e.code), ("message", .string e.message)]
  match e with
  | validationFailed fields =>
    .object (Dict.insert base "fields"
      (.object (fields.map fun (k, m) => (k, .string m))))
  | deleteBlocked dependents =>
    .object (Dict.insert base "dependents" (.array (dependents.map (·.toJson))))
  | _ => .object base

/-- A limit whose crossing ends the program. -/
inductive Halt where
  /-- A day lies outside of the calendar. -/
  | calendarExceeded
deriving DecidableEq, Repr

/-- Why a procedure stopped. -/
inductive Failure where
  | refused (e : ServiceError)
  | halted (h : Halt)
deriving DecidableEq, Repr

end ServiceLoom
