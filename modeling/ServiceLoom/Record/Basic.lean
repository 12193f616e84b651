import ServiceLoom.Json.Printer
import ServiceLoom.Decimal.Reader
import ServiceLoom.Calendar.Reader

/-!
# Records

A record is a row of a collection: values by field name. This module says how a
single value is read (as text, as a number, as a truth value, as a date, as
nothing) and how a row is stamped, patched and merged.

Whole numbers read as the same text whether they are written as integers or as
floats, so identifiers and unique values compare by their text.
-/

namespace ServiceLoom

namespace Json

/-- The text of a number: a whole float below `9e15` reads as an integer. -/
def numberText : Number → String
  | .integer n h => (Number.integer n h).text
  | .float x h =>
    if Decimal.isWhole x && x.abs < 9.0e15 then
      match Decimal.nearestInt? x with
      | some n => toString n
      | none => (Number.float x h).text
    else (Number.float x h).text

/-- The text of a value: a text as it is, nothing for null, and the compact form
of lists and objects. -/
def plainText : Json → String
  | .null => ""
  | .string s => s
  | .bool b => if b then "true" else "false"
  | .number n => numberText n
  | .array items => (Json.array items).compact
  | .object members => (Json.object members).compact

/-- The number that a value denotes: numbers, and texts that hold a numeral. -/
def numeric? : Json → Option Float
  | .number n => some n.toFloat
  | .string s => Decimal.read? (Text.trim s)
  | _ => none

/-- The instant that a value denotes: texts that hold a date. -/
def instant? : Json → Option Calendar.Instant
  | .string s => Calendar.readInstant? s
  | _ => none

/-- Whether a value switches something on. An object does unless its member
`enabled` is `false`. -/
def truthy : Json → Bool
  | .null => false
  | .bool b => b
  | .number n => n.toFloat != 0
  | .string s => s ≠ ""
  | .array _ => true
  | .object members => (Dict.get? members "enabled").bind bool? ≠ some false

end Json

/-- Whether there is no value, or null. -/
def isAbsent : Option Json → Bool
  | none => true
  | some j => j.isNull

/-- Whether there is no value, null, or a text of blanks. -/
def isBlank : Option Json → Bool
  | none => true
  | some .null => true
  | some (.string s) => Text.isBlank s
  | some _ => false

/-- A row of a collection. -/
abbrev Record := Dict Json

namespace Record

/-- Fields that the store manages and no user writes. -/
def systemFields : List String := ["id", "created_at", "updated_at"]

/-- The value of a field that is neither missing nor null. -/
def present? (r : Record) (field : String) : Option Json :=
  (r.get? field).filter fun v => !v.isNull

/-- The value of a field that is not blank. -/
def filled? (r : Record) (field : String) : Option Json :=
  (r.get? field).filter fun v => !isBlank (some v)

/-- The number in a field. -/
def numeric? (r : Record) (field : String) : Option Float :=
  (r.get? field).bind Json.numeric?

/-- The instant in a field. -/
def instant? (r : Record) (field : String) : Option Calendar.Instant :=
  (r.get? field).bind Json.instant?

/-- The identifier of a row, as text. -/
def id? (r : Record) : Option String := (r.present? "id").map Json.plainText

/-- Whether a row has a given identifier. -/
def hasId (r : Record) (id : String) : Bool := r.id? == some id

/-- A row ready for insertion: its identifier as text, and both times set. -/
def stamped (r : Record) (id : String) (now : Json) : Record :=
  ((r.insert "id" (.string id)).insert "created_at" now).insert "updated_at" now

/-- A row with the entries of a patch. The identifier and the time of creation
never change. -/
def patched (row patch : Record) (now : Json) : Record :=
  (Dict.merge row (patch.filter fun e => e.1 ≠ "id" &&
    e.1 ≠ "created_at")).insert "updated_at" now

end Record

end ServiceLoom
