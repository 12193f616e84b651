import ServiceLoom.Text.Blank
import ServiceLoom.Text.Case

/-!
# Field types

The declared type of a field. Names are read without blanks at their ends and
without ASCII case, and several names stand for one type; a name that is not
known is kept as it is.
-/

namespace ServiceLoom

/-- The declared type of a field. -/
inductive FieldType where
  | string | text | email | integer | number | decimal | boolean | date
  | datetime | reference | json
  | other (name : String)
deriving DecidableEq, Repr

namespace FieldType

/-- The type that a name stands for. -/
def ofName (raw : String) : FieldType :=
  match Text.lowerAscii (Text.trim raw) with
  | "" | "string" | "uuid" => string
  | "text" | "textarea" => text
  | "email" => email
  | "integer" | "int" => integer
  | "number" | "float" => number
  | "decimal" | "currency" => decimal
  | "boolean" | "bool" => boolean
  | "date" => date
  | "datetime" | "date_time" | "timestamp" => datetime
  | "reference" | "ref" => reference
  | "json" | "object" => json
  | name => other name

/-- The name of a type. -/
def name : FieldType → String
  | string => "string"
  | text => "text"
  | email => "email"
  | integer => "integer"
  | number => "number"
  | decimal => "decimal"
  | boolean => "boolean"
  | date => "date"
  | datetime => "datetime"
  | reference => "reference"
  | json => "json"
  | other name => name

def isNumeric (t : FieldType) : Bool := t = integer || t = number || t = decimal

end FieldType

end ServiceLoom
