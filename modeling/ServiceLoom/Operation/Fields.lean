import ServiceLoom.Record.Basic
import ServiceLoom.ServiceError
import ServiceLoom.Text.Case

/-!
# Operations on the fields of a record

Each operation fills in, rewrites or checks named fields of one record. A check
answers nothing or one refusal for one field; an operation that refuses leaves
the record as it was.
-/

namespace ServiceLoom

/-- How a text is normalised, besides losing the blanks at its ends. -/
inductive TextCase where
  | trim | upper | lower
deriving DecidableEq, Repr

/-- The text in the given case, without blanks at its ends. -/
def TextCase.apply (c : TextCase) (s : String) : String :=
  let s := Text.trim s
  match c with
  | trim => s
  | upper => Text.upper s
  | lower => Text.lower s

namespace Record

/-- Sets a field that is missing or null. -/
def setDefault (r : Record) (field : String) (value : Json) : Record :=
  if (r.present? field).isSome then r else r.insert field value

/-- Sets a field. -/
def force (r : Record) (field : String) (value : Json) : Record :=
  r.insert field value

/-- Replaces a value by the number that it denotes. -/
def coerceNumber (r : Record) (field message : String) :
    Except ServiceError Record :=
  match r.present? field with
  | none => .ok r
  | some v =>
    match v.numeric? with
    | none => .error (.invalid field message)
    | some x => .ok (r.insert field (.ofFloat x))

/-- Replaces a value by its text in a given case. -/
def normalizeText (r : Record) (field : String) (c : TextCase) : Record :=
  match r.present? field with
  | none => r
  | some v => r.insert field (.string (c.apply v.plainText))

/-- Writes a date in the internet form. What is no date stays as it is. -/
def normalizeDate (r : Record) (field : String) : Record :=
  match r.instant? field with
  | none => r
  | some t => r.insert field (.string t.text)

/-- Refuses a blank field. -/
def require (r : Record) (field message : String) : Except ServiceError Unit :=
  if isBlank (r.get? field) then .error (.invalid field message) else .ok ()

/-- Refuses a field that is supplied but blank. -/
def rejectBlank (r : Record) (field message : String) :
    Except ServiceError Unit :=
  if !isAbsent (r.get? field) && isBlank (r.get? field) then
    .error (.invalid field message)
  else .ok ()

/-- Whether a field holds something: a list must have items. -/
def holdsValue (r : Record) (field : String) : Bool :=
  match r.get? field with
  | some (.array items) => !items.isEmpty
  | other => !isBlank other

/-- Refuses a record none of whose given fields holds something. -/
def requireAny (r : Record) (fields : List String) (message : String) :
    Except ServiceError Unit :=
  if fields.any r.holdsValue then .ok ()
  else .error (.invalid (fields.head?.getD "_") message)

/-- Refuses a number below a bound. -/
def atLeast (r : Record) (field : String) (least : Float) (message : String) :
    Except ServiceError Unit :=
  match r.numeric? field with
  | some x => if x < least then .error (.invalid field message) else .ok ()
  | none => .ok ()

/-- Refuses a value whose text is not the expected one. -/
def fixedValue (r : Record) (field : String) (expected : Json)
    (message : String) : Except ServiceError Unit :=
  match r.present? field with
  | some v =>
    if v.plainText ≠ expected.plainText then
      .error (.invalid field message)
    else .ok ()
  | none => .ok ()

/-- Fills in a blank field if there is a default, and refuses a value outside of
the options. -/
def oneOf (r : Record) (field : String) (options : List String)
    (default : Option String) (message : String) : Except ServiceError Record :=
  if isBlank (r.get? field) then
    match default with
    | some d => .ok (r.insert field (.string d))
    | none => .ok r
  else if options.contains (((r.get? field).map Json.plainText).getD "") then
    .ok r
  else .error (.invalid field message)

end Record

end ServiceLoom
