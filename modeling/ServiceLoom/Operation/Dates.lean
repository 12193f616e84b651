import ServiceLoom.Store.Access

/-!
# Operations on dates

Dates are texts. A field that holds no readable date is left alone, except by
the checks that ask for one.
-/

namespace ServiceLoom

namespace Record

/-- Refuses a value that is not blank and no date. -/
def validDate (r : Record) (field message : String) :
    Except ServiceError Unit :=
  match r.filled? field with
  | some v =>
      if v.instant?.isNone then .error (.invalid field message) else .ok ()
  | none => .ok ()

/-- Refuses a value that is no date, and a date in the past unless that is
allowed. -/
def checkDate (r : Record) (now : Calendar.Instant) (field : String)
    (allowPast : Bool) (invalidMessage pastMessage : String) :
    Except ServiceError Unit :=
  match r.filled? field with
  | none => .ok ()
  | some v =>
    match v.instant? with
    | none => .error (.invalid field invalidMessage)
    | some t =>
      if t.before now && !allowPast then
        .error (.invalid field pastMessage)
      else .ok ()

/-- Refuses an end before the start, when both are dates. -/
def dateOrder (r : Record) (start finish message : String) :
    Except ServiceError Unit :=
  match r.instant? start, r.instant? finish with
  | some s, some e =>
      if e.before s then .error (.invalid finish message) else .ok ()
  | _, _ => .ok ()

/-- The longest span of days that can be added to a date. -/
def maxSpan : Int := 106751991167

/-- The day a number of days after an instant, within the calendar. -/
def dayAfter? (t : Calendar.Instant) (days : Int) : Option Int :=
  if days.natAbs ≤ maxSpan.natAbs then
    let day := t.dayAfter days
    if Calendar.minDay ≤ day ∧ day ≤ Calendar.maxDay then some day else none
  else none

/-- The text of a day. -/
def dayValue (day : Int) : Json :=
  .string (String.ofList (Calendar.dayText day))

/-- Fills in a blank issue date with today. -/
def defaultToday (r : Record) (now : Calendar.Instant)
    (field : String) : Record :=
  if isBlank (r.get? field) then r.insert field (dayValue now.day) else r

/-- Fills in a blank issue date with today and a blank due date from it. None if
the due date would lie outside of the calendar. -/
def dueDate? (r : Record) (now : Calendar.Instant) (issue due : String)
    (days : Int) : Option Record :=
  let r := r.defaultToday now issue
  if isBlank (r.get? due) then
    match r.instant? issue with
    | none => some r
    | some t => (dayAfter? t days).map fun day => r.insert due (dayValue day)
  else some r

end Record

/-- `Record.dueDate?` as a procedure, which halts where no due date exists. -/
def dueDate (r : Record) (issue due : String) (days : Int) : Access Record :=
  .clock fun now =>
    match r.dueDate? now issue due days with
    | some r => .done r
    | none => .stopped (.halted .calendarExceeded)

/-- The rows of a collection whose date lies in the past. -/
def expired (slug field : String) : Access (List Record) :=
  .clock fun now => .findAll slug fun rows =>
    .done (rows.filter fun row => (row.instant? field).any (·.before now))

end ServiceLoom
