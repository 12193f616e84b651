import ServiceLoom.Store.Access

/-!
# Operations that look at a collection

Unique values, numbered values, rows by value, and the audit log.
-/

namespace ServiceLoom

/-- Whether a row other than the excluded one holds a value with the given
text. -/
def Record.holdsText (row : Record) (field wanted : String)
    (exclude : Option String) : Bool :=
  !(exclude.isSome && row.id? == exclude) &&
    (row.get? field).map Json.plainText == some wanted

/-- Refuses a value that another row of the collection holds. -/
def requireUnique (slug : String) (r : Record) (field : String)
    (exclude : Option String) (message : String) : Access Unit :=
  match r.filled? field with
  | none => .done ()
  | some v => do
    let rows ← Access.rows slug
    if rows.any fun row => row.holdsText field v.plainText exclude then
      .refuse (.invalid field message)
    else .done ()

/-- The number of a value that is a label followed by a number below
`2 ^ 64`. -/
def sequenceNumber? (label text : String) : Option Nat :=
  let cs := text.toList
  if label.toList.isPrefixOf cs then
    Decimal.readNat64? (cs.drop label.toList.length)
  else none

/-- The largest number in use with a label, or zero. -/
def lastNumber (label field : String) (rows : List Record) : Nat :=
  (rows.filterMap fun row =>
    ((row.get? field).map Json.plainText).bind (sequenceNumber? label)).foldl
    max 0

/-- A label and a number with at least `width` digits. -/
def sequenceText (label : String) (width number : Nat) : String :=
  label ++ String.ofList (Calendar.padded width number)

/-- Fills in a blank field with the number after the last one of its collection;
a value that is supplied must be unused. -/
def nextSequence (slug : String) (r : Record) (field label : String)
    (width : Nat) (duplicateMessage : String) : Access Record :=
  if isBlank (r.get? field) then do
    let next := Word64.succ (lastNumber label field (← Access.rows slug))
    return r.insert field (.string (sequenceText label width next))
  else do
    requireUnique slug r field none duplicateMessage
    return r

/-- The rows of a collection with a value in a field. -/
def findBy (slug field value : String) : Access (List Record) :=
  Access.matching slug [(field, .string value)]

/-- What the audit log records. -/
inductive AuditAction where
  | create | update | delete
deriving DecidableEq, Repr

def AuditAction.word : AuditAction → String
  | create => "CREATE"
  | update => "UPDATE"
  | delete => "DELETE"

/-- The collection of the audit log. -/
def auditSlug : String := "__audit_logs"

/-- An entry of the audit log. -/
def auditEntry (now : Calendar.Instant) (action : AuditAction)
    (slug id : String) : Record :=
  [("action", .string action.word), ("at", .string now.stamp),
    ("entity", .string slug), ("entity_id", .string id),
    ("message", .string (action.word ++ " " ++ slug ++ " " ++ id))]

/-- Adds an entry to the audit log. -/
def audit (action : AuditAction) (slug id : String) : Access Unit :=
  .clock fun now => .create auditSlug (auditEntry now action slug id)
    fun _ => .done ()

end ServiceLoom
