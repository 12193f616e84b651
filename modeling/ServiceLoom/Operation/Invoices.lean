import ServiceLoom.Store.Access

/-!
# Operations on invoices and their items

An item's line total is quantity times unit price; an invoice's totals follow
from its subtotal at a tax rate in percent, and the subtotal of a parent is the
sum over the items that refer to it. All amounts are rounded to cents.
-/

namespace ServiceLoom

namespace Record

/-- The number in a field, or zero. -/
def amount (r : Record) (field : String) : Float := (r.numeric? field).getD 0

/-- Sets the subtotal to its number, and the tax and grand totals from it. -/
def invoiceTotals (r : Record) (taxRate : Float) : Record :=
  let subtotal := r.amount "subtotal"
  let tax := Decimal.roundCents (subtotal * taxRate / 100)
  ((r.insert "subtotal" (.ofFloat subtotal)).insert
    "tax_total" (.ofFloat tax)).insert "grand_total"
    (.ofFloat (Decimal.roundCents (subtotal + tax)))

/-- The fields that hold totals. -/
def totalFields : List String := ["subtotal", "tax_total", "grand_total"]

/-- `invoiceTotals` for a record that holds one of the totals. -/
def invoiceTotalsIfTouched (r : Record) (taxRate : Float) : Record :=
  if totalFields.any fun f => Dict.contains r f then
    r.invoiceTotals taxRate
  else r

/-- The value of a field of a record, or else of the stored row. -/
def valueOr (r : Record) (existing : Option Record) (field : String) :
    Option Json :=
  (r.present? field).orElse fun _ => existing.bind (·.get? field)

/-- A factor of a line total: zero if missing, none if it is no number. -/
def factor? (r : Record) (existing : Option Record) (field : String) :
    Option Float :=
  match r.valueOr existing field with
  | none => some 0
  | some v => v.numeric?

/-- Sets the line total from quantity and unit price, taking from the stored row
what the record lacks. For a stored row nothing happens unless the record holds
one of the two. -/
def lineTotal (r : Record) (existing : Option Record)
    (quantity unitPrice target message : String) : Except ServiceError Record :=
  if existing.isSome && !(Dict.contains r quantity) &&
    !(Dict.contains r unitPrice) then .ok r
  else
    match r.factor? existing quantity, r.factor? existing unitPrice with
    | some q, some p =>
        .ok (r.insert target (.ofFloat (Decimal.roundCents (q * p))))
    | _, _ => .error (.invalid quantity message)

/-- What an item adds to its parent: its line total, or else quantity times unit
price. -/
def itemTotal (item : Record) : Float :=
  (item.numeric? "line_total").getD
    (item.amount "quantity" * item.amount "unit_price")

end Record

/-- The sum of numbers from first to last. The sum of none is negative zero. -/
def sumAmounts (xs : List Float) : Float := xs.foldl (· + ·) (-0.0)

/-- The totals of a parent with the given items. -/
def parentTotals (items : List Record) (taxRate : Float) : Record :=
  Record.invoiceTotals
    [("subtotal", .ofFloat
      (Decimal.roundCents (sumAmounts (items.map (·.itemTotal)))))] taxRate

/-- Recomputes the totals of the parents with the given identifiers, one after
the other. -/
def recalculateEach (childSlug foreignKey parentSlug : String)
    (taxRate : Float) : List String → Access Unit
  | [] => .done ()
  | id :: rest => do
    let items ← Access.matching childSlug [(foreignKey, .string id)]
    let _ ← Access.patch parentSlug id (parentTotals items taxRate)
    recalculateEach childSlug foreignKey parentSlug taxRate rest

/-- The texts of the values that are not blank, each at its first place only. -/
def distinctTexts (values : List (Option Json)) : List String :=
  ((values.filter fun v => !isBlank v).filterMap fun v =>
    v.map Json.plainText).foldl
    (fun seen t => if seen.contains t then seen else seen ++ [t]) []

/-- Recomputes the totals of every parent that one of the values names. -/
def recalculateTotals (childSlug foreignKey parentSlug : String)
    (parents : List (Option Json)) (taxRate : Float) : Access Unit :=
  recalculateEach childSlug foreignKey parentSlug taxRate (distinctTexts parents)

end ServiceLoom
