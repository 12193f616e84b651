import ServiceLoom.Operation.Invoices

/-!
# Operations on stock

Changing the quantity of a row, and moving a quantity from one location to
another.
-/

namespace ServiceLoom

/-- The refusal for a row that does not exist. -/
def missingRow (slug id : String) : ServiceError :=
  .notFound (slug ++ " '" ++ id ++ "' not found")

/-- The refusal for a quantity that would fall below zero. -/
def insufficientStock (field : String) (current delta : Float) : ServiceError :=
  .invalid field ("Insufficient stock. Current: " ++
    Decimal.plainLayout.write current ++
    ", Delta: " ++ Decimal.plainLayout.write delta)

/-- Adds to the number in a field of a row, unless the result is negative. -/
def adjustStock (slug id field : String) (delta : Float) : Access Record := do
  match ← Access.row? slug id with
  | none => .refuse (missingRow slug id)
  | some item =>
    let current := item.amount field
    let next := current + delta
    if next < 0 then .refuse (insufficientStock field current delta)
    else
      match ← Access.patch slug id [(field, .ofFloat next)] with
      | some row => .done row
      | none => .refuse (missingRow slug id)

/-- The filter for the row of the same item at a location. -/
def targetFilter (item : Record) (location : String) : Record :=
  match item.get? "sku" with
  | some sku => [("location_id", .string location), ("sku", sku)]
  | none => [("location_id", .string location)]

/-- The row that a move creates at a location without one. -/
def movedRow (item : Record) (location : String) (quantity : Float) : Record :=
  ((Record.systemFields.foldl Dict.erase item).insert
    "location_id" (.string location)).insert
    "quantity" (.ofFloat quantity)

/-- Moves a quantity of a row to the row of the same item at another location,
which is created if there is none. -/
def moveStock (slug id location : String) (quantity : Float) : Access Unit := do
  match ← Access.row? slug id with
  | none => .refuse (missingRow slug id)
  | some item =>
    let available := item.amount "quantity"
    if available < quantity then
      .refuse (.invalid "quantity" "Insufficient quantity to move")
    else
      let _ ← Access.patch slug id
          [("quantity", .ofFloat (available - quantity))]
      match ← Access.matching slug (targetFilter item location) with
      | target :: _ =>
        let _ ← Access.patch slug (target.id?.getD "")
          [("quantity", .ofFloat (target.amount "quantity" + quantity))]
        .done ()
      | [] =>
        let _ ← Access.insert slug (movedRow item location quantity)
        .done ()

end ServiceLoom
