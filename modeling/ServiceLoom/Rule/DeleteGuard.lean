import ServiceLoom.Store.Access

/-!
# Delete guards

A guard lists the entities that may refer to a row, and through which fields.
Removing a row is refused while some row still refers to it.
-/

namespace ServiceLoom

/-- A field that refers to the guarded entity. -/
structure RefField where
  name : String
  /-- Whether the value is a list of identifiers. -/
  multiple : Bool
deriving DecidableEq, Repr

/-- An entity that refers to the guarded one. -/
structure DependentSpec where
  entity : String
  /-- The field shown for a row; its identifier stands in when that is blank. -/
  displayField : String
  fields : List RefField
deriving DecidableEq, Repr

/-- The entities that may refer to the guarded one, in order. -/
structure DeleteGuard where
  dependents : List DependentSpec
deriving DecidableEq, Repr

/-- The most rows shown for one entity. -/
def previewLimit : Nat := 10

/-- Whether a row refers to an identifier through a field. -/
def RefField.refers (f : RefField) (row : Record) (id : String) : Bool :=
  match row.get? f.name with
  | some (.array items) =>
    if f.multiple then items.any (·.plainText == id)
    else (Json.array items).plainText == id
  | some v => !f.multiple && v.plainText == id
  | none => false

namespace DependentSpec

/-- Whether a row refers to an identifier. -/
def refers (d : DependentSpec) (row : Record) (id : String) : Bool :=
  d.fields.any (·.refers row id)

/-- How a row is shown. -/
def previewOf (d : DependentSpec) (row : Record) : PreviewRow :=
  let id := row.id?.getD ""
  { id, display := ((row.filled? d.displayField).map Json.plainText).getD id }

/-- The rows among the given ones that refer to an identifier; none if there are
none. -/
def recordOf? (d : DependentSpec) (rows : List Record) (id : String) :
    Option DependentRecord :=
  let found := rows.filter (d.refers · id)
  if found.isEmpty then none
  else some {
    entity := d.entity
    via := d.fields.map (·.name)
    count := found.length
    preview := (found.take previewLimit).map d.previewOf }

/-- A dependent as a document. -/
def toJson (d : DependentSpec) : Json :=
  .object [("entity", .string d.entity),
    ("display_field", .string d.displayField),
    ("fields", .array (d.fields.map fun f =>
      .object [("name", .string f.name), ("multiple", .bool f.multiple)]))]

end DependentSpec

namespace DeleteGuard

/-- The rows that refer to an identifier, entity by entity. -/
def scanEach (id : String) : List DependentSpec → Access (List DependentRecord)
  | [] => .done []
  | d :: rest => do
    let rows ← Access.rows d.entity
    let found ← scanEach id rest
    return (d.recordOf? rows id).toList ++ found

/-- The rows that refer to an identifier. -/
def scan (g : DeleteGuard) (id : String) : Access (List DependentRecord) :=
  scanEach id g.dependents

/-- Refuses the removal of a row to which others refer. -/
def check (g : DeleteGuard) (id : String) : Access Unit := do
  let found ← g.scan id
  if found.isEmpty then .done () else .refuse (.deleteBlocked found)

/-- A guard as a document. -/
def toJson (g : DeleteGuard) : Json :=
  .object [("dependents", .array (g.dependents.map (·.toJson)))]

end DeleteGuard

end ServiceLoom
