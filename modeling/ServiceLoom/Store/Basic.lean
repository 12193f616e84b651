import ServiceLoom.Record.Basic
import ServiceLoom.ServiceError

/-!
# The store

A store holds one ordered list of rows for each collection. Rows are found by
the text of their identifier; inserting assigns a missing identifier and refuses
one that is in use, updating keeps a row in its place, and removing keeps the
order of the others.

The host supplies what a store cannot know: the time and the identifiers still
unused.
-/

namespace ServiceLoom

/-- Where a store runs. -/
structure Host where
  /-- The present moment. -/
  now : Calendar.Instant
  /-- The `k`-th identifier to be handed out. -/
  freshId : Nat → String

/-- The time as rows record it. -/
def Host.stamp (h : Host) : Json := .string h.now.stamp

/-- Collections of rows by slug, and the number of identifiers handed out so
far. -/
structure Store where
  collections : Dict (List Record)
  issued : Nat

namespace Store

/-- A store without rows. -/
def empty : Store := ⟨[], 0⟩

/-- The rows of a collection, in storage order. -/
def rows (s : Store) (slug : String) : List Record :=
  (s.collections.get? slug).getD []

/-- The store with other rows in a collection. -/
def withRows (s : Store) (slug : String) (rows : List Record) : Store :=
  { s with collections := s.collections.insert slug rows }

/-- The first row with an identifier. -/
def find? (s : Store) (slug id : String) : Option Record :=
  (s.rows slug).find? (·.hasId id)

/-- The identifier of a row to be inserted, its own or a fresh one, and the
store after handing it out. -/
def assignId (h : Host) (s : Store) (data : Record) : String × Store :=
  match data.id? with
  | some id => (id, s)
  | none => (h.freshId s.issued, { s with issued := s.issued + 1 })

/-- A row with an identifier and both times, and the store after handing out the
identifier. -/
def stamp (h : Host) (s : Store) (data : Record) : String × Record × Store :=
  let (id, s) := s.assignId h data
  (id, data.stamped id h.stamp, s)

/-- Appends a row as it is, without an identifier or times of its own. -/
def seed (s : Store) (slug : String) : Json → Except ServiceError Store
  | .object row => .ok (s.withRows slug (s.rows slug ++ [row]))
  | _ =>
      .error (.internal ("seed row for '" ++ slug ++ "' must be a JSON object"))

/-- Inserts a row at the end of a collection, unless its identifier is in
use. -/
def create (h : Host) (s : Store) (slug : String) (data : Record) :
    Except ServiceError Record × Store :=
  let (id, row, s) := s.stamp h data
  if (s.rows slug).any (·.hasId id) then
    (.error (.storage (slug ++ " '" ++ id ++ "' already exists")), s)
  else (.ok row, s.withRows slug (s.rows slug ++ [row]))

/-- Changes the first row for which a test holds. -/
def modifyFirst (p : Record → Bool) (f : Record → Record) :
    List Record → List Record
  | [] => []
  | row :: rest => if p row then f row :: rest else row :: modifyFirst p f rest

/-- Patches a row; none if there is no such row. -/
def update (h : Host) (s : Store) (slug id : String) (patch : Record) :
    Option Record × Store :=
  match s.find? slug id with
  | none => (none, s)
  | some row =>
    let new := row.patched patch h.stamp
    (some new,
      s.withRows slug (modifyFirst (·.hasId id) (fun _ => new) (s.rows slug)))

/-- Removes the rows with an identifier, and says whether there were any. -/
def delete (s : Store) (slug id : String) : Bool × Store :=
  match s.collections.get? slug with
  | none => (false, s)
  | some rows =>
    let kept := rows.filter fun row => !row.hasId id
    (kept.length != rows.length, s.withRows slug kept)

end Store

end ServiceLoom
