import ServiceLoom.Store.Basic

/-!
# Procedures over a store

An `Access α` is a procedure that reads and writes a store call by call. It is
data: a call and what follows its answer. So the same procedure can be run on a
store, on a store some of whose calls fail, on fixed answers, or in turn with
another procedure.

`Access.run` runs a procedure on a store; a call that the outage names fails
before it does anything. `Access.footprint` lists the collections that the run
calls.
-/

namespace ServiceLoom

/-- A procedure with an answer of type `α`. -/
inductive Access (α : Type) where
  /-- The answer. -/
  | done (a : α)
  /-- No answer. -/
  | stopped (f : Failure)
  /-- Asks for the time. -/
  | clock (next : Calendar.Instant → Access α)
  /-- Asks for all rows of a collection. -/
  | findAll (slug : String) (next : List Record → Access α)
  /-- Asks for the row with an identifier. -/
  | findById (slug id : String) (next : Option Record → Access α)
  /-- Inserts a row. -/
  | create (slug : String) (data : Record) (next : Record → Access α)
  /-- Patches a row. -/
  | update (slug id : String) (patch : Record) (next : Option Record → Access α)
  /-- Removes a row. -/
  | delete (slug id : String) (next : Bool → Access α)

namespace Access

variable {α β : Type}

/-- The second procedure after the first. -/
def bind : Access α → (α → Access β) → Access β
  | done a, k => k a
  | stopped f, _ => stopped f
  | clock next, k => clock fun t => (next t).bind k
  | findAll slug next, k => findAll slug fun rows => (next rows).bind k
  | findById slug id next, k => findById slug id fun row => (next row).bind k
  | create slug data next, k => create slug data fun row => (next row).bind k
  | update slug id patch next, k =>
      update slug id patch fun row => (next row).bind k
  | delete slug id next, k => delete slug id fun b => (next b).bind k

instance : Monad Access where
  pure := done
  bind := bind

/-- Refuses the request. -/
def refuse (e : ServiceError) : Access α := stopped (.refused e)

/-- The answer of a step that needs no store. -/
def ofExcept : Except ServiceError α → Access α
  | .ok a => done a
  | .error e => refuse e

def now : Access Calendar.Instant := clock done

def rows (slug : String) : Access (List Record) := findAll slug done

def row? (slug id : String) : Access (Option Record) := findById slug id done

def insert (slug : String) (data : Record) : Access Record :=
  create slug data done

def patch (slug id : String) (data : Record) : Access (Option Record) :=
  update slug id data done

def remove (slug id : String) : Access Bool := delete slug id done

/-- Whether a row agrees with every entry of a filter, compared as text. -/
def agrees (filter row : Record) : Bool :=
  filter.all fun (key, want) =>
    ((row.get? key).map Json.plainText) == some want.plainText

/-- The rows of a collection that agree with a filter. -/
def matching (slug : String) (filter : Record) : Access (List Record) := do
  return (← rows slug).filter (agrees filter)

/-- The number of rows of a collection. -/
def count (slug : String) : Access Nat := do return (← rows slug).length

/-- Whether a row with an identifier exists. -/
def has (slug id : String) : Access Bool := do return (← row? slug id).isSome

end Access

/-- The calls that a store offers. -/
inductive Call where
  | findAll | findById | create | update | delete
deriving DecidableEq, Repr

/-- The name of a call in messages. -/
def Call.name : Call → String
  | findAll => "find_all"
  | findById => "find_by_id"
  | create => "create"
  | update => "update"
  | delete => "delete"

/-- Which calls fail, by collection. -/
abbrev Outage := Call → String → Bool

/-- No call fails. -/
def Outage.none : Outage := fun _ _ => false

/-- The failure of a call on a collection. -/
def Call.failure (c : Call) (slug : String) : Failure :=
  .refused (.storage (c.name ++ " " ++ slug ++ " failed"))

/-- Runs a procedure: its answer or failure, and the store that it leaves
behind. -/
def Access.run {α : Type} (h : Host) (outage : Outage) : Access α →
    Store → Except Failure α × Store
  | done a, s => (.ok a, s)
  | stopped f, s => (.error f, s)
  | clock next, s => (next h.now).run h outage s
  | findAll slug next, s =>
    if outage .findAll slug then (.error (Call.findAll.failure slug), s)
    else (next (s.rows slug)).run h outage s
  | findById slug id next, s =>
    if outage .findById slug then (.error (Call.findById.failure slug), s)
    else (next (s.find? slug id)).run h outage s
  | create slug data next, s =>
    if outage .create slug then (.error (Call.create.failure slug), s)
    else match s.create h slug data with
      | (.ok row, s) => (next row).run h outage s
      | (.error e, s) => (.error (.refused e), s)
  | update slug id patch next, s =>
    if outage .update slug then (.error (Call.update.failure slug), s)
    else
      let answer := s.update h slug id patch
      (next answer.1).run h outage answer.2
  | delete slug id next, s =>
    if outage .delete slug then (.error (Call.delete.failure slug), s)
    else
      let answer := s.delete slug id
      (next answer.1).run h outage answer.2

/-- The collections that a run calls, in order, with repetitions. A call that
fails counts too. -/
def Access.footprint {α : Type} (h : Host) (outage : Outage) : Access α →
    Store → List String
  | done _, _ => []
  | stopped _, _ => []
  | clock next, s => (next h.now).footprint h outage s
  | findAll slug next, s =>
    slug :: if outage .findAll slug then []
      else (next (s.rows slug)).footprint h outage s
  | findById slug id next, s =>
    slug :: if outage .findById slug then []
      else (next (s.find? slug id)).footprint h outage s
  | create slug data next, s =>
    slug :: if outage .create slug then []
    else match s.create h slug data with
      | (.ok row, s) => (next row).footprint h outage s
      | (.error _, _) => []
  | update slug id patch next, s =>
    slug :: if outage .update slug then []
    else
      let answer := s.update h slug id patch
      (next answer.1).footprint h outage answer.2
  | delete slug id next, s =>
    slug :: if outage .delete slug then []
    else
      let answer := s.delete slug id
      (next answer.1).footprint h outage answer.2

end ServiceLoom
