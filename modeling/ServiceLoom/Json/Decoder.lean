import ServiceLoom.Json.Basic

/-!
# Decoding documents

A structure is written as an object with the names of its fields, or as a list
of its fields in order. A field may have several names, of which at most one is
written; unknown names are ignored; in a list, trailing fields may be left out.
A decoder has no value for what does not fit.
-/

namespace ServiceLoom.Json

/-- The fields of a written structure. -/
inductive Fields where
  | named (members : List (String × Json))
  | listed (items : List Json)

/-- The fields of a structure with `count` fields. -/
def fields? (count : Nat) : Json → Option Fields
  | .object members => some (.named members)
  | .array items => if items.length ≤ count then some (.listed items) else none
  | _ => none

namespace Fields

/-- What is written for the field at a place, under any of its names; no result
if it is written twice. -/
def written? (f : Fields) (place : Nat) (names : List String) :
    Option (Option Json) :=
  match f with
  | named members =>
    match members.filter fun e => names.contains e.1 with
    | [] => some none
    | [e] => some (some e.2)
    | _ => none
  | listed items => some items[place]?

/-- A field that must be written. -/
def required? {α : Type} (f : Fields) (place : Nat) (names : List String)
    (decode : Json → Option α) : Option α := do
  match ← f.written? place names with
  | some j => decode j
  | none => none

/-- A field with a value of its own when it is not written. -/
def default? {α : Type} (f : Fields) (place : Nat) (names : List String)
    (decode : Json → Option α) (default : α) : Option α := do
  match ← f.written? place names with
  | some j => decode j
  | none => some default

/-- A field that may be left out or null. -/
def optional? {α : Type} (f : Fields) (place : Nat) (names : List String)
    (decode : Json → Option α) : Option (Option α) := do
  match ← f.written? place names with
  | some .null => some none
  | some j => (decode j).map some
  | none => some none

end Fields

/-- A list whose items all decode. -/
def list? {α : Type} (decode : Json → Option α) : Json → Option (List α)
  | .array items => items.mapM decode
  | _ => none

/-- A natural number below `2 ^ 64`, written as an integer. -/
def nat? (j : Json) : Option Nat := do
  let n ← j.int?
  if 0 ≤ n then some n.toNat else none

/-- Any number. -/
def float? (j : Json) : Option Float := j.number?.map (·.toFloat)

/-- The deepest nesting that a document may have. -/
def depthLimit : Nat := 127

/-- A free-form value inside a number of lists and objects. -/
def freeform? (level : Nat) (j : Json) : Option Json :=
  if level + j.depth ≤ depthLimit then some j.normal else none

/-- A free-form object inside a number of lists and objects. -/
def freeformObject? (level : Nat) (j : Json) : Option (Dict Json) :=
  (freeform? level j).bind object?

/-- The name of an alternative without content: a text, or an object that gives
it null. -/
def alternative? : Json → Option String
  | .string s => some s
  | .object [(s, .null)] => some s
  | _ => none

end ServiceLoom.Json
