import ServiceLoom.Dict
import ServiceLoom.Decimal.Notation

/-!
# Documents as values

A `Json` value is what a document holds: null, a truth value, a number, a text,
a list or an object. An object lists its members in the order in which they were
written; `Json.normal` puts them into key order and keeps the last of several
members with one name, and every value that the library stores is normal.

A number is an integer of 64 bits, signed or unsigned, or a finite `Float`. The
two kinds are told apart: `1` and `1.0` are different values.
-/

namespace ServiceLoom

/-- A number of a document. -/
inductive Number where
  | integer (n : Int) (bounds : Word64.least ≤ n ∧ n < Word64.bound)
  | float (x : Float) (finite : x.isFinite = true)
deriving DecidableEq

namespace Number

/-- The integer as a number, if 64 bits hold it. -/
def ofInt? (n : Int) : Option Number :=
  if h : Word64.least ≤ n ∧ n < Word64.bound then some (.integer n h) else none

/-- The float as a number, if it is finite. -/
def ofFloat? (x : Float) : Option Number :=
  if h : x.isFinite = true then some (.float x h) else none

/-- The nearest float. -/
def toFloat : Number → Float
  | .integer n _ => Float.ofInt n
  | .float x _ => x

/-- The numeral: integers plainly, floats always with a point or an exponent. -/
def text : Number → String
  | .integer n _ => toString n
  | .float x _ => Decimal.documentLayout.write x

instance : BEq Number where
  beq
    | .integer m _, .integer n _ => m == n
    | .float x _, .float y _ => x == y
    | _, _ => false

end Number

/-- A value of a document. -/
inductive Json where
  | null
  | bool (b : Bool)
  | number (n : Number)
  | string (s : String)
  | array (items : List Json)
  | object (members : List (String × Json))
deriving Inhabited, BEq

namespace Json

/-- An integer, or null if 64 bits do not hold it. -/
def ofInt (n : Int) : Json := ((Number.ofInt? n).map number).getD null

def ofNat (n : Nat) : Json := ofInt n

/-- A float, or null for infinities and NaN, which no document can hold. -/
def ofFloat (x : Float) : Json := ((Number.ofFloat? x).map number).getD null

/-- The value, or null. -/
def ofOption {α : Type} (f : α → Json) (x : Option α) : Json :=
  (x.map f).getD null

def strings (xs : List String) : Json := .array (xs.map .string)

def bool? : Json → Option Bool
  | .bool b => some b
  | _ => none

def string? : Json → Option String
  | .string s => some s
  | _ => none

def object? : Json → Option (Dict Json)
  | .object ms => some ms
  | _ => none

def array? : Json → Option (List Json)
  | .array xs => some xs
  | _ => none

def number? : Json → Option Number
  | .number n => some n
  | _ => none

/-- The integer value of an integer. -/
def int? : Json → Option Int
  | .number (.integer n _) => some n
  | _ => none

def isNull : Json → Bool
  | .null => true
  | _ => false

def isArray : Json → Bool
  | .array _ => true
  | _ => false

/-- A member of an object. -/
def get? (j : Json) (key : String) : Option Json := j.object?.bind (·.get? key)

mutual

/-- The value with every object in key order; of several members with one name
the last is kept. -/
def normal : Json → Json
  | .array items => .array (normalItems items)
  | .object members => .object (Dict.ofEntries (normalMembers members))
  | .null => .null
  | .bool b => .bool b
  | .number n => .number n
  | .string s => .string s

def normalItems : List Json → List Json
  | [] => []
  | x :: rest => x.normal :: normalItems rest

def normalMembers : List (String × Json) → List (String × Json)
  | [] => []
  | (k, x) :: rest => (k, x.normal) :: normalMembers rest

end

mutual

/-- How many lists and objects enclose the innermost value. -/
def depth : Json → Nat
  | .array items => depthItems items + 1
  | .object members => depthMembers members + 1
  | .null | .bool _ | .number _ | .string _ => 0

def depthItems : List Json → Nat
  | [] => 0
  | x :: rest => max x.depth (depthItems rest)

def depthMembers : List (String × Json) → Nat
  | [] => 0
  | (_, x) :: rest => max x.depth (depthMembers rest)

end

end Json

end ServiceLoom
