import ServiceLoom.Text.Category

/-!
# Pattern expressions

A pattern expression describes stretches of a text. `Expr.ends` takes a set of
places in a text to the set of places where a stretch that starts at one of them
can end; a text matches when a stretch starts anywhere in it. Which of several
stretches would be preferred does not matter here, so greedy and lazy
repetitions are the same.
-/

namespace ServiceLoom.Pattern

/-- A condition on a place of a text. -/
inductive Assertion where
  | textStart | textEnd
  | lineStart | lineEnd
  | breakStart | breakEnd
  | boundary (word : CharSet) | noBoundary (word : CharSet)
  | wordStart (word : CharSet) | wordEnd (word : CharSet)
  | wordStartHalf (word : CharSet) | wordEndHalf (word : CharSet)

/-- A pattern expression. -/
inductive Expr where
  | empty
  | set (s : CharSet)
  | assertion (a : Assertion)
  | seq (a b : Expr)
  | alt (a b : Expr)
  | repeated (a : Expr) (least : Nat) (most : Option Nat)

/-- Whether the character at a place, if there is one, belongs to a set. -/
def inSet (s : CharSet) (c : Option Char) : Bool := c.any s.memChar

/-- Whether a condition holds between two characters; none stands for an end of
the text. A carriage return and the line feed after it are one break. -/
def Assertion.holds (before after : Option Char) : Assertion → Bool
  | textStart => before.isNone
  | textEnd => after.isNone
  | lineStart => before.all (· == '\n')
  | lineEnd => after.all (· == '\n')
  | breakStart =>
      before.all (· == '\n') || (before == some '\r' && after != some '\n')
  | breakEnd =>
      after.all (· == '\r') || (after == some '\n' && before != some '\r')
  | boundary w => inSet w before != inSet w after
  | noBoundary w => inSet w before == inSet w after
  | wordStart w => !inSet w before && inSet w after
  | wordEnd w => inSet w before && !inSet w after
  | wordStartHalf w => !inSet w before
  | wordEndHalf w => !inSet w after

/-- Two ascending lists as one. The first argument bounds the number of
steps. -/
def mergeAscending : Nat → List Nat → List Nat → List Nat
  | 0, _, ys => ys
  | _ + 1, [], ys => ys
  | _ + 1, xs, [] => xs
  | n + 1, x :: xs, y :: ys =>
    if x < y then x :: mergeAscending n xs (y :: ys)
    else if y < x then y :: mergeAscending n (x :: xs) ys
    else x :: mergeAscending n xs ys

/-- The union of two ascending lists. -/
def unionPlaces (xs ys : List Nat) : List Nat :=
  mergeAscending (xs.length + ys.length) xs ys

/-- Applies a step a number of times, stopping early when it changes nothing. -/
def repeatExactly (step : List Nat → List Nat) : Nat → List Nat → List Nat
  | 0, places => places
  | n + 1, places =>
    let next := step places
    if next = places then places else repeatExactly step n next

/-- The places reached by at most a number of steps, stopping early when nothing
new is reached. -/
def repeatUpTo (step : List Nat → List Nat) : Nat → List Nat → List Nat
  | 0, places => places
  | n + 1, places =>
    let next := unionPlaces places (step places)
    if next = places then places else repeatUpTo step n next

/-- The places where a stretch can end that starts at one of the given
places. -/
def Expr.ends (text : Array Char) : Expr → List Nat → List Nat
  | empty, places => places
  | set s, places =>
    places.filterMap fun p => if inSet s text[p]? then some (p + 1) else none
  | assertion a, places =>
    places.filter fun p =>
      a.holds (if p = 0 then none else text[p - 1]?) text[p]?
  | seq a b, places => b.ends text (a.ends text places)
  | alt a b, places => unionPlaces (a.ends text places) (b.ends text places)
  | repeated a least most, places =>
    let step := a.ends text
    let start := repeatExactly step least places
    match most with
    | none => repeatUpTo step (text.size + 1) start
    | some m => repeatUpTo step (m - least) start

/-- Whether some stretch of a text fits the expression. -/
def Expr.occursIn (e : Expr) (text : String) : Bool :=
  let cs := text.toList.toArray
  !(e.ends cs (List.range (cs.size + 1))).isEmpty

end ServiceLoom.Pattern
