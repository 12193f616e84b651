import ServiceLoom.Decimal.Binary

/-!
# The fewest decimal digits that identify a number

Every real number close enough to a `Float` reads back as that `Float`. Among
the decimals in that interval the shortest is chosen, and of several shortest
ones the nearest. The search goes over the grids of multiples of `10 ^ e` from
coarse to fine, and looks only at the two neighbours of the number on each grid:
if any point of a grid lies in the interval, one of those two does.
-/

namespace ServiceLoom.Decimal

/-- Which of two equally near decimals is chosen. -/
inductive Tie where
  | upward
  | toEven
deriving DecidableEq, Repr

/-- The decimal `coefficient · 10 ^ exponent`. -/
structure Digits where
  coefficient : Nat
  exponent : Int
deriving DecidableEq, Repr

/-- The numbers that read back as `mantissa · 2 ^ exponent`, in quarters of the
unit of the last place: from `low` to `high` around `value`, ends included when
`closed`. -/
structure Interval where
  low : Nat
  value : Nat
  high : Nat
  closed : Bool
  exponent : Int

/-- The interval of a positive binary number. Below a power of two the
neighbours are closer. -/
def Interval.around (mantissa : Nat) (exponent : Int) : Interval where
  low :=
    if mantissa = twoTo 52 ∧ -1074 < exponent then 4 * mantissa - 1
    else 4 * mantissa - 2
  value := 4 * mantissa
  high := 4 * mantissa + 2
  closed := mantissa % 2 = 0
  exponent := exponent - 2

/-- The factor and divisor that take the interval's unit to the grid of
multiples of `10 ^ e`. -/
def Interval.scale (i : Interval) (e : Int) : Nat × Nat :=
  (twoTo i.exponent.toNat * tenTo (-e).toNat,
    twoTo (-i.exponent).toNat * tenTo e.toNat)

/-- Whether the `k`-th point of a grid lies in the interval. -/
def Interval.holds (i : Interval) (e : Int) (k : Nat) : Bool :=
  let (factor, divisor) := i.scale e
  let point := k * divisor
  if i.closed then i.low * factor ≤ point && point ≤ i.high * factor
  else i.low * factor < point && point < i.high * factor

/-- The point of a grid that lies in the interval and is nearest to its
value. -/
def Interval.nearest? (i : Interval) (tie : Tie) (e : Int) : Option Nat :=
  let (factor, divisor) := i.scale e
  let k := i.value * factor / divisor
  match i.holds e k && k != 0, i.holds e (k + 1) with
  | false, false => none
  | true, false => some k
  | false, true => some (k + 1)
  | true, true =>
    let below := i.value * factor - k * divisor
    let above := (k + 1) * divisor - i.value * factor
    if below < above then some k
    else if above < below then some (k + 1)
    else match tie with
      | .upward => some (k + 1)
      | .toEven => some (if k % 2 = 0 then k else k + 1)

/-- Searches the grids from `10 ^ e` on, each ten times finer than the one
before. -/
def Interval.search (i : Interval) (tie : Tie) : Nat → Int → Digits
  | 0, e => ⟨0, e⟩
  | steps + 1, e =>
    match i.nearest? tie e with
    | some k => ⟨k, e⟩
    | none => i.search tie steps (e - 1)

/-- An exponent of ten above every number of the interval. -/
def Interval.topExponent (i : Interval) : Int :=
  Int.fdiv ((Nat.log2 i.high + 1 + i.exponent) * 30103) 100000 + 2

/-- The shortest decimal that reads back as a positive binary number. A grid
with seventeen significant digits always has a hit, and the search starts at
most four places above the first digit. -/
def shortest (tie : Tie) (mantissa : Nat) (exponent : Int) : Digits :=
  let i := Interval.around mantissa exponent
  i.search tie 24 i.topExponent

end ServiceLoom.Decimal
