import ServiceLoom.Decimal.Word64

/-!
# Floating-point numbers as integers times powers of two

A finite `Float` is `± mantissa · 2 ^ exponent`, and everything that is read off
its digits goes through that form: whether it is whole, its integer value, and
rounding to a whole number.
-/

namespace ServiceLoom.Decimal

/-- A finite binary number. Zero has mantissa `0`. -/
structure Binary where
  negative : Bool
  mantissa : Nat
  exponent : Int
deriving DecidableEq, Repr

/-- What a `Float` denotes. -/
inductive Reading where
  | finite (b : Binary)
  | infinite (negative : Bool)
  | notANumber
deriving DecidableEq, Repr

open Float.Model in
/-- The sign, mantissa and exponent of a `Float`. -/
def reading (x : Float) : Reading :=
  match UnpackedFloat.unpack Format.binary64 x.toBits.toBitVec with
  | .infinity sign => .infinite (sign == .negative)
  | .notANumber => .notANumber
  | .zero sign => .finite ⟨sign == .negative, 0, 0⟩
  | .finite sign mantissa exponent _ =>
      .finite ⟨sign == .negative, mantissa, exponent⟩

namespace Binary

/-- Whether the number is an integer. -/
def isWhole (b : Binary) : Bool :=
  b.mantissa == 0 || 0 ≤ b.exponent ||
    b.mantissa % twoTo (-b.exponent).toNat == 0

/-- The absolute value, rounded to an integer, halves upwards. -/
def roundedMagnitude (b : Binary) : Nat :=
  if 0 ≤ b.exponent then b.mantissa * twoTo b.exponent.toNat
  else
    let unit := twoTo (-b.exponent).toNat
    (2 * b.mantissa + unit) / (2 * unit)

/-- The nearest integer; halves go away from zero. -/
def rounded (b : Binary) : Int :=
  if b.negative then -(b.roundedMagnitude : Int) else b.roundedMagnitude

end Binary

/-- Whether a number is finite and an integer. -/
def isWhole (x : Float) : Bool :=
  match reading x with
  | .finite b => b.isWhole
  | _ => false

/-- The nearest integer to a finite number; halves go away from zero. -/
def nearestInt? (x : Float) : Option Int :=
  match reading x with
  | .finite b => some b.rounded
  | _ => none

/-- A number with a given sign. -/
def signed (negative : Bool) (x : Float) : Float := if negative then -x else x

/-- The number rounded to a whole one, halves away from zero. The sign of zero
is kept. -/
def roundHalfAway (x : Float) : Float :=
  match reading x with
  | .finite b =>
      if 0 ≤ b.exponent then x
      else signed b.negative (Float.ofNat b.roundedMagnitude)
  | _ => x

/-- The number rounded to two decimal places, the unit of currency amounts. -/
def roundCents (x : Float) : Float := roundHalfAway (x * 100) / 100

end ServiceLoom.Decimal
