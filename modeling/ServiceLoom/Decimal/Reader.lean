import ServiceLoom.Decimal.Binary
import ServiceLoom.Text.Blank

/-!
# Reading numerals

A numeral has an optional sign, digits with at most one point among them, and an
optional exponent; `inf`, `infinity` and `nan` are numerals too, in any case.
The value is the nearest `Float`.
-/

namespace ServiceLoom.Decimal

/-- The natural number that decimal digits denote. -/
def natOfDigits (digits : List Char) : Nat :=
  digits.foldl (fun n c => n * 10 + (c.toNat - 0x30)) 0

/-- The `Float` nearest to `coefficient · 10 ^ exponent`. Magnitudes that no
`Float` reaches are settled before any power is computed. -/
def nearestFloat (coefficient : Nat) (exponent : Int) : Float :=
  if coefficient = 0 then 0
  else
    let first := exponent + ((Nat.toDigits 10 coefficient).length : Int)
    if 400 < first then 1 / 0
    else if first < -400 then 0
    else if 0 ≤ exponent then
      Float.ofScientific coefficient false exponent.toNat
    else Float.ofScientific coefficient true (-exponent).toNat

/-- An optional sign (`true` for minus) and the rest. -/
def splitSign : List Char → Bool × List Char
  | '-' :: rest => (true, rest)
  | '+' :: rest => (false, rest)
  | cs => (false, cs)

/-- The exponent after the digits: none, or a letter, an optional sign and
digits to the end. -/
def readExponent? : List Char → Option Int
  | [] => some 0
  | c :: rest =>
    if c = 'e' ∨ c = 'E' then
      let (negative, digits) := splitSign rest
      if digits ≠ [] ∧ digits.all Char.isDigit then
        let n : Int := natOfDigits digits
        some (if negative then -n else n)
      else none
    else none

/-- The fraction digits after an optional point, and the rest. -/
def splitFraction : List Char → List Char × List Char
  | '.' :: rest => (rest.takeWhile Char.isDigit, rest.dropWhile Char.isDigit)
  | cs => ([], cs)

/-- The value of an unsigned numeral. -/
def readMagnitude? (cs : List Char) : Option Float :=
  let word := String.ofList (cs.map Char.toLower)
  if word = "inf" ∨ word = "infinity" then some (1 / 0)
  else if word = "nan" then some (0 / 0)
  else
    let whole := cs.takeWhile Char.isDigit
    let (fraction, rest) := splitFraction (cs.dropWhile Char.isDigit)
    if whole = [] ∧ fraction = [] then none
    else (readExponent? rest).map fun e =>
      nearestFloat (natOfDigits (whole ++ fraction)) (e - fraction.length)

/-- The value of a numeral. -/
def read? (text : String) : Option Float :=
  let (negative, cs) := splitSign text.toList
  (readMagnitude? cs).map (signed negative)

/-- A natural number of 64 bits: digits after an optional plus sign. -/
def readNat64? (cs : List Char) : Option Nat :=
  let digits := match cs with
    | '+' :: rest => rest
    | _ => cs
  if digits ≠ [] ∧ digits.all Char.isDigit then
    let n := natOfDigits digits
    if n < Word64.bound then some n else none
  else none

end ServiceLoom.Decimal
