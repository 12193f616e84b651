import ServiceLoom.Decimal.Shortest

/-!
# Number notations

A `Notation` says how the digits of a number are laid out: which magnitudes are
written positionally and which with an exponent, whether a whole number shows a
fraction, and how an exponent is signed.
-/

namespace ServiceLoom.Decimal

/-- The layout of a number's digits. -/
structure Layout where
  tie : Tie
  /-- The smallest exponent of the first digit that is written positionally. -/
  positionalFrom : Option Int
  /-- The first exponent of the first digit that is no longer written
  positionally. -/
  positionalBelow : Option Int
  /-- A whole number in positional notation ends in `.0`. -/
  wholeFraction : Bool
  /-- A positive exponent carries its sign. -/
  exponentPlus : Bool

namespace Layout

/-- The decimal numeral of a natural number. -/
def natDigits (n : Nat) : List Char := Nat.toDigits 10 n

def zeros (n : Nat) : List Char := List.replicate n '0'

/-- The digits with the point after `places` of them; leading and trailing zeros
fill the gap. -/
def positional (l : Layout) (digits : List Char) (places : Int) : List Char :=
  if places ≤ 0 then ['0', '.'] ++ zeros (-places).toNat ++ digits
  else if (digits.length : Int) ≤ places then
    digits ++ zeros (places.toNat - digits.length) ++
      (if l.wholeFraction then ['.', '0'] else [])
  else digits.take places.toNat ++ ['.'] ++ digits.drop places.toNat

/-- One digit, the point if more follow, and the exponent of the first digit. -/
def scientific (l : Layout) (digits : List Char) (first : Int) : List Char :=
  let fraction := digits.drop 1
  digits.take 1 ++ (if fraction.isEmpty then [] else '.' :: fraction) ++ ['e'] ++
    (if first < 0 then '-' :: natDigits first.natAbs
      else (if l.exponentPlus then ['+'] else []) ++ natDigits first.natAbs)

/-- The digits of a positive number. -/
def magnitude (l : Layout) (d : Digits) : List Char :=
  let digits := natDigits d.coefficient
  let first := d.exponent + digits.length - 1
  if l.positionalFrom.all (· ≤ first) && l.positionalBelow.all (first < ·) then
    l.positional digits (first + 1)
  else l.scientific digits first

/-- The text of a number. -/
def write (l : Layout) (x : Float) : String :=
  match reading x with
  | .notANumber => "NaN"
  | .infinite negative => if negative then "-inf" else "inf"
  | .finite b =>
    let body :=
      if b.mantissa = 0 then
        (if l.wholeFraction then ['0', '.', '0'] else ['0'])
      else l.magnitude (shortest l.tie b.mantissa b.exponent)
    String.ofList (if b.negative then '-' :: body else body)

end Layout

/-- Numbers of a document: positional from `1e-5` up to `1e16`, a whole number
shows its fraction. -/
def documentLayout : Layout := ⟨.toEven, some (-5), some 16, true, true⟩

/-- Numbers of generated code: positional from `1e-4` up to `1e16`, a whole
number shows its fraction. -/
def codeLayout : Layout := ⟨.upward, some (-4), some 16, true, false⟩

/-- Numbers of messages: always positional, a whole number without a
fraction. -/
def plainLayout : Layout := ⟨.upward, none, none, false, false⟩

/-- A bound in a message: whole numbers below `9e15` as integers, others
positionally. -/
def boundText (x : Float) : String :=
  if isWhole x && x.abs < 9.0e15 then
    match nearestInt? x with
    | some n => toString n
    | none => plainLayout.write x
  else plainLayout.write x

end ServiceLoom.Decimal
