import ServiceLoom.Json.Basic
import ServiceLoom.Decimal.Reader
import ServiceLoom.Text.Literal

/-!
# Reading documents

The reader accepts exactly the grammar of the format: no comments, no trailing
commas, no leading zeros, no lone surrogates, nothing after the value but
blanks. Members keep their order and their repetitions, so that a decoder can
refuse a repeated one.

The value of a numeral with a fraction or an exponent is its first digits, as
many as fit 64 bits, scaled by powers of ten; a value beyond the range of
`Float` is an error.
-/

namespace ServiceLoom.Json

open Decimal (signed)

/-- Skips the four blank characters of the format. -/
def skipBlanks : List Char → List Char :=
  List.dropWhile fun c => c == ' ' || c == '\n' || c == '\t' || c == '\r'

/-- Four hexadecimal digits. -/
def hexUnit? : List Char → Option (Nat × List Char)
  | a :: b :: c :: d :: rest => do
    let a ← Text.hexDigit? a
    let b ← Text.hexDigit? b
    let c ← Text.hexDigit? c
    let d ← Text.hexDigit? d
    some (((a * 16 + b) * 16 + c) * 16 + d, rest)
  | _ => none

/-- The character of one or two code units that follow `\u`; a high surrogate
needs a low one. -/
def unicodeEscape? (cs : List Char) : Option (Char × List Char) := do
  let (high, rest) ← hexUnit? cs
  if 0xD800 ≤ high ∧ high < 0xDC00 then
    match rest with
    | '\\' :: 'u' :: rest =>
      let (low, rest) ← hexUnit? rest
      if 0xDC00 ≤ low ∧ low < 0xE000 then
        some (Char.ofNat
          (0x10000 + (high - 0xD800) * 0x400 + (low - 0xDC00)), rest)
      else none
    | _ => none
  else if 0xDC00 ≤ high ∧ high < 0xE000 then none
  else some (Char.ofNat high, rest)

/-- The rest of a text after its opening quote. The first argument bounds the
number of characters, the second holds those read so far, latest first. -/
def textFrom? : Nat → List Char → List Char → Option (String × List Char)
  | 0, _, _ => none
  | _ + 1, _, [] => none
  | fuel + 1, read, c :: rest =>
    if c = '"' then some (String.ofList read.reverse, rest)
    else if c = '\\' then
      match rest with
      | '"' :: rest => textFrom? fuel ('"' :: read) rest
      | '\\' :: rest => textFrom? fuel ('\\' :: read) rest
      | '/' :: rest => textFrom? fuel ('/' :: read) rest
      | 'b' :: rest => textFrom? fuel ('\x08' :: read) rest
      | 'f' :: rest => textFrom? fuel ('\x0c' :: read) rest
      | 'n' :: rest => textFrom? fuel ('\n' :: read) rest
      | 'r' :: rest => textFrom? fuel ('\r' :: read) rest
      | 't' :: rest => textFrom? fuel ('\t' :: read) rest
      | 'u' :: rest =>
        match unicodeEscape? rest with
        | some (c, rest) => textFrom? fuel (c :: read) rest
        | none => none
      | _ => none
    else if c.toNat < 0x20 then none
    else textFrom? fuel (c :: read) rest

/-- The largest power of ten that is a `Float`. -/
def topPower : Float := 1.0e308

/-- `10 ^ n` for `n ≤ 308`. -/
def powerOfTen (n : Nat) : Float := Float.ofScientific 1 false n

/-- Divides by `10 ^ n`, at most 308 places at a time. -/
def scaleDown : Nat → Float → Nat → Float
  | 0, x, _ => x
  | fuel + 1, x, n =>
    if n ≤ 308 then x / powerOfTen n
    else if x == 0 then x
    else scaleDown fuel (x / topPower) (n - 308)

/-- `coefficient · 10 ^ exponent`, with a rounding after every step; none beyond
the range of `Float`. -/
def scaled? (coefficient : Nat) (exponent : Int) : Option Float :=
  let x := Float.ofNat coefficient
  if exponent < 0 then some (scaleDown 4 x exponent.natAbs)
  else if exponent ≤ 308 then
    let y := x * powerOfTen exponent.toNat
    if y.isInf then none else some y
  else if x == 0 then some x
  else none

/-- Reads digits into a coefficient below `2 ^ 64` until one no longer fits.
Gives the coefficient, how many digits went in, and what was left. -/
def takeDigits (coefficient taken : Nat) : List Char → Nat × Nat × List Char
  | [] => (coefficient, taken, [])
  | c :: rest =>
    let next := coefficient * 10 + (c.toNat - 0x30)
    if next < Word64.bound then takeDigits next (taken + 1) rest
    else (coefficient, taken, c :: rest)

/-- The coefficient and exponent of whole and fraction digits. Digits of the
whole part that no longer fit raise the exponent, digits of the fraction that no
longer fit are dropped. -/
def significand (whole fraction : List Char) : Nat × Int :=
  let (coefficient, _, dropped) := takeDigits 0 0 whole
  if dropped.isEmpty then
    let (coefficient, taken, _) := takeDigits coefficient 0 fraction
    (coefficient, -(taken : Int))
  else
    let (coefficient, taken, _) := takeDigits coefficient 0 fraction
    (coefficient, (dropped.length : Int) - taken)

/-- An exponent: sign and digits. -/
def exponent? : List Char → Option (Int × List Char)
  | c :: rest =>
    if c = 'e' ∨ c = 'E' then
      let (negative, rest) := Decimal.splitSign rest
      let digits := rest.takeWhile Char.isDigit
      if digits.isEmpty then none
      else
        let n : Int := Decimal.natOfDigits digits
        some (if negative then -n else n, rest.dropWhile Char.isDigit)
    else some (0, c :: rest)
  | [] => some (0, [])

/-- The number without fraction and exponent that digits denote. -/
def integerValue (negative : Bool) (whole : List Char) : Option Number :=
  let n := Decimal.natOfDigits whole
  let float : Option Number := do
    let (coefficient, exponent) := significand whole []
    Number.ofFloat? (signed negative (← scaled? coefficient exponent))
  if n < Word64.bound then
    if negative then
      if n = 0 ∨ Word64.signedBound < n then Number.ofFloat? (-(Float.ofNat n))
      else Number.ofInt? (-(n : Int))
    else Number.ofInt? n
  else float

/-- A number, after its sign. -/
def unsigned? (negative : Bool) (cs : List Char) :
    Option (Number × List Char) := do
  let whole := cs.takeWhile Char.isDigit
  let rest := cs.dropWhile Char.isDigit
  if whole.isEmpty || (whole.head? == some '0' && 1 < whole.length) then none
  else match rest with
    | '.' :: rest =>
      let fraction := rest.takeWhile Char.isDigit
      if fraction.isEmpty then none
      else
        let (e, rest) ← exponent? (rest.dropWhile Char.isDigit)
        let (coefficient, places) := significand whole fraction
        let n ← Number.ofFloat?
            (signed negative (← scaled? coefficient (places + e)))
        some (n, rest)
    | c :: _ =>
      if c = 'e' ∨ c = 'E' then
        let (e, rest) ← exponent? rest
        let (coefficient, places) := significand whole []
        let n ← Number.ofFloat?
            (signed negative (← scaled? coefficient (places + e)))
        some (n, rest)
      else (integerValue negative whole).map (·, rest)
    | [] => (integerValue negative whole).map (·, rest)

/-- A number. -/
def number?At : List Char → Option (Number × List Char)
  | '-' :: rest => unsigned? true rest
  | cs => unsigned? false cs

mutual

/-- A value at the start of the input, and what follows it. -/
def value? : Nat → List Char → Option (Json × List Char)
  | 0, _ => none
  | fuel + 1, cs =>
    match skipBlanks cs with
    | 'n' :: 'u' :: 'l' :: 'l' :: rest => some (.null, rest)
    | 't' :: 'r' :: 'u' :: 'e' :: rest => some (.bool true, rest)
    | 'f' :: 'a' :: 'l' :: 's' :: 'e' :: rest => some (.bool false, rest)
    | '"' :: rest =>
        (textFrom? (rest.length + 1) [] rest).map fun (s, rest) =>
          (.string s, rest)
    | '[' :: rest =>
      match skipBlanks rest with
      | ']' :: rest => some (.array [], rest)
      | rest => (items? fuel [] rest).map fun (xs, rest) => (.array xs, rest)
    | '\x7b' :: rest =>
      match skipBlanks rest with
      | '\x7d' :: rest => some (.object [], rest)
      | rest => (members? fuel [] rest).map fun (ms, rest) => (.object ms, rest)
    | cs => (number?At cs).map fun (n, rest) => (.number n, rest)

/-- The items of a list from the first or next one on; `read` holds the earlier
ones, latest first. -/
def items? : Nat → List Json → List Char → Option (List Json × List Char)
  | 0, _, _ => none
  | fuel + 1, read, cs =>
    match value? fuel cs with
    | none => none
    | some (x, rest) =>
      match skipBlanks rest with
      | ',' :: rest => items? fuel (x :: read) rest
      | ']' :: rest => some ((x :: read).reverse, rest)
      | _ => none

/-- The members of an object from the first or next one on. -/
def members? : Nat → List (String × Json) → List Char →
    Option (List (String × Json) × List Char)
  | 0, _, _ => none
  | fuel + 1, read, cs =>
    match skipBlanks cs with
    | '"' :: rest =>
      match textFrom? (rest.length + 1) [] rest with
      | none => none
      | some (key, rest) =>
        match skipBlanks rest with
        | ':' :: rest =>
          match value? fuel rest with
          | none => none
          | some (x, rest) =>
            match skipBlanks rest with
            | ',' :: rest => members? fuel ((key, x) :: read) rest
            | '\x7d' :: rest => some (((key, x) :: read).reverse, rest)
            | _ => none
        | _ => none
    | _ => none

end

/-- The document that a text holds, with members in the order of the text. -/
def parse? (text : String) : Option Json :=
  let cs := text.toList
  match value? (cs.length + 1) cs with
  | some (j, rest) => if (skipBlanks rest).isEmpty then some j else none
  | none => none

end ServiceLoom.Json
