import ServiceLoom.Calendar.Instant
import ServiceLoom.Decimal.Reader

/-!
# Reading dates

Three forms are tried in order: the internet date and time with an offset, the
same without an offset, and a plain date, which stands for the start of its day.
The first form fixes the number of digits; the other two admit fewer digits,
blanks before a number and a signed year of any length.
-/

namespace ServiceLoom.Calendar

open Text (trimStart)

/-- At least `least` and at most `most` digits, as a number, and the rest. -/
def digits? (least most : Nat) (cs : List Char) : Option (Nat × List Char) :=
  let ds := (cs.take most).takeWhile Char.isDigit
  if ds.length < least then none
  else some (Decimal.natOfDigits ds, cs.drop ds.length)

/-- One given character. -/
def expect? (c : Char) : List Char → Option (List Char)
  | d :: rest => if d = c then some rest else none
  | [] => none

/-- A number of at most two digits after any blanks. -/
def shortNumber? (cs : List Char) : Option (Nat × List Char) :=
  digits? 1 2 (trimStart cs)

/-- A year after any blanks: up to four digits, or a sign and any number of
digits. -/
def looseYear? (cs : List Char) : Option (Int × List Char) :=
  match trimStart cs with
  | '-' :: rest =>
      (digits? 1 rest.length rest).map fun (n, rest) => (-(n : Int), rest)
  | '+' :: rest =>
      (digits? 1 rest.length rest).map fun (n, rest) => ((n : Int), rest)
  | rest => (digits? 1 4 rest).map fun (n, rest) => ((n : Int), rest)

/-- A second of the day and a fraction, from hours, minutes, seconds and
nanoseconds. Second 60 is kept as a leap second. -/
def timeOf? (hour minute second nano : Nat) : Option (Nat × Nat) :=
  if hour < 24 ∧ minute < 60 ∧ second ≤ 60 then
    if second = 60 then
      some (hour * 3600 + minute * 60 + 59, nanosPerSecond + nano)
    else some (hour * 3600 + minute * 60 + second, nano)
  else none

/-- The instant of a day, a shift in seconds and a fraction. -/
def instantOf? (date : Date) (shift : Int) (nano : Nat) : Option Instant :=
  if h : nano < 2 * nanosPerSecond then
    some (Instant.ofSeconds date.number shift nano h)
  else none

/-- The fraction after a point: its first nine digits count, the others are
skipped. -/
def nanos? : List Char → Option (Nat × List Char)
  | '.' :: rest =>
    let ds := rest.takeWhile Char.isDigit
    if ds.isEmpty then none
    else
      let kept := ds.take 9
      some (Decimal.natOfDigits kept * Decimal.tenTo (9 - kept.length),
        rest.dropWhile Char.isDigit)
  | cs => some (0, cs)

/-- The offset from universal time in seconds: `Z`, or a sign, hours and
minutes. -/
def offset? : List Char → Option (Int × List Char)
  | [] => none
  | c :: rest =>
    if c = 'Z' ∨ c = 'z' then some (0, rest)
    else if c = '+' ∨ c = '-' ∨ c = '\u2212' then do
      let (hours, rest) ← digits? 2 2 rest
      let rest ← expect? ':' rest
      let (minutes, rest) ← digits? 2 2 rest
      if minutes < 60 ∧ hours < 24 then
        let shift : Int := hours * 3600 + minutes * 60
        some (if c = '+' then shift else -shift, rest)
      else none
    else none

/-- Date, time and offset. -/
def internet? (cs : List Char) : Option Instant := do
  let (year, cs) ← digits? 4 4 cs
  let cs ← expect? '-' cs
  let (month, cs) ← digits? 2 2 cs
  let cs ← expect? '-' cs
  let (day, cs) ← digits? 2 2 cs
  let cs ← match cs with
    | c :: rest => if c = 'T' ∨ c = 't' ∨ c = ' ' then some rest else none
    | [] => none
  let (hour, cs) ← digits? 2 2 cs
  let cs ← expect? ':' cs
  let (minute, cs) ← digits? 2 2 cs
  let cs ← expect? ':' cs
  let (second, cs) ← digits? 2 2 cs
  let (nano, cs) ← nanos? cs
  let (offset, cs) ← offset? cs
  let (second, nano) ← timeOf? hour minute second nano
  let date ← Date.of? year month day
  if cs.isEmpty then instantOf? date (second - offset) nano else none

/-- Year, month and day between hyphens, and the rest. -/
def looseDate? (cs : List Char) : Option (Date × List Char) := do
  let (year, cs) ← looseYear? cs
  let cs ← expect? '-' cs
  let (month, cs) ← shortNumber? cs
  let cs ← expect? '-' cs
  let (day, cs) ← shortNumber? cs
  let date ← Date.of? year month day
  some (date, cs)

/-- Date and time without an offset. -/
def local? (cs : List Char) : Option Instant := do
  let (date, cs) ← looseDate? cs
  let cs ← expect? 'T' cs
  let (hour, cs) ← shortNumber? cs
  let cs ← expect? ':' cs
  let (minute, cs) ← shortNumber? cs
  let cs ← expect? ':' cs
  let (second, cs) ← shortNumber? cs
  let (second, nano) ← timeOf? hour minute second 0
  if cs.isEmpty then instantOf? date second nano else none

/-- A plain date. -/
def day? (cs : List Char) : Option Instant := do
  let (date, cs) ← looseDate? cs
  if cs.isEmpty then some (Instant.ofDay date.number) else none

/-- The instant that a text names; blanks at its ends do not count. -/
def readInstant? (text : String) : Option Instant :=
  let cs := Text.trimChars text.toList
  (internet? cs).orElse fun _ => (local? cs).orElse fun _ => day? cs

end ServiceLoom.Calendar
