/-!
# Dates of the Gregorian calendar

Dates are years, months and days, extended backwards without a gap; each has a
number, the days since 1970-01-01. Years run from `minYear` to `maxYear`.
-/

namespace ServiceLoom.Calendar

def minYear : Int := -262143

def maxYear : Int := 262142

/-- Whether a year has 366 days. -/
def isLeap (year : Int) : Bool :=
  year % 4 == 0 && (year % 100 != 0 || year % 400 == 0)

/-- The lengths of the months of a year. -/
def monthLengths (leap : Bool) : List Nat :=
  [31, if leap then 29 else 28, 31, 30, 31, 30, 31, 31, 30, 31, 30, 31]

/-- The number of days of a month, none for a month that does not exist. -/
def daysInMonth (year : Int) (month : Nat) : Nat :=
  if month = 0 then 0 else ((monthLengths (isLeap year))[month - 1]?).getD 0

/-- A day of the calendar. -/
structure Date where
  year : Int
  month : Nat
  day : Nat
  day_pos : 0 < day
  day_le : day ≤ daysInMonth year month
deriving DecidableEq

/-- The day of a year, month and day, if there is one within the range of
years. -/
def Date.of? (year : Int) (month day : Nat) : Option Date :=
  if h : 0 < day ∧ day ≤ daysInMonth year month then
    if minYear ≤ year ∧ year ≤ maxYear then
      some ⟨year, month, day, h.1, h.2⟩
    else none
  else none

/-- The days from 0001-01-01 to the first day of a year. -/
def daysBeforeYear (year : Int) : Int :=
  365 * (year - 1) + (year - 1) / 4 - (year - 1) / 100 + (year - 1) / 400

/-- The days from the first day of the year to the first day of a month. -/
def daysBeforeMonth (year : Int) (month : Nat) : Nat :=
  ((monthLengths (isLeap year)).take (month - 1)).foldl (· + ·) 0

/-- The days from 0001-01-01 to 1970-01-01. -/
def epochDay : Int := 719162

/-- The number of the day, counted from 1970-01-01. -/
def Date.number (d : Date) : Int :=
  daysBeforeYear d.year + daysBeforeMonth d.year d.month + d.day - 1 - epochDay

/-- The year of the day with a number counted from 0001-01-01, and its place in
that year. -/
def yearOfDay (n : Int) : Int × Int :=
  let cycle := n / 146097
  let rest := n % 146097
  let century := min (rest / 36524) 3
  let rest := rest - century * 36524
  let group := rest / 1461
  let rest := rest - group * 1461
  let year := min (rest / 365) 3
  (400 * cycle + 100 * century + 4 * group + year + 1, rest - year * 365)

/-- The month and day of the `n`-th day, counted from zero, of months with the
given lengths. -/
def monthOfDay : List Nat → Nat → Nat → Nat × Nat
  | [], month, n => (month, n + 1)
  | length :: rest, month, n =>
    if n < length then (month, n + 1)
    else monthOfDay rest (month + 1) (n - length)

/-- The year, month and day of the day with a number. -/
def civil (number : Int) : Int × Nat × Nat :=
  let (year, place) := yearOfDay (number + epochDay)
  let (month, day) := monthOfDay (monthLengths (isLeap year)) 1 place.toNat
  (year, month, day)

/-- The first and the last day of the range of years. -/
def minDay : Int := daysBeforeYear minYear - epochDay

def maxDay : Int := daysBeforeYear (maxYear + 1) - 1 - epochDay

/-- A number with at least `width` digits. -/
def padded (width : Nat) (n : Nat) : List Char :=
  let digits := Nat.toDigits 10 n
  List.replicate (width - digits.length) '0' ++ digits

/-- A year: four digits, and a sign outside of the years 0 to 9999. -/
def yearText (year : Int) : List Char :=
  if 0 ≤ year ∧ year ≤ 9999 then padded 4 year.toNat
  else (if year < 0 then '-' else '+') :: padded 4 year.natAbs

/-- The day with a number as year, month and day between hyphens. -/
def dayText (number : Int) : List Char :=
  let (year, month, day) := civil number
  yearText year ++ ['-'] ++ padded 2 month ++ ['-'] ++ padded 2 day

end ServiceLoom.Calendar
