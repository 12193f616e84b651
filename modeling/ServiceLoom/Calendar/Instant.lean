import ServiceLoom.Calendar.Date

/-!
# Instants

An instant is a day, a second of that day and a fraction in nanoseconds. A leap
second is kept as a fraction of a second or more, so that it stands between the
second before and the one after it.
-/

namespace ServiceLoom.Calendar

def secondsPerDay : Nat := 86400

def nanosPerSecond : Nat := 1000000000

/-- A moment of universal time. -/
structure Instant where
  day : Int
  second : Nat
  nano : Nat
  second_lt : second < secondsPerDay
  nano_lt : nano < 2 * nanosPerSecond
deriving DecidableEq

namespace Instant

/-- The start of a day. -/
def ofDay (day : Int) : Instant := ⟨day, 0, 0, by decide, by decide⟩

/-- The instant `shift` seconds after the start of a day, with a fraction. -/
def ofSeconds (day : Int) (shift : Int) (nano : Nat)
    (h : nano < 2 * nanosPerSecond) : Instant where
  day := day + shift / secondsPerDay
  second := (shift % secondsPerDay).toNat
  nano := nano
  second_lt := by
    have h₁ := Int.emod_nonneg shift (show (secondsPerDay : Int) ≠ 0 by decide)
    have h₂ :=
      Int.emod_lt_of_pos shift (show (0 : Int) < secondsPerDay by decide)
    omega
  nano_lt := h

/-- Whether an instant comes before another. -/
def before (a b : Instant) : Bool :=
  a.day < b.day ||
    (a.day == b.day &&
      (a.second < b.second || (a.second == b.second && a.nano < b.nano)))

/-- The day on which an instant falls after a number of days has passed. Days
count backwards from the end of a leap second, which for the last one of a day
is the start of the next day. -/
def dayAfter (a : Instant) (days : Int) : Int :=
  if nanosPerSecond ≤ a.nano ∧ days < 0 ∧ a.second + 1 = secondsPerDay then
    a.day + 1 + days
  else a.day + days

/-- The fraction: nothing, or three, six or nine digits after a point. -/
def fractionText (nano : Nat) : List Char :=
  if nano = 0 then []
  else if nano % 1000000 = 0 then '.' :: padded 3 (nano / 1000000)
  else if nano % 1000 = 0 then '.' :: padded 6 (nano / 1000)
  else '.' :: padded 9 nano

/-- Hours, minutes and seconds; a leap second is written as second 60. -/
def clockText (a : Instant) : List Char :=
  let leap := if nanosPerSecond ≤ a.nano then 1 else 0
  padded 2 (a.second / 3600) ++ [':'] ++
    padded 2 (a.second / 60 % 60) ++ [':'] ++
    padded 2 (a.second % 60 + leap)

/-- The fraction without the leap second. -/
def fraction (a : Instant) : Nat := a.nano % nanosPerSecond

/-- The internet date and time of an instant, with a zero offset. -/
def text (a : Instant) : String :=
  String.ofList
    (dayText a.day ++ ['T'] ++ a.clockText ++ fractionText a.fraction ++
      "+00:00".toList)

/-- The internet date and time in milliseconds, as rows record it. -/
def stamp (a : Instant) : String :=
  String.ofList
    (dayText a.day ++ ['T'] ++ a.clockText ++ '.' ::
      padded 3 (a.fraction / 1000000) ++ ['Z'])

end Instant

end ServiceLoom.Calendar
