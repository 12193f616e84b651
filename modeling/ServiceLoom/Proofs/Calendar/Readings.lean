import ServiceLoom.Proofs.Calendar.Days
import ServiceLoom.Proofs.Calendar.Digits

/-!
# What readers of dates answer

A reader puts an instant together from a day of the calendar, a time of that day
and an offset from universal time (`readInstant?_composed`).  A leap second is
the last of a minute, and an offset is in whole minutes and shorter than a day.
So a leap second is at the end of a minute whatever the offset
(`readInstant?_regular`).  Only years of four digits have an offset, and so
every instant is on a day of the calendar (`readInstant?_day_mem`).
-/

namespace ServiceLoom.Calendar

open Decimal

/-- A leap second is the last second of a minute. -/
def Instant.Regular (t : Instant) : Prop :=
  nanosPerSecond ≤ t.nano → t.second % 60 = 59

/-- A second of the day and a fraction, where a leap second is the last of a
minute. -/
def TimeOfDay (time : Nat × Nat) : Prop :=
  time.1 < secondsPerDay ∧ (nanosPerSecond ≤ time.2 → time.1 % 60 = 59)

/-- An offset in whole minutes that is shorter than a day, and none outside of
the years of four digits. -/
def OffsetIn (year offset : Int) : Prop :=
  offset % 60 = 0 ∧ -secondsPerDay < offset ∧ offset < secondsPerDay ∧
    (offset = 0 ∨ 0 ≤ year ∧ year ≤ 9999)

/-- An instant that is put together from a day within the calendar, a time of
that day and an offset. -/
def Instant.Composed (t : Instant) : Prop :=
  ∃ (date : Date) (time : Nat × Nat) (offset : Int),
    (minYear ≤ date.year ∧ date.year ≤ maxYear) ∧
    TimeOfDay time ∧ OffsetIn date.year offset ∧
      instantOf? date (time.1 - offset) time.2 = some t

/-- A time that is found is one of the day when the fraction that is added to a
leap second is less than a second. -/
theorem timeOfDay_of_timeOf? {hour minute second nano : Nat}
    {time : Nat × Nat} (h : timeOf? hour minute second nano = some time)
    (hnano : nano < nanosPerSecond) : TimeOfDay time := by
  have hday : secondsPerDay = 86400 := rfl
  unfold timeOf? at h
  unfold TimeOfDay
  split at h
  · split at h
    · cases h
      dsimp only
      omega
    · cases h
      dsimp only
      omega
  · cases h

/-- Four digits are a number below ten thousand. -/
theorem lt_of_digits? {most n : Nat} {cs rest : List Char}
    (h : digits? most most cs = some (n, rest)) : n < 10 ^ most := by
  unfold digits? at h
  dsimp only at h
  split at h
  · cases h
  · cases h
    have hdigits : ∀ c ∈ (cs.take most).takeWhile Char.isDigit,
        c.isDigit = true :=
      fun c hc => List.mem_takeWhile_imp hc
    have hlength : ((cs.take most).takeWhile Char.isDigit).length ≤ most :=
      Nat.le_trans (List.takeWhile_sublist _).length_le (List.length_take_le _ _)
    exact Nat.lt_of_lt_of_le (natOfDigits_lt hdigits)
      (Nat.pow_le_pow_right (by decide) hlength)

/-- A fraction is less than a second. -/
theorem nanos?_lt {cs rest : List Char} {nano : Nat}
    (h : nanos? cs = some (nano, rest)) : nano < nanosPerSecond := by
  unfold nanos? at h
  split at h
  next digits =>
    dsimp only at h
    split at h
    · cases h
    · cases h
      have hdigits : ∀ c ∈ (digits.takeWhile Char.isDigit).take 9,
          c.isDigit = true :=
        fun c hc => List.mem_takeWhile_imp (List.mem_of_mem_take hc)
      have hlt := natOfDigits_lt hdigits
      have hle : ((digits.takeWhile Char.isDigit).take 9).length ≤ 9 :=
        List.length_take_le _ _
      obtain ⟨k, hk⟩ :
          ∃ k, ((digits.takeWhile Char.isDigit).take 9).length = k := ⟨_, rfl⟩
      rw [hk] at hlt hle ⊢
      calc _ < 10 ^ k * tenTo (9 - k) :=
        Nat.mul_lt_mul_of_pos_right hlt (Nat.pow_pos (by decide))
        _ = 10 ^ (k + (9 - k)) := (Nat.pow_add 10 k (9 - k)).symm
        _ = nanosPerSecond := by rw [Nat.add_sub_cancel' hle]; rfl
  · cases h
    decide

/-- Offsets are whole minutes, and shorter than a day. -/
theorem offset?_bounds {cs rest : List Char} {offset : Int}
    (h : offset? cs = some (offset, rest)) :
    offset % 60 = 0 ∧ -secondsPerDay < offset ∧ offset < secondsPerDay := by
  unfold offset? at h
  split at h
  · cases h
  · split at h
    · cases h
      decide
    · split at h
      · obtain ⟨⟨hours, cs⟩, -, h⟩ := Option.bind_eq_some_iff.mp h
        obtain ⟨cs, -, h⟩ := Option.bind_eq_some_iff.mp h
        obtain ⟨⟨minutes, cs⟩, -, h⟩ := Option.bind_eq_some_iff.mp h
        dsimp only at h
        split at h
        next hbounds =>
          have hday : secondsPerDay = 86400 := rfl
          cases h
          rw [hday]
          split <;> omega
        · cases h
      · cases h

/-- A day that is found is within the calendar. -/
theorem year_mem_of_of? {year : Int} {month day : Nat} {date : Date}
    (h : Date.of? year month day = some date) :
    date.year = year ∧ minYear ≤ date.year ∧ date.year ≤ maxYear := by
  unfold Date.of? at h
  split at h
  · split at h
    next hyears =>
      cases h
      exact ⟨rfl, hyears⟩
    · cases h
  · cases h

theorem year_mem_of_looseDate? {cs rest : List Char} {date : Date}
    (h : looseDate? cs = some (date, rest)) :
    minYear ≤ date.year ∧ date.year ≤ maxYear := by
  unfold looseDate? at h
  obtain ⟨⟨year, cs⟩, -, h⟩ := Option.bind_eq_some_iff.mp h
  obtain ⟨cs, -, h⟩ := Option.bind_eq_some_iff.mp h
  obtain ⟨⟨month, cs⟩, -, h⟩ := Option.bind_eq_some_iff.mp h
  obtain ⟨cs, -, h⟩ := Option.bind_eq_some_iff.mp h
  obtain ⟨⟨day, cs⟩, -, h⟩ := Option.bind_eq_some_iff.mp h
  obtain ⟨found, hfound, h⟩ := Option.bind_eq_some_iff.mp h
  cases h
  exact (year_mem_of_of? hfound).2

/-- Without an offset any year will do. -/
theorem offsetIn_zero (year : Int) : OffsetIn year 0 :=
  ⟨rfl, by decide, by decide, .inl rfl⟩

theorem internet?_composed {cs : List Char} {t : Instant}
    (h : internet? cs = some t) : t.Composed := by
  unfold internet? at h
  obtain ⟨⟨year, cs⟩, hyear, h⟩ := Option.bind_eq_some_iff.mp h
  obtain ⟨cs, -, h⟩ := Option.bind_eq_some_iff.mp h
  obtain ⟨⟨month, cs⟩, -, h⟩ := Option.bind_eq_some_iff.mp h
  obtain ⟨cs, -, h⟩ := Option.bind_eq_some_iff.mp h
  obtain ⟨⟨day, cs⟩, -, h⟩ := Option.bind_eq_some_iff.mp h
  dsimp only at h
  split at h
  · split at h
    · obtain ⟨cs, -, h⟩ := Option.bind_eq_some_iff.mp h
      obtain ⟨⟨hour, cs⟩, -, h⟩ := Option.bind_eq_some_iff.mp h
      obtain ⟨cs, -, h⟩ := Option.bind_eq_some_iff.mp h
      obtain ⟨⟨minute, cs⟩, -, h⟩ := Option.bind_eq_some_iff.mp h
      obtain ⟨cs, -, h⟩ := Option.bind_eq_some_iff.mp h
      obtain ⟨⟨second, cs⟩, -, h⟩ := Option.bind_eq_some_iff.mp h
      obtain ⟨⟨nano, cs⟩, hnano, h⟩ := Option.bind_eq_some_iff.mp h
      obtain ⟨⟨offset, cs⟩, hoffset, h⟩ := Option.bind_eq_some_iff.mp h
      obtain ⟨time, htime, h⟩ := Option.bind_eq_some_iff.mp h
      obtain ⟨date, hdate, h⟩ := Option.bind_eq_some_iff.mp h
      dsimp only at h
      split at h
      · obtain ⟨heq, hrange⟩ := year_mem_of_of? hdate
        obtain ⟨hminutes, hbelow, habove⟩ := offset?_bounds hoffset
        have hdigits : year < 10 ^ 4 := lt_of_digits? hyear
        have hfour : 0 ≤ date.year ∧ date.year ≤ 9999 := by omega
        exact ⟨date, time, offset, hrange,
          timeOfDay_of_timeOf? htime (nanos?_lt hnano),
          ⟨hminutes, hbelow, habove, .inr hfour⟩, h⟩
      · cases h
    · cases h
  · cases h

theorem local?_composed {cs : List Char} {t : Instant}
    (h : local? cs = some t) : t.Composed := by
  unfold local? at h
  obtain ⟨⟨date, cs⟩, hdate, h⟩ := Option.bind_eq_some_iff.mp h
  obtain ⟨cs, -, h⟩ := Option.bind_eq_some_iff.mp h
  obtain ⟨⟨hour, cs⟩, -, h⟩ := Option.bind_eq_some_iff.mp h
  obtain ⟨cs, -, h⟩ := Option.bind_eq_some_iff.mp h
  obtain ⟨⟨minute, cs⟩, -, h⟩ := Option.bind_eq_some_iff.mp h
  obtain ⟨cs, -, h⟩ := Option.bind_eq_some_iff.mp h
  obtain ⟨⟨second, cs⟩, -, h⟩ := Option.bind_eq_some_iff.mp h
  obtain ⟨time, htime, h⟩ := Option.bind_eq_some_iff.mp h
  dsimp only at h
  split at h
  · exact ⟨date, time, 0, year_mem_of_looseDate? hdate,
      timeOfDay_of_timeOf? htime (by decide), offsetIn_zero _,
      by rwa [Int.sub_zero]⟩
  · cases h

theorem day?_composed {cs : List Char} {t : Instant} (h : day? cs = some t) :
    t.Composed := by
  unfold day? at h
  obtain ⟨⟨date, cs⟩, hdate, h⟩ := Option.bind_eq_some_iff.mp h
  dsimp only at h
  split at h
  · cases h
    have hstart : instantOf? date ((0 : Nat) - 0) 0 =
        some (Instant.ofDay date.number) := by
      rw [instantOf?, dif_pos (by decide)]
      congr 1
      unfold Instant.ofSeconds Instant.ofDay
      congr 1
      exact Int.add_zero date.number
    exact ⟨date, (0, 0), 0, year_mem_of_looseDate? hdate,
      ⟨by decide, fun hleap => absurd hleap (by decide)⟩,
      offsetIn_zero _, hstart⟩
  · cases h

/-- **What is read is put together from a day, a time and an offset**, in
whatever form it is written. -/
theorem readInstant?_composed {text : String} {t : Instant}
    (h : readInstant? text = some t) : t.Composed := by
  unfold readInstant? at h
  dsimp only at h
  cases hinternet : internet? (Text.trimChars text.toList) with
  | some read =>
      rw [hinternet] at h
      cases h
      exact internet?_composed hinternet
  | none =>
      rw [hinternet] at h
      cases hlocal : local? (Text.trimChars text.toList) with
      | some read =>
          rw [hlocal] at h
          cases h
          exact local?_composed hlocal
      | none =>
          rw [hlocal] at h
          exact day?_composed h

namespace Instant.Composed

variable {t : Instant}

/-- An offset in whole minutes keeps a leap second at the end of a minute. -/
theorem regular (h : t.Composed) : t.Regular := by
  obtain ⟨date, time, offset, -, htime, hoffset, h⟩ := h
  unfold instantOf? at h
  split at h
  · cases h
    intro hleap
    have hsecond := htime.2 hleap
    have hminutes := hoffset.1
    show ((time.1 - offset) % secondsPerDay).toNat % 60 = 59
    have hday : secondsPerDay = 86400 := rfl
    rw [hday]
    omega
  · cases h

/-- **An instant is on a day of the calendar.** An offset takes it to the day
before or after, which years of four digits leave room for. -/
theorem day_mem (h : t.Composed) : minDay ≤ t.day ∧ t.day ≤ maxDay := by
  obtain ⟨date, time, offset, hyear, htime, hoffset, h⟩ := h
  unfold instantOf? at h
  split at h
  · cases h
    show minDay ≤ date.number + (time.1 - offset) / secondsPerDay ∧
      date.number + (time.1 - offset) / secondsPerDay ≤ maxDay
    obtain ⟨-, hbelow, habove, hzero | hfour⟩ := hoffset
    · have hsame : ((time.1 : Int) - offset) / secondsPerDay = 0 :=
        Int.ediv_eq_zero_of_lt (by omega) (by have := htime.1; omega)
      rw [hsame, Int.add_zero]
      exact date.number_mem hyear
    · have hshift : -1 ≤ ((time.1 : Int) - offset) / secondsPerDay ∧
          ((time.1 : Int) - offset) / secondsPerDay ≤ 1 := by
        have hsecond := htime.1
        have hday : secondsPerDay = 86400 := rfl
        rw [hday] at hsecond hbelow habove ⊢
        omega
      obtain ⟨hfirst, hlast⟩ := date.number_mem_year
      have hlength := yearLength_le date.year
      have hepoch : epochDay = 719162 := rfl
      have hminDay : minDay = -96465292 := rfl
      have hmaxDay : maxDay = 95026236 := rfl
      unfold daysBeforeYear at hfirst hlast
      omega
  · cases h

end Instant.Composed

/-- **What is read is regular**, in whatever form it is written. -/
theorem readInstant?_regular {text : String} {t : Instant}
    (h : readInstant? text = some t) : t.Regular :=
  (readInstant?_composed h).regular

/-- **What is read is on a day of the calendar**, in whatever form it is
written. -/
theorem readInstant?_day_mem {text : String} {t : Instant}
    (h : readInstant? text = some t) :
    minDay ≤ t.day ∧ t.day ≤ maxDay := (readInstant?_composed h).day_mem

end ServiceLoom.Calendar
