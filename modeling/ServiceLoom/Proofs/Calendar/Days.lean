import ServiceLoom.Calendar.Date
import Mathlib.Data.List.Basic

/-!
# Days and dates

Every day has one date.  The year of a day is found by cycles of four hundred
years, centuries and groups of four years, and its month by taking away the
lengths of the months.  Both keep the count of days: the year and the place in
it make the number again (`yearOfDay_spec`), and so do the month and the day of
the month (`monthOfDay_spec`).  So the date of a day is a day of the calendar,
and its number is that day (`exists_date_civil`).  A date is a day of its year,
and so the dates within the range of years are the days from the first to the
last (`Date.number_mem`).
-/

namespace ServiceLoom.Calendar

/-- The length of a year. -/
def yearLength (year : Int) : Nat := if isLeap year then 366 else 365

theorem yearLength_le (year : Int) : yearLength year ≤ 366 := by
  unfold yearLength
  split <;> omega

/-- **The year of a day** and the place in it: the place is within the year, and
the days before the year and the place are all days there were. -/
theorem yearOfDay_spec (n : Int) :
    0 ≤ (yearOfDay n).2 ∧ (yearOfDay n).2 < yearLength (yearOfDay n).1 ∧
      daysBeforeYear (yearOfDay n).1 + (yearOfDay n).2 = n := by
  -- `n` in cycles, centuries, groups, years and days, each within its bounds
  obtain ⟨cycle, hcycle⟩ : ∃ cycle, cycle = n / 146097 := ⟨_, rfl⟩
  obtain ⟨century, hcentury⟩ :
      ∃ century, century = min (n % 146097 / 36524) 3 := ⟨_, rfl⟩
  obtain ⟨group, hgroup⟩ :
      ∃ group, group = (n % 146097 - century * 36524) / 1461 := ⟨_, rfl⟩
  obtain ⟨rest, hrest⟩ :
      ∃ rest, rest = n % 146097 - century * 36524 - group * 1461 := ⟨_, rfl⟩
  obtain ⟨year, hyear⟩ : ∃ year, year = min (rest / 365) 3 := ⟨_, rfl⟩
  have hsplit : yearOfDay n =
      (400 * cycle + 100 * century + 4 * group + year + 1,
          rest - year * 365) := by
    rw [hcycle, hyear, hrest, hgroup, hcentury]
    rfl
  have hcenturyBounds : 0 ≤ century ∧ century ≤ 3 := by omega
  have hgroupBounds : 0 ≤ group ∧ group ≤ 24 := by omega
  have hyearBounds : 0 ≤ year ∧ year ≤ 3 := by omega
  have hsum : n = 146097 * cycle + 36524 * century + 1461 * group + rest := by
    omega
  rw [hsplit]
  dsimp only
  refine ⟨by omega, ?_, ?_⟩
  · -- The last day of a leap year is the one place where a group has a day more
    -- than four years.
    have hlast : rest - year * 365 ≤ 365 := by omega
    unfold yearLength isLeap
    split
    · omega
    next hleap =>
      have hne : rest - year * 365 ≠ 365 := by
        intro heq
        apply hleap
        simp only [Bool.and_eq_true, Bool.or_eq_true, beq_iff_eq, bne_iff_ne]
        omega
      omega
  · have hfours : (400 * cycle + 100 * century + 4 * group + year + 1 - 1) / 4 =
        100 * cycle + 25 * century + group := by omega
    have hcenturies :
        (400 * cycle + 100 * century + 4 * group + year + 1 - 1) / 100 =
        4 * cycle + century := by omega
    have hcycles : (400 * cycle + 100 * century + 4 * group + year + 1 - 1) /
        400 = cycle := by omega
    unfold daysBeforeYear
    rw [hfours, hcenturies, hcycles]
    omega

/-- A sum starts from where it is. -/
theorem foldl_add_eq (xs : List Nat) (a : Nat) :
    xs.foldl (· + ·) a = a + xs.foldl (· + ·) 0 := by
  induction xs generalizing a with
  | nil => rfl
  | cons x rest ih =>
      have hx := ih (0 + x)
      have ha := ih (a + x)
      rw [List.foldl_cons, List.foldl_cons]
      omega

/-- **The month of a day of the year**: the day is within the month, and the
months before it and the day make the place again. -/
theorem monthOfDay_spec (lengths : List Nat) (first : Nat) {n : Nat}
    (hn : n < lengths.foldl (· + ·) 0) :
    ∃ i, (monthOfDay lengths first n).1 = first + i ∧ i < lengths.length ∧
      0 < (monthOfDay lengths first n).2 ∧
      (monthOfDay lengths first n).2 ≤ (lengths[i]?).getD 0 ∧
      (lengths.take i).foldl (· + ·) 0 +
        (monthOfDay lengths first n).2 = n + 1 := by
  induction lengths generalizing first n with
  | nil => exact absurd hn (Nat.not_lt_zero n)
  | cons length rest ih =>
      rw [monthOfDay]
      by_cases hlt : n < length
      · rw [if_pos hlt]
        exact ⟨0, rfl, Nat.zero_lt_succ _, Nat.zero_lt_succ n,
          hlt, Nat.zero_add _⟩
      · rw [List.foldl_cons, foldl_add_eq] at hn
        obtain ⟨i, hmonth, hi, hpos, hday, hsum⟩ :=
          ih (first + 1) (n := n - length) (by omega)
        rw [if_neg hlt]
        refine ⟨i + 1, by omega, Nat.succ_lt_succ hi, hpos, hday, ?_⟩
        rw [List.take_succ_cons, List.foldl_cons, foldl_add_eq]
        omega

/-- The months fill the year. -/
theorem foldl_monthLengths (year : Int) :
    (monthLengths (isLeap year)).foldl (· + ·) 0 = yearLength year := by
  unfold yearLength
  cases isLeap year <;> rfl

/-- Months have at most thirty-one days. -/
theorem daysInMonth_le (year : Int) (month : Nat) :
    daysInMonth year month ≤ 31 := by
  unfold daysInMonth
  split
  · omega
  · cases hget : (monthLengths (isLeap year))[month - 1]? with
    | none => exact Nat.zero_le _
    | some length =>
        have hmem : length ∈ monthLengths (isLeap year) :=
          List.mem_of_getElem? hget
        have hall : ∀ leap, ∀ length ∈ monthLengths leap,
            length ≤ 31 := by decide
        exact hall _ length hmem

/-- **The date of a day is a day of the calendar, and has its number.** -/
theorem exists_date_civil (n : Int) :
    ∃ d : Date, civil n = (d.year, d.month, d.day) ∧
      d.number = n ∧ d.month ≤ 12 := by
  obtain ⟨hplace, hlength, hyear⟩ := yearOfDay_spec (n + epochDay)
  rcases hsplit : yearOfDay (n + epochDay) with ⟨year, place⟩
  rw [hsplit] at hplace hlength hyear
  dsimp only at hplace hlength hyear
  have hfits : place.toNat < (monthLengths (isLeap year)).foldl (· + ·) 0 := by
    rw [foldl_monthLengths]
    omega
  obtain ⟨i, hmonth, hi, hpos, hday, hsum⟩ := monthOfDay_spec _ 1 hfits
  rcases hdate : monthOfDay (monthLengths (isLeap year)) 1 place.toNat with
      ⟨month, day⟩
  rw [hdate] at hmonth hpos hday hsum
  dsimp only at hmonth hpos hday hsum
  have hindex : month - 1 = i := by omega
  have hcount : (monthLengths (isLeap year)).length = 12 := rfl
  have hle : day ≤ daysInMonth year month := by
    rw [daysInMonth, if_neg (by omega), hindex]
    exact hday
  have hmonths : month ≤ 12 := by omega
  refine ⟨⟨year, month, day, hpos, hle⟩, ?_, ?_, hmonths⟩
  · unfold civil
    rw [hsplit]
    dsimp only
    rw [hdate]
  · unfold Date.number daysBeforeMonth
    dsimp only
    rw [hindex]
    omega

/-- The days before a month and the days of the month are days of the year. -/
theorem daysBeforeMonth_add_le (year : Int) (month : Nat) :
    daysBeforeMonth year month + daysInMonth year month ≤ yearLength year := by
  rw [← foldl_monthLengths, daysBeforeMonth, daysInMonth]
  have hall : ∀ leap, ∀ i < 12, ((monthLengths leap).take i).foldl (· + ·) 0 +
      ((monthLengths leap)[i]?).getD 0 ≤
      (monthLengths leap).foldl (· + ·) 0 := by decide
  have hcount : (monthLengths (isLeap year)).length = 12 := rfl
  split
  next hzero =>
    subst hzero
    exact Nat.zero_le _
  · by_cases hmonth : month - 1 < 12
    · exact hall _ _ hmonth
    · have hnone : (monthLengths (isLeap year))[month - 1]? = none :=
        List.getElem?_eq_none (by omega)
      have htake : (monthLengths (isLeap year)).take (month - 1) =
          monthLengths (isLeap year) :=
        List.take_of_length_le (by omega)
      rw [hnone, htake]
      exact Nat.le_refl _

/-- The number of a date is within its year. -/
theorem Date.number_mem_year (d : Date) :
    daysBeforeYear d.year - epochDay ≤ d.number ∧
    d.number < daysBeforeYear d.year + yearLength d.year - epochDay := by
  have hpos := d.day_pos
  have hday := d.day_le
  have hmonth := daysBeforeMonth_add_le d.year d.month
  unfold Date.number
  omega

/-- **A date within the range of years is a day from the first to the last.** -/
theorem Date.number_mem (d : Date)
    (hyear : minYear ≤ d.year ∧ d.year ≤ maxYear) :
    minDay ≤ d.number ∧ d.number ≤ maxDay := by
  obtain ⟨hfirst, hlast⟩ := d.number_mem_year
  have hlength := yearLength_le d.year
  -- the last year of the range is no leap year
  have hcommon : d.year = maxYear → yearLength d.year = 365 := by
    intro h
    rw [h]
    rfl
  have hmin : minYear = -262143 := rfl
  have hmax : maxYear = 262142 := rfl
  have hepoch : epochDay = 719162 := rfl
  have hminDay : minDay = -96465292 := rfl
  have hmaxDay : maxDay = 95026236 := rfl
  unfold daysBeforeYear at hfirst hlast
  constructor
  · omega
  · by_cases hend : d.year = maxYear
    · have hcommon := hcommon hend
      omega
    · omega

end ServiceLoom.Calendar
