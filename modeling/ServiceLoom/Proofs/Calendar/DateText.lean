import ServiceLoom.Proofs.Calendar.Readings
import ServiceLoom.Proofs.Text.Blank

/-!
# Dates that are written and read again

Dates are compared as instants and stored as texts, so it matters what a written
instant is read as.  Within the years 0 to 9999 it is the instant that was
written, leap seconds and fractions included; outside of them a year has a sign,
which no form with an offset admits, and the text is no date.  A written day has
no offset, and is read as its start.

* `Instant.readInstant?_text` — reading what was written, in both cases;
* `Instant.readInstant?_text_of_readInstant?` — so a date that is rewritten is
  the same instant or no date any more;
* `readInstant?_dayText` — reading a day that was written.
-/

namespace ServiceLoom.Calendar

open Decimal

/-- A day of a year that is written with four digits. -/
def FourDigitYear (n : Int) : Prop := 0 ≤ (civil n).1 ∧ (civil n).1 ≤ 9999

instance (n : Int) : Decidable (FourDigitYear n) :=
  inferInstanceAs (Decidable (0 ≤ (civil n).1 ∧ (civil n).1 ≤ 9999))

/-! ## Reading what was written -/

theorem expect?_self (c : Char) (rest : List Char) :
    expect? c (c :: rest) = some rest := if_pos rfl

/-- A date within the range of years is found by its parts. -/
theorem Date.of?_eq (d : Date) (hyear : minYear ≤ d.year ∧ d.year ≤ maxYear) :
    Date.of? d.year d.month d.day = some d := by
  rw [Date.of?, dif_pos ⟨d.day_pos, d.day_le⟩, if_pos hyear]

/-- A fraction is read up to the offset. -/
theorem nanos?_fractionText {nano : Nat} (hnano : nano < nanosPerSecond)
    (rest : List Char) :
    nanos? (Instant.fractionText nano ++ '+' :: rest) =
      some (nano, '+' :: rest) := by
  -- after a point, as many digits as there is room for, and the powers that
  -- make nine of them
  have hpoint : ∀ width value, 0 < width → width ≤ 9 → value < 10 ^ width →
      nanos? ('.' :: padded width value ++ '+' :: rest) =
          some (value * tenTo (9 - width), '+' :: rest) := by
    intro width value hwidth hle hvalue
    have hlength : (padded width value).length = width :=
      length_padded hwidth hvalue
    have hall : ∀ c ∈ padded width value, c.isDigit = true :=
      fun c hc => padded_isDigit hc
    have htake : (padded width value ++ '+' :: rest).takeWhile Char.isDigit =
        padded width value := by
      rw [List.takeWhile_append_of_pos hall]
      simp
    have hdrop : (padded width value ++ '+' :: rest).dropWhile Char.isDigit =
        '+' :: rest := by
      rw [List.dropWhile_append_of_pos hall]
      simp
    rw [List.cons_append, nanos?, htake, hdrop,
      if_neg (by simp [padded_ne_nil]), List.take_of_length_le (by omega)]
    dsimp only
    rw [natOfDigits_padded, hlength]
  have hsecond : nanosPerSecond = 1000000000 := rfl
  unfold Instant.fractionText
  split
  next hzero =>
    subst hzero
    rfl
  · split
    next hmilli =>
      have hback : nano / 1000000 * tenTo (9 - 3) = nano :=
        Nat.div_mul_cancel (Nat.dvd_of_mod_eq_zero hmilli)
      rw [hpoint 3 _ (by decide) (by decide) (by omega), hback]
    · split
      next hmicro =>
        have hback : nano / 1000 * tenTo (9 - 6) = nano :=
          Nat.div_mul_cancel (Nat.dvd_of_mod_eq_zero hmicro)
        rw [hpoint 6 _ (by decide) (by decide) (by omega), hback]
      · rw [hpoint 9 _ (by decide) (by decide) (by omega), tenTo, Nat.sub_self,
          Nat.pow_eq, Nat.pow_zero, Nat.mul_one]

namespace Instant

variable {t : Instant}

/-- The second of a minute as it is written. -/
def writtenSecond (t : Instant) : Nat :=
  t.second % 60 + if nanosPerSecond ≤ t.nano then 1 else 0

/-- A written time is read as the time. -/
theorem timeOf?_written (ht : t.Regular) :
    timeOf? (t.second / 3600) (t.second / 60 % 60) t.writtenSecond t.fraction =
      some (t.second, t.nano) := by
  have hday : t.second < 86400 := t.second_lt
  have hnano : t.nano < 2 * nanosPerSecond := t.nano_lt
  unfold timeOf? writtenSecond fraction
  by_cases hleap : nanosPerSecond ≤ t.nano
  · have hlast : t.second % 60 = 59 := ht hleap
    have hfraction : t.nano % nanosPerSecond = t.nano - nanosPerSecond := by
      rw [Nat.mod_eq_sub_mod hleap, Nat.mod_eq_of_lt (by omega)]
    have hsecond : t.second / 3600 * 3600 + t.second / 60 % 60 * 60 + 59 =
        t.second := by omega
    rw [if_pos hleap, if_pos (by omega), if_pos (by omega),
      hfraction, hsecond, Nat.add_sub_cancel' hleap]
  · have hfraction : t.nano % nanosPerSecond = t.nano :=
      Nat.mod_eq_of_lt (by omega)
    have hsecond : t.second / 3600 * 3600 + t.second / 60 % 60 * 60 +
        (t.second % 60 + 0) = t.second := by omega
    rw [if_neg hleap, if_pos (by omega), if_neg (by omega), hfraction, hsecond]

/-- An instant is made of its day and time. -/
theorem instantOf?_eq {d : Date} (hd : d.number = t.day) :
    instantOf? d (t.second - 0) t.nano = some t := by
  have hsecond : t.second < 86400 := t.second_lt
  have hlength : secondsPerDay = 86400 := rfl
  have hquotient : ((t.second : Int) - 0) / (secondsPerDay : Int) = 0 := by
    rw [hlength]
    omega
  have hremainder : (((t.second : Int) - 0) % (secondsPerDay : Int)).toNat =
      t.second := by
    rw [hlength]
    omega
  rw [instantOf?, dif_pos t.nano_lt]
  congr 1
  unfold ofSeconds
  congr 1
  rw [hquotient, hd, Int.add_zero]

/-- The text after the day. -/
def timeText (t : Instant) : List Char :=
  'T' :: (padded 2 (t.second / 3600) ++ ':' ::
    (padded 2 (t.second / 60 % 60) ++ ':' ::
    (padded 2 t.writtenSecond ++
      (fractionText t.fraction ++ '+' :: "00:00".toList))))

theorem toList_text (t : Instant) :
    t.text.toList = dayText t.day ++ t.timeText := by
  rw [text, String.toList_ofList, clockText]
  simp [timeText, writtenSecond]

theorem writtenSecond_le (t : Instant) : t.writtenSecond ≤ 60 := by
  unfold writtenSecond
  split <;> omega

theorem fraction_lt (t : Instant) : t.fraction < nanosPerSecond :=
  Nat.mod_lt _ (by decide)

/-- **A written instant is read as the instant**, in years of four digits. -/
theorem internet?_text (ht : t.Regular) {d : Date}
    (hcivil : civil t.day = (d.year, d.month, d.day))
    (hnumber : d.number = t.day) (hmonth : d.month ≤ 12)
    (hyear : 0 ≤ d.year ∧ d.year ≤ 9999) :
    internet? (dayText t.day ++ t.timeText) = some t := by
  have hday : d.day ≤ 31 := d.day_le.trans (daysInMonth_le _ _)
  have hsecond : t.second < 86400 := t.second_lt
  have hwritten := t.writtenSecond_le
  have hrange : minYear ≤ d.year ∧ d.year ≤ maxYear := by
    unfold minYear maxYear
    omega
  have hcast : ((d.year.toNat : Nat) : Int) = d.year :=
    Int.toNat_of_nonneg hyear.1
  have hyears : ∀ rest, digits? 4 4 (padded 4 d.year.toNat ++ rest) =
      some (d.year.toNat, rest) :=
    digits?_padded (by decide) (by omega)
  have htwo : ∀ n, n < 100 →
      ∀ rest, digits? 2 2 (padded 2 n ++ rest) = some (n, rest) :=
    fun n hn => digits?_padded (by decide) hn
  have hoffset : offset? ('+' :: "00:00".toList) = some (0, []) := rfl
  have hchars : dayText t.day ++ t.timeText =
      padded 4 d.year.toNat ++ '-' :: (padded 2 d.month ++
      '-' :: (padded 2 d.day ++ t.timeText)) := by
    rw [dayText, hcivil]
    dsimp only
    rw [yearText, if_pos hyear]
    simp
  have hdate : Date.of? ((d.year.toNat : Nat) : Int) d.month d.day =
      some d := by
    rw [hcast, Date.of?_eq d hrange]
  rw [hchars, timeText]
  -- The reader takes the pieces in the order in which they are written.
  refine Option.bind_eq_some_iff.mpr ⟨_, hyears _, ?_⟩
  refine Option.bind_eq_some_iff.mpr ⟨_, expect?_self _ _, ?_⟩
  refine Option.bind_eq_some_iff.mpr
    ⟨_, htwo _ (show d.month < 100 by omega) _, ?_⟩
  refine Option.bind_eq_some_iff.mpr ⟨_, expect?_self _ _, ?_⟩
  refine Option.bind_eq_some_iff.mpr
    ⟨_, htwo _ (show d.day < 100 by omega) _, ?_⟩
  refine Option.bind_eq_some_iff.mpr
    ⟨_, htwo _ (show t.second / 3600 < 100 by omega) _, ?_⟩
  refine Option.bind_eq_some_iff.mpr ⟨_, expect?_self _ _, ?_⟩
  refine Option.bind_eq_some_iff.mpr
    ⟨_, htwo _ (show t.second / 60 % 60 < 100 by omega) _, ?_⟩
  refine Option.bind_eq_some_iff.mpr ⟨_, expect?_self _ _, ?_⟩
  refine Option.bind_eq_some_iff.mpr
    ⟨_, htwo _ (show t.writtenSecond < 100 by omega) _, ?_⟩
  refine Option.bind_eq_some_iff.mpr ⟨_, nanos?_fractionText t.fraction_lt _, ?_⟩
  refine Option.bind_eq_some_iff.mpr ⟨_, hoffset, ?_⟩
  refine Option.bind_eq_some_iff.mpr ⟨_, timeOf?_written ht, ?_⟩
  exact Option.bind_eq_some_iff.mpr ⟨_, hdate, instantOf?_eq hnumber⟩

end Instant

/-- No digits are taken where there are none. -/
theorem digits?_eq_none {least most : Nat} {c : Char} {rest : List Char}
    (hc : c.isDigit = false) (hleast : 0 < least) :
    digits? least most (c :: rest) = none := by
  have hnone : ((c :: rest).take most).takeWhile Char.isDigit = [] := by
    cases most with
    | zero => rfl
    | succ k => simp [hc]
  unfold digits?
  rw [hnone]
  exact if_pos hleast

/-- Two digits are a short number. -/
theorem shortNumber?_padded {n : Nat} (hn : n < 100) (rest : List Char) :
    shortNumber? (padded 2 n ++ rest) = some (n, rest) := by
  have hlength : (padded 2 n).length = 2 := length_padded (by decide) hn
  have hstart : Text.trimStart (padded 2 n ++ rest) = padded 2 n ++ rest := by
    cases hdigits : padded 2 n with
    | nil => exact absurd hdigits (padded_ne_nil 2 n)
    | cons c digits =>
        have hc : c.isDigit = true :=
          padded_isDigit (hdigits ▸ List.mem_cons_self)
        exact List.dropWhile_cons_of_neg
          (by simp [Text.isBlankChar_of_isDigit hc])
  rw [shortNumber?, hstart, digits?_eq (fun c hc => padded_isDigit hc)
      (by omega) (by omega) (Or.inl hlength), natOfDigits_padded]

/-- A year is read up to the hyphen, with a sign or without. -/
theorem looseYear?_yearText (year : Int) (rest : List Char) :
    looseYear? (yearText year ++ '-' :: rest) = some (year, '-' :: rest) := by
  -- after a sign there may be any number of digits
  have hsigned : digits? 1 (padded 4 year.natAbs ++ '-' :: rest).length
      (padded 4 year.natAbs ++ '-' :: rest) =
      some (year.natAbs, '-' :: rest) := by
    have hlength := le_length_padded 4 year.natAbs
    rw [digits?_eq (fun c hc => padded_isDigit hc)
      (by omega) (by rw [List.length_append]; omega)
      (Or.inr (by simp)), natOfDigits_padded]
  have hstart : ∀ {c : Char} {cs : List Char}, Text.isBlankChar c = false →
      Text.trimStart (c :: cs) = c :: cs :=
    fun hc => List.dropWhile_cons_of_neg (by simp [hc])
  unfold yearText
  split
  next hyear =>
    have hvalue : ((year.toNat : Nat) : Int) = year := by omega
    have hlength : (padded 4 year.toNat).length = 4 :=
      length_padded (by decide) (by omega)
    have hread : digits? 1 4 (padded 4 year.toNat ++ '-' :: rest) =
        some (year.toNat, '-' :: rest) := by
      rw [digits?_eq (fun c hc => padded_isDigit hc)
        (by omega) (by omega) (Or.inl hlength), natOfDigits_padded]
    cases hdigits : padded 4 year.toNat with
    | nil => exact absurd hdigits (padded_ne_nil 4 _)
    | cons c digits =>
        have hc : c.isDigit = true :=
          padded_isDigit (hdigits ▸ List.mem_cons_self)
        rw [hdigits, List.cons_append] at hread
        rw [List.cons_append, looseYear?,
          hstart (Text.isBlankChar_of_isDigit hc)]
        split
        next hsign => cases hsign; cases hc
        next hsign => cases hsign; cases hc
        · rw [hread, Option.map_some]
          dsimp only
          rw [hvalue]
  next hyear =>
    split
    next hneg =>
      have hvalue : -((year.natAbs : Nat) : Int) = year := by omega
      rw [List.cons_append, looseYear?, hstart (by decide)]
      show (digits? 1 _ _).map _ = _
      rw [hsigned, Option.map_some]
      dsimp only
      rw [hvalue]
    next hpos =>
      have hvalue : ((year.natAbs : Nat) : Int) = year := by omega
      rw [List.cons_append, looseYear?, hstart (by decide)]
      show (digits? 1 _ _).map _ = _
      rw [hsigned, Option.map_some]
      dsimp only
      rw [hvalue]

/-- **A written day is read up to what follows it.** -/
theorem looseDate?_dayText {n : Int} {d : Date}
    (hcivil : civil n = (d.year, d.month, d.day)) (hmonth : d.month ≤ 12)
    (rest : List Char) :
    looseDate? (dayText n ++ rest) =
      (Date.of? d.year d.month d.day).map fun date => (date, rest) := by
  have hday : d.day ≤ 31 := d.day_le.trans (daysInMonth_le _ _)
  have hchars : dayText n ++ rest = yearText d.year ++
      '-' :: (padded 2 d.month ++
      '-' :: (padded 2 d.day ++ rest)) := by
    rw [dayText, hcivil]
    simp
  unfold looseDate?
  rw [hchars]
  simp only [looseYear?_yearText,
    expect?_self, shortNumber?_padded (show d.month < 100 by omega),
    shortNumber?_padded (show d.day < 100 by omega), Option.bind_eq_bind,
    Option.bind_some]
  cases Date.of? d.year d.month d.day with
  | none => rfl
  | some date => rfl

namespace Instant

variable {t : Instant} {d : Date}

/-- **Outside of the years 0 to 9999 a written instant is no date**: the sign of
the year stands where an internet date has digits, and the offset where the
other forms end. -/
theorem readers_eq_none (hcivil : civil t.day = (d.year, d.month, d.day))
    (hmonth : d.month ≤ 12) (hyear : ¬ (0 ≤ d.year ∧ d.year ≤ 9999)) :
    internet? (dayText t.day ++ t.timeText) = none ∧
    local? (dayText t.day ++ t.timeText) = none ∧
      day? (dayText t.day ++ t.timeText) = none := by
  have hsecond : t.second < 86400 := t.second_lt
  have hwritten := t.writtenSecond_le
  have hrest : ∀ rest :
      List Char, (fractionText t.fraction ++ '+' :: rest).isEmpty = false := by
    intro rest
    cases fractionText t.fraction <;> rfl
  refine ⟨?_, ?_, ?_⟩
  · have hsign : ∃ sign rest, sign.isDigit = false ∧
        dayText t.day ++ t.timeText = sign :: rest := by
      rw [dayText, hcivil]
      dsimp only
      rw [yearText, if_neg hyear]
      refine ⟨_, _, ?_, rfl⟩
      split <;> rfl
    obtain ⟨sign, rest, hdigit, hchars⟩ := hsign
    unfold internet?
    rw [hchars, digits?_eq_none hdigit (by decide)]
    rfl
  · unfold local?
    rw [looseDate?_dayText hcivil hmonth]
    cases Date.of? d.year d.month d.day with
    | none => rfl
    | some date =>
        simp only [timeText, Option.map_some, expect?_self,
          shortNumber?_padded (show t.second / 3600 < 100 by omega),
          shortNumber?_padded (show t.second / 60 % 60 < 100 by omega),
          shortNumber?_padded (show t.writtenSecond < 100 by omega),
          Option.bind_eq_bind, Option.bind_some, hrest]
        cases timeOf? (t.second / 3600) (t.second / 60 % 60)
            t.writtenSecond 0 with
        | none => rfl
        | some time => rfl
  · unfold day?
    rw [looseDate?_dayText hcivil hmonth]
    cases Date.of? d.year d.month d.day with
    | none => rfl
    | some date => rfl

/-- A written instant has no blanks. -/
theorem isBlankChar_of_mem_text {c : Char}
    (hc : c ∈ dayText t.day ++ t.timeText) : Text.isBlankChar c = false := by
  have hdigit : ∀ {width n}, c ∈ padded width n → Text.isBlankChar c = false :=
    fun hmem => Text.isBlankChar_of_isDigit (padded_isDigit hmem)
  -- a mark, or what comes after it
  have hmark : ∀ {mark : Char} {rest : List Char},
      Text.isBlankChar mark = false →
      (c ∈ rest → Text.isBlankChar c = false) → c ∈ mark :: rest →
          Text.isBlankChar c = false := by
    intro mark rest hmark hrest hmem
    rcases List.mem_cons.mp hmem with rfl | hmem
    · exact hmark
    · exact hrest hmem
  -- a number, or what comes after it
  have hnumber : ∀ {width n} {rest : List Char},
      (c ∈ rest → Text.isBlankChar c = false) →
      c ∈ padded width n ++ rest → Text.isBlankChar c = false :=
    fun hrest hmem => (List.mem_append.mp hmem).elim hdigit hrest
  have hyear : ∀ year, c ∈ yearText year → Text.isBlankChar c = false := by
    intro year hmem
    unfold yearText at hmem
    split at hmem
    · exact hdigit hmem
    · split at hmem
      · exact hmark (by decide) hdigit hmem
      · exact hmark (by decide) hdigit hmem
  have hfraction : c ∈ fractionText t.fraction →
      Text.isBlankChar c = false := by
    intro hmem
    unfold fractionText at hmem
    split at hmem
    · cases hmem
    · split at hmem
      · exact hmark (by decide) hdigit hmem
      · split at hmem
        · exact hmark (by decide) hdigit hmem
        · exact hmark (by decide) hdigit hmem
  have hoffset : c ∈ '+' :: "00:00".toList → Text.isBlankChar c = false := by
    intro hmem
    have hall :
        ('+' :: "00:00".toList).all (fun c => !Text.isBlankChar c) = true := rfl
    simpa using List.all_eq_true.mp hall c hmem
  have htime : c ∈ t.timeText → Text.isBlankChar c = false := by
    refine hmark (by decide)
      (hnumber (hmark (by decide) (hnumber (hmark (by decide) (hnumber ?_)))))
    exact fun hmem => (List.mem_append.mp hmem).elim hfraction hoffset
  rcases List.mem_append.mp hc with hday | hmem
  · have hchars : dayText t.day = yearText (civil t.day).1 ++
        '-' :: (padded 2 (civil t.day).2.1 ++
        '-' :: (padded 2 (civil t.day).2.2 ++ [])) := by simp [dayText]
    rw [hchars] at hday
    exact (List.mem_append.mp hday).elim (hyear _)
      (hmark (by decide) (hnumber (hmark (by decide) (hnumber nofun))))
  · exact htime hmem

/-- **Reading what was written** gives the instant, unless its year has more
than four digits or is negative. -/
theorem readInstant?_text (ht : t.Regular) :
    readInstant? t.text = if FourDigitYear t.day then some t else none := by
  obtain ⟨d, hcivil, hnumber, hmonth⟩ := exists_date_civil t.day
  have htrim : Text.trimChars t.text.toList = dayText t.day ++ t.timeText := by
    rw [toList_text]
    exact Text.trimChars_eq_self fun c hc => isBlankChar_of_mem_text hc
  have hyear : FourDigitYear t.day ↔ 0 ≤ d.year ∧ d.year ≤ 9999 := by
    rw [FourDigitYear, hcivil]
  unfold readInstant?
  rw [htrim]
  simp only [hyear]
  split
  next hyears => rw [internet?_text ht hcivil hnumber hmonth hyears,
    Option.orElse_some]
  next hyears =>
    obtain ⟨hinternet, hlocal, hday⟩ := readers_eq_none hcivil hmonth hyears
    rw [hinternet, hlocal, hday]
    rfl

/-- **A date that is written anew** is the date that was read, or no date any
more. -/
theorem readInstant?_text_of_readInstant? {text : String}
    (h : readInstant? text = some t) :
    readInstant? t.text = some t ∨ readInstant? t.text = none := by
  rw [readInstant?_text (readInstant?_regular h)]
  split
  · exact Or.inl rfl
  · exact Or.inr rfl

end Instant

/-! ## Plain dates -/

/-- **A written day is read as its start**, in years of four digits. -/
theorem readInstant?_dayText {n : Int} (hyear : FourDigitYear n) :
    readInstant? (String.ofList (dayText n)) = some (Instant.ofDay n) := by
  obtain ⟨d, hcivil, hnumber, hmonth⟩ := exists_date_civil n
  have hday : d.day ≤ 31 := d.day_le.trans (daysInMonth_le _ _)
  rw [FourDigitYear, hcivil] at hyear
  dsimp only at hyear
  have htrim : Text.trimChars (String.ofList (dayText n)).toList =
      dayText n := by
    rw [String.toList_ofList]
    exact Text.trimChars_eq_self fun c hc =>
      Instant.isBlankChar_of_mem_text
        (t := Instant.ofDay n) (List.mem_append_left _ hc)
  have hrange : minYear ≤ d.year ∧ d.year ≤ maxYear := by
    unfold minYear maxYear
    omega
  have hdate : Date.of? d.year d.month d.day = some d := Date.of?_eq d hrange
  have hloose : looseDate? (dayText n) = some (d, []) := by
    have hread := looseDate?_dayText hcivil hmonth []
    rwa [List.append_nil, hdate] at hread
  -- a form with a time goes on after the day
  have hinternet : internet? (dayText n) = none := by
    have hchars : dayText n = padded 4 d.year.toNat ++
        '-' :: (padded 2 d.month ++ '-' :: (padded 2 d.day ++ [])) := by
      rw [dayText, hcivil]
      dsimp only
      rw [yearText, if_pos hyear]
      simp
    have hnext : ∀ {α β : Type} {x : Option α} {f : α → Option β} (a : α),
        x = some a → f a = none →
        x.bind f = none := by
      intro α β x f a hx hf
      rw [hx, Option.bind_some, hf]
    rw [hchars]
    refine hnext _
      (digits?_padded (by decide) (show d.year.toNat < 10 ^ 4 by omega) _) ?_
    refine hnext _ (expect?_self _ _) ?_
    refine hnext _
      (digits?_padded (by decide) (show d.month < 10 ^ 2 by omega) _) ?_
    refine hnext _ (expect?_self _ _) ?_
    refine hnext _ (digits?_padded (by decide) (show d.day < 10 ^ 2 by omega) _)
      ?_
    rfl
  have hlocal : local? (dayText n) = none := by
    unfold local?
    rw [hloose]
    rfl
  unfold readInstant?
  dsimp only
  rw [htrim, hinternet, hlocal, day?, hloose, ← hnumber]
  rfl

/-- A blank text is no date. -/
theorem readInstant?_of_isBlank {text : String} (h : Text.isBlank text = true) :
    readInstant? text = none := by
  have htrim : Text.trimChars text.toList = [] := by
    have hempty :=
      congrArg String.toList ((Text.isBlank_iff_trim_eq_empty text).mp h)
    rwa [Text.trim, String.toList_ofList] at hempty
  unfold readInstant?
  rw [htrim]
  rfl

/-- The first and the last day of the years with four digits. -/
theorem FourDigitYear.day_bounds {n : Int} (h : FourDigitYear n) :
    -719528 ≤ n ∧ n ≤ 2932896 := by
  obtain ⟨d, hcivil, rfl, -⟩ := exists_date_civil n
  rw [FourDigitYear, hcivil] at h
  dsimp only at h
  obtain ⟨hfirst, hlast⟩ := d.number_mem_year
  have hlength := yearLength_le d.year
  -- the last of these years is no leap year
  have hcommon : d.year = 9999 → yearLength d.year = 365 := by
    intro hyear
    rw [hyear]
    rfl
  have hepoch : epochDay = 719162 := rfl
  unfold daysBeforeYear at hfirst hlast
  by_cases hend : d.year = 9999
  · have hcommon := hcommon hend
    omega
  · omega

/-- Days of years with four digits are within the calendar. -/
theorem FourDigitYear.day_mem {n : Int} (h : FourDigitYear n) :
    minDay ≤ n ∧ n ≤ maxDay := by
  obtain ⟨hfirst, hlast⟩ := h.day_bounds
  have hmin : minDay = -96465292 := rfl
  have hmax : maxDay = 95026236 := rfl
  omega

end ServiceLoom.Calendar
