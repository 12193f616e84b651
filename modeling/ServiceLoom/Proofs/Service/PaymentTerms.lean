import ServiceLoom.Plan.Bundle
import ServiceLoom.Proofs.Operation.WrittenDates

/-!
# Payment terms that the calendar has room for

A blank due date is derived from the date of issue, and the day so many days
later may lie outside of the calendar: then the procedure halts.  Every date
that is read is on a day of the calendar itself, and so the limit on spans of
days is never what decides: the due date exists exactly when its day is one of
the calendar (`Record.dueDate?_eq_none_iff`).

A record can hold the first or the last day of the calendar.  So no term but the
empty one is safe for all records (`Record.dueDate_answers_iff`), while dates in
years of four digits leave room for a quarter of a million years in either
direction (`Calendar.FourDigitYear.reaches`).
-/

namespace ServiceLoom

/-- Dates in years of four digits leave room for a quarter of a million
years. -/
theorem Calendar.FourDigitYear.reaches {t : Calendar.Instant}
    {days : Int} (ht : Calendar.FourDigitYear t.day) (hleast : -95745764 ≤ days)
    (hmost : days ≤ 92093339) : t.Reaches days := by
  obtain ⟨hfirst, hlast⟩ := ht.day_bounds
  obtain ⟨hbelow, habove⟩ := t.dayAfter_bounds days
  have hmin : Calendar.minDay = -96465292 := rfl
  have hmax : Calendar.maxDay = 95026236 := rfl
  unfold Calendar.Instant.Reaches
  omega

namespace Record

open Calendar (Instant)

variable {r : Record} {issue due : String} {now t : Instant} {days : Int}

/-- The instant from which a blank due date is derived: the date of issue, after
today is filled in. -/
def termStart? (r : Record) (now : Instant) (issue due : String) :
    Option Instant :=
  if isBlank ((r.defaultToday now issue).get? due) then
    (r.defaultToday now issue).instant? issue
  else none

/-- A term starts on a day of the calendar. -/
theorem termStart?_day_mem (h : r.termStart? now issue due = some t) :
    Calendar.minDay ≤ t.day ∧ t.day ≤ Calendar.maxDay := by
  obtain ⟨-, hdate⟩ := Option.ite_none_right_eq_some.mp h
  obtain ⟨text, -, hread⟩ := exists_text_of_instant? hdate
  exact Calendar.readInstant?_day_mem hread

/-- A field is no term's issue and end at once: once it holds a date it is not
blank. -/
theorem termStart?_self (r : Record) (now : Instant) (field : String) :
    r.termStart? now field field = none := by
  unfold termStart?
  split
  next hblank => exact instant?_of_isBlank hblank
  · rfl

/-- The due date in terms of where the term starts. -/
theorem dueDate?_eq (r : Record) (now : Instant) (issue due : String)
    (days : Int) :
    r.dueDate? now issue due days =
      match r.termStart? now issue due with
      | none => some (r.defaultToday now issue)
      | some t =>
          (dayAfter? t days).map fun day =>
            (r.defaultToday now issue).insert due (dayValue day) := by
  unfold dueDate? termStart?
  dsimp only
  split
  · rfl
  · rfl

/-- **There is no due date exactly when the term ends outside of the
calendar.** -/
theorem dueDate?_eq_none_iff :
    r.dueDate? now issue due days = none ↔
    ∃ t ∈ r.termStart? now issue due, ¬ t.Reaches days := by
  rw [dueDate?_eq]
  cases hstart : r.termStart? now issue due with
  | none => simp
  | some t =>
      dsimp only
      rw [dayAfter?_eq_ite (termStart?_day_mem hstart)]
      by_cases hreach : t.Reaches days
      · simp [hreach]
      · simp [hreach]

theorem dueDate?_ne_none_iff :
    r.dueDate? now issue due days ≠ none ↔
    ∀ t ∈ r.termStart? now issue due, t.Reaches days := by
  rw [Ne, dueDate?_eq_none_iff]
  simp

/-- The empty term ends where it starts. -/
theorem dueDate?_zero_ne_none (r : Record) (now : Instant)
    (issue due : String) : r.dueDate? now issue due 0 ≠ none := by
  rw [dueDate?_ne_none_iff]
  intro t hstart
  have hday : t.dayAfter 0 = t.day + 0 :=
    Instant.dayAfter_eq_add (Int.le_refl 0)
  rw [Instant.Reaches, hday, Int.add_zero]
  exact termStart?_day_mem hstart

/-- A record that holds nothing but a date of issue starts its term there. -/
theorem termStart?_singleton {text : String} (hne : issue ≠ due)
    (hread : Calendar.readInstant? text = some t) :
    termStart? [(issue, .string text)] now issue due = some t := by
  have hfilled :
      isBlank (Dict.get? [(issue, Json.string text)] issue) ≠ true := by
    intro hblank
    simp only [Dict.get?, if_pos] at hblank
    rw [Calendar.readInstant?_of_isBlank hblank] at hread
    cases hread
  have hkept : defaultToday [(issue, .string text)] now issue =
      [(issue, .string text)] := if_neg hfilled
  unfold termStart?
  rw [hkept]
  simp [Dict.get?, hne, isBlank, instant?, Json.instant?, hread]

/-- The first and the last day of the calendar, as a record can hold them. -/
theorem readInstant?_ends :
    Calendar.readInstant? "-262143-01-01" =
      some (Instant.ofDay Calendar.minDay) ∧
      Calendar.readInstant? "+262142-12-31" =
        some (Instant.ofDay Calendar.maxDay) :=
  ⟨by decide +kernel, by decide +kernel⟩

/-- **Every term with a day at least is too long for some record**: one that is
issued on the last day of the calendar, or on the first if the term runs
backwards. -/
theorem exists_dueDate?_eq_none (now : Instant) (hne : issue ≠ due)
    (hdays : days ≠ 0) :
    ∃ r : Record, r.dueDate? now issue due days = none := by
  obtain ⟨hfirst, hlast⟩ := readInstant?_ends
  rcases Int.lt_or_gt_of_ne hdays with hback | hforth
  · refine ⟨_, dueDate?_eq_none_iff.mpr ⟨_, termStart?_singleton hne hfirst, ?_⟩⟩
    have hday : (Instant.ofDay Calendar.minDay).dayAfter days =
        Calendar.minDay + days :=
      if_neg fun hleap => absurd hleap.1 (by decide)
    rw [Instant.Reaches, hday]
    omega
  · refine ⟨_, dueDate?_eq_none_iff.mpr ⟨_, termStart?_singleton hne hlast, ?_⟩⟩
    have hday : (Instant.ofDay Calendar.maxDay).dayAfter days =
        Calendar.maxDay + days :=
      Instant.dayAfter_eq_add (Int.le_of_lt hforth)
    rw [Instant.Reaches, hday]
    omega

/-! ## The procedure -/

/-- Deriving a due date asks the clock only. -/
theorem run_dueDate (r : Record) (issue due : String) (days : Int) (host : Host)
    (outage : Outage) (s : Store) :
    (dueDate r issue due days).run host outage s =
      (match r.dueDate? host.now issue due days with
        | some r' => .ok r'
        | none => .error (.halted .calendarExceeded), s) := by
  unfold dueDate
  rw [Access.run]
  cases r.dueDate? host.now issue due days with
  | some r' => rfl
  | none => rfl

/-- A due date is derived when the term ends within the calendar. -/
theorem exists_run_dueDate_iff {host : Host} {outage : Outage} {s : Store} :
    (∃ r', (dueDate r issue due days).run host outage s = (.ok r', s)) ↔
      ∀ t ∈ r.termStart? host.now issue due, t.Reaches days := by
  rw [← dueDate?_ne_none_iff, run_dueDate]
  cases r.dueDate? host.now issue due days with
  | none => simp
  | some r' => simp

/-- Otherwise the procedure halts. -/
theorem run_dueDate_halts_iff {host : Host} {outage : Outage} {s : Store} :
    (dueDate r issue due days).run host outage s =
      (.error (.halted .calendarExceeded), s) ↔
      ∃ t ∈ r.termStart? host.now issue due, ¬ t.Reaches days := by
  rw [run_dueDate, ← dueDate?_eq_none_iff]
  cases r.dueDate? host.now issue due days with
  | none => simp
  | some r' => simp

/-- **A term that no record can make halt is empty**, unless it ends in the
field where it starts. -/
theorem forall_dueDate?_iff (now : Instant) (issue due : String) (days : Int) :
    (∀ r : Record, r.dueDate? now issue due days ≠ none) ↔
      issue = due ∨ days = 0 := by
  constructor
  · intro hall
    by_contra hsafe
    obtain ⟨hne, hdays⟩ := not_or.mp hsafe
    obtain ⟨r, hnone⟩ := exists_dueDate?_eq_none now hne hdays
    exact hall r hnone
  · rintro (rfl | rfl) r
    · rw [dueDate?_ne_none_iff, termStart?_self]
      exact fun _ hnone => nomatch hnone
    · exact r.dueDate?_zero_ne_none now issue due

/-- **A due date is derived exactly when the term ends within the calendar, and
otherwise the procedure halts.** For two different fields the terms that no
record can make halt are the empty ones. -/
theorem dueDate_answers_iff (issue due : String) (days : Int) :
    (∀ (r : Record) (host : Host) (outage : Outage) (s : Store),
      ((∃ r', (dueDate r issue due days).run host outage s = (.ok r', s)) ↔
          ∀ t ∈ r.termStart? host.now issue due, t.Reaches days) ∧
        ((dueDate r issue due days).run host outage s =
          (.error (.halted .calendarExceeded), s) ↔
          ∃ t ∈ r.termStart? host.now issue due, ¬ t.Reaches days)) ∧
      ∀ (host : Host) (outage : Outage) (s : Store),
        (∀ r : Record, ∃ r', (dueDate r issue due days).run
          host outage s = (.ok r', s)) ↔ issue = due ∨ days = 0 := by
  refine ⟨fun r host outage s =>
    ⟨exists_run_dueDate_iff, run_dueDate_halts_iff⟩, fun host outage s => ?_⟩
  rw [← forall_dueDate?_iff host.now issue due days]
  exact forall_congr' fun r =>
    exists_run_dueDate_iff.trans dueDate?_ne_none_iff.symm

/-- The settings of invoices that are due after a hundred million days. -/
def longTerms : BundleConfig := [("payment_terms", .ofNat 100000000)]

/-- **Terms come from the settings as they are**, and an invoice of a usual date
makes them halt. -/
theorem longTerms_halt :
    (Hook.beforeCreateTransformation,
        Fragment.dueDate "issue_date" "due_date" 100000000) ∈
        (Bundle.invoiceSet longTerms).hooks ∧
      ∀ (host : Host) (s : Store),
        (dueDate [("issue_date", .string "2024-01-10")]
          "issue_date" "due_date" 100000000).run host Outage.none s =
          (.error (.halted .calendarExceeded), s) := by
  constructor
  · have hdays : wholeDays (BundleConfig.number longTerms ["payment_terms",
        "paymentTerms"] 30) = 100000000 := by
      decide +kernel
    unfold Bundle.invoiceSet
    dsimp only
    rw [hdays]
    simp
  · intro host s
    have hread : Calendar.readInstant? "2024-01-10" =
        some (Instant.ofDay 19732) := by decide +kernel
    have hstart : termStart? [("issue_date", .string "2024-01-10")]
        host.now "issue_date" "due_date" =
        some (Instant.ofDay 19732) := termStart?_singleton (by decide) hread
    rw [run_dueDate, dueDate?_eq_none_iff.mpr ⟨_, hstart, by decide⟩]

end Record

end ServiceLoom
