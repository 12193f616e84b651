import ServiceLoom.Proofs.Operation.DateOrder
import ServiceLoom.Proofs.Record.Order

/-!
# Dates that operations write

Two operations write dates into a record, and what they write is read by checks
and by later updates.

* A date that is written anew is the same date, or none any more if its year has
  not four digits; written twice it is as written once
  (`Record.normalizeDate_reads`).
* A due date that is derived from the date of issue is a day without a time.  It
  is not before the issue, unless the term has no days and the issue is later
  than the start of its day (`Record.derivedDue_inOrder_iff`).  It exists when
  it is on a day of the calendar (`Record.dayAfter?_eq_ite`).
-/

namespace ServiceLoom

open Calendar (Instant FourDigitYear)

/-! ## Days after an instant -/

namespace Calendar.Instant

variable {t : Instant} {days : Int}

/-- The end of a term that begins at an instant is on a day of the calendar. -/
def Reaches (t : Instant) (days : Int) : Prop :=
  minDay ≤ t.dayAfter days ∧ t.dayAfter days ≤ maxDay

instance (t : Instant) (days : Int) : Decidable (t.Reaches days) :=
  inferInstanceAs
    (Decidable (minDay ≤ t.dayAfter days ∧ t.dayAfter days ≤ maxDay))

/-- Days that run backwards from the end of a leap second may be one less. -/
theorem dayAfter_bounds (t : Instant) (days : Int) :
    t.day + days ≤ t.dayAfter days ∧ t.dayAfter days ≤ t.day + days + 1 := by
  unfold dayAfter
  split <;> omega

/-- Days that run forwards are added. -/
theorem dayAfter_eq_add (h : 0 ≤ days) : t.dayAfter days = t.day + days :=
  if_neg fun hback => absurd hback.2.1 (Int.not_lt.mpr h)

end Calendar.Instant

namespace Record

variable {r : Record} {field issue due : String} {now t : Instant} {days : Int}

/-! ## Writing a date anew -/

/-- **Writing a date anew twice is writing it once.** -/
theorem normalizeDate_normalizeDate (r : Record) (field : String) :
    (r.normalizeDate field).normalizeDate field = r.normalizeDate field := by
  cases hold : r.instant? field with
  | none =>
      have hkept : r.normalizeDate field = r := by rw [normalizeDate, hold]
      rw [hkept, hkept]
  | some t =>
      have hwritten :
          r.normalizeDate field = r.insert field (.string t.text) := by
        rw [normalizeDate, hold]
      have hnew := r.instant?_normalizeDate_self field
      rw [hold, Option.filter_some] at hnew
      rw [normalizeDate, hnew]
      -- the date that is read again is the one that was written, if there is
      -- one
      by_cases hyear : FourDigitYear t.day
      · simp only [hyear, decide_true, if_true]
        rw [hwritten, Dict.insert_insert]
      · simp [hyear]

/-- **What is read of a date that was written anew.** All dates of the record
are read as before exactly when the year of this one has four digits; otherwise
it is no date any more.  In both cases writing it once more changes nothing. -/
theorem normalizeDate_reads (r : Record) (field : String) :
    ((∀ other, (r.normalizeDate field).instant? other = r.instant? other) ↔
        ∀ t ∈ r.instant? field, FourDigitYear t.day) ∧
      (r.normalizeDate field).instant? field =
        (r.instant? field).filter (fun t => FourDigitYear t.day) ∧
      (r.normalizeDate field).normalizeDate field = r.normalizeDate field := by
  have hself := r.instant?_normalizeDate_self field
  refine ⟨⟨fun h t ht => ?_, fun h other => ?_⟩, hself,
    r.normalizeDate_normalizeDate field⟩
  · rw [h field, ht] at hself
    have hkept := Option.filter_eq_some_iff.mp hself.symm
    exact of_decide_eq_true hkept.2
  · by_cases hother : other = field
    · subst hother
      rw [hself]
      cases ht : r.instant? other with
      | none => rfl
      | some t => simp [h t ht]
    · exact r.instant?_normalizeDate_of_ne hother

/-- The last evening of the year 9999, two hours west, is in the year 10000.
Written anew it is no date any more, and a stay that ended before it began is in
order. -/
theorem lastEvening_lost :
    let stay : Record := [("end", .string "2024-01-01"),
        ("start", .string "9999-12-31T23:00:00-02:00")]
    let written := stay.normalizeDate "start"
    (written.get? "start").map Json.plainText =
      some "+10000-01-01T01:00:00+00:00" ∧
      (stay.instant? "start").isSome = true ∧ written.instant? "start" = none ∧
      ¬ stay.InOrder "start" "end" ∧ written.InOrder "start" "end" := by
  intro stay written
  exact ⟨by decide +kernel, by decide +kernel, by decide +kernel,
    by decide +kernel, by decide +kernel⟩

/-! ## Deriving a due date -/

/-- A blank field holds no date. -/
theorem instant?_of_isBlank (h : isBlank (r.get? field) = true) :
    r.instant? field = none := by
  rw [Option.eq_none_iff_forall_ne_some]
  intro t ht
  obtain ⟨text, hget, hread⟩ := exists_text_of_instant? ht
  rw [hget] at h
  rw [Calendar.readInstant?_of_isBlank h] at hread
  cases hread

/-- The instant from which a term runs: the date of issue, or else the start of
today. -/
def issued (r : Record) (now : Instant) (issue : String) : Instant :=
  (r.instant? issue).getD (Instant.ofDay now.day)

/-- What the issue field of a record may hold: a date, or nothing while today is
in a year of four digits. -/
def MayIssue (r : Record) (now : Instant) (issue : String) : Prop :=
  (r.instant? issue).isSome = true ∨ isBlank (r.get? issue) = true ∧
    FourDigitYear now.day

instance (r : Record) (now : Instant) (issue : String) :
    Decidable (r.MayIssue now issue) :=
  inferInstanceAs (Decidable ((r.instant? issue).isSome = true ∨
    isBlank (r.get? issue) = true ∧ FourDigitYear now.day))

/-- After today is filled in, the issue field holds the instant of issue. -/
theorem instant?_defaultToday (h : r.MayIssue now issue) :
    (r.defaultToday now issue).instant? issue = some (r.issued now issue) := by
  unfold defaultToday issued
  rcases h with hdate | ⟨hblank, hyear⟩
  · obtain ⟨t, ht⟩ := Option.isSome_iff_exists.mp hdate
    have hfilled : isBlank (r.get? issue) ≠ true := by
      intro hblank
      rw [instant?_of_isBlank hblank] at ht
      cases ht
    rw [if_neg hfilled, ht, Option.getD_some]
  · rw [if_pos hblank, dayValue, instant?_insert_string,
      Calendar.readInstant?_dayText hyear, instant?_of_isBlank hblank,
      Option.getD_none]

/-- An issue is on a day of the calendar. -/
theorem issued_day_mem (h : r.MayIssue now issue) :
    Calendar.minDay ≤ (r.issued now issue).day ∧
    (r.issued now issue).day ≤ Calendar.maxDay := by
  unfold issued
  rcases h with hdate | ⟨hblank, hyear⟩
  · obtain ⟨t, ht⟩ := Option.isSome_iff_exists.mp hdate
    obtain ⟨text, -, hread⟩ := exists_text_of_instant? ht
    rw [ht, Option.getD_some]
    exact Calendar.readInstant?_day_mem hread
  · rw [instant?_of_isBlank hblank, Option.getD_none]
    exact hyear.day_mem

/-- **From a day of the calendar the calendar alone decides**: a span that leads
to another day of it is never too long to be added. -/
theorem dayAfter?_eq_ite
    (ht : Calendar.minDay ≤ t.day ∧ t.day ≤ Calendar.maxDay) :
    dayAfter? t days = if t.Reaches days then some (t.dayAfter days)
      else none := by
  unfold dayAfter?
  by_cases hreach : t.Reaches days
  · have hspan : days.natAbs ≤ maxSpan.natAbs := by
      obtain ⟨hbelow, habove⟩ := t.dayAfter_bounds days
      obtain ⟨hfirst, hlast⟩ := hreach
      have hmin : Calendar.minDay = -96465292 := rfl
      have hmax : Calendar.maxDay = 95026236 := rfl
      unfold maxSpan
      omega
    rw [if_pos hspan, if_pos hreach]
    exact if_pos hreach
  · rw [if_neg hreach]
    split
    · exact if_neg hreach
    · rfl

/-- A due day is before the issue only when it is the day of issue, and the
issue later than its start. -/
theorem before_issue_iff (hdays : 0 ≤ days) :
    (Instant.ofDay (t.day + days)).before t = false ↔
      0 < days ∨ t = Instant.ofDay t.day := by
  have hstart : t = Instant.ofDay t.day ↔ t.second = 0 ∧ t.nano = 0 := by
    obtain ⟨day, second, nano, hsecond, hnano⟩ := t
    simp [Instant.ofDay]
  have hbefore : ∀ a b : Instant, a.before b = false ↔ ¬ a.day < b.day ∧
      (a.day = b.day → ¬ a.second < b.second ∧
          (a.second = b.second → ¬ a.nano < b.nano)) := by
    intro a b
    simp [Instant.before]
  rw [hstart, hbefore]
  show ¬ t.day + days < t.day ∧ (t.day + days = t.day →
      ¬ 0 < t.second ∧ (0 = t.second → ¬ 0 < t.nano)) ↔ _
  omega

/-- **A derived due date and the issue.** For a record without a due date, a
term that does not run backwards gives one, the day so many days after the
issue.  The check that the due date is not before the issue passes exactly when
the term has a day at least, or the issue is the start of its day. -/
theorem derivedDue_inOrder_iff
    (message : String) (hne : issue ≠ due) (hdue : isBlank (r.get? due) = true)
    (hissue : r.MayIssue now issue) (hdays : 0 ≤ days)
    (hyear : FourDigitYear ((r.issued now issue).day + days)) :
    ∃ r', r.dueDate? now issue due days = some r' ∧
      r'.instant? issue = some (r.issued now issue) ∧
      r'.instant? due = some (Instant.ofDay ((r.issued now issue).day + days)) ∧
      (r'.dateOrder issue due message = .ok () ↔
        0 < days ∨ r.issued now issue =
          Instant.ofDay (r.issued now issue).day) := by
  have htoday : (r.defaultToday now issue).instant? issue =
      some (r.issued now issue) := instant?_defaultToday hissue
  have hstill : isBlank ((r.defaultToday now issue).get? due) = true := by
    unfold defaultToday
    split
    · rwa [Dict.get?_insert_of_ne _ _ hne.symm]
    · exact hdue
  have hderived : dayAfter? (r.issued now issue) days =
      some ((r.issued now issue).day + days) := by
    have hreach : (r.issued now issue).Reaches days := by
      rw [Instant.Reaches, Instant.dayAfter_eq_add hdays]
      exact hyear.day_mem
    rw [dayAfter?_eq_ite (issued_day_mem hissue), if_pos hreach,
      Instant.dayAfter_eq_add hdays]
  have hresult : r.dueDate? now issue due days =
      some ((r.defaultToday now issue).insert due
          (dayValue ((r.issued now issue).day + days))) := by
    unfold dueDate?
    dsimp only
    rw [if_pos hstill, htoday]
    dsimp only
    rw [hderived, Option.map_some]
  have hissued := (instant?_insert_of_ne (r.defaultToday now issue)
    (dayValue ((r.issued now issue).day + days)) hne).trans htoday
  have hread := (instant?_insert_string (r.defaultToday now issue) due _).trans
      (Calendar.readInstant?_dayText hyear)
  refine ⟨_, hresult, hissued, hread, ?_⟩
  rw [dateOrder_eq_ok_iff, ← before_issue_iff hdays]
  constructor
  · exact fun horder => horder _ hissued _ hread
  · intro hbefore a ha b hb
    obtain rfl := Option.some.inj (hissued.symm.trans ha)
    obtain rfl := Option.some.inj (hread.symm.trans hb)
    exact hbefore

/-- A bill that is issued in the morning, without a due date. -/
def morningBill : Record := [("issue_date", .string "2024-01-10T10:00:00Z")]

/-- A term of thirty days takes the bill to the ninth of February. -/
theorem morningBill_due :
    morningBill.MayIssue (Instant.ofDay 0) "issue_date" ∧
      FourDigitYear
        ((morningBill.issued (Instant.ofDay 0) "issue_date").day + 30) ∧
      ∃ r, morningBill.dueDate? (Instant.ofDay 0) "issue_date"
        "due_date" 30 = some r ∧
        r.instant? "due_date" = Calendar.readInstant? "2024-02-09" ∧
        r.dateOrder "issue_date" "due_date" "bad" = .ok () := by
  have hissue : morningBill.MayIssue (Instant.ofDay 0) "issue_date" := by
    decide +kernel
  have hyear : FourDigitYear
      ((morningBill.issued (Instant.ofDay 0) "issue_date").day + 30) := by
    decide +kernel
  obtain ⟨r, hr, -, hdue, horder⟩ := derivedDue_inOrder_iff "bad"
    (show "issue_date" ≠ "due_date" by decide) rfl
      hissue (show (0 : Int) ≤ 30 by decide) hyear
  have hday : some (Instant.ofDay
      ((morningBill.issued (Instant.ofDay 0) "issue_date").day + 30)) =
      Calendar.readInstant? "2024-02-09" := by decide +kernel
  exact ⟨hissue, hyear, r, hr, hdue.trans hday, horder.mpr (.inl (by decide))⟩

/-- **A bill that is due at once is refused**: its due date is the day of issue,
which begins before the issue. -/
theorem morningBill_refused :
    isBlank (morningBill.get? "due_date") = true ∧
    morningBill.MayIssue (Instant.ofDay 0) "issue_date" ∧
      ∃ r, morningBill.dueDate? (Instant.ofDay 0) "issue_date"
        "due_date" 0 = some r ∧
        r = [("due_date", .string "2024-01-10"),
          ("issue_date", .string "2024-01-10T10:00:00Z")] ∧
        r.dateOrder "issue_date" "due_date" "bad" =
          .error (.invalid "due_date" "bad") :=
  ⟨rfl, by decide +kernel, _, rfl, rfl, rfl⟩

end Record

end ServiceLoom
