import ServiceLoom.Operation.Dates
import ServiceLoom.Operation.Fields
import ServiceLoom.Proofs.Calendar.DateText

/-!
# Dates in order

Two fields of a record are in order unless both hold dates and the second comes
before the first.  A check of the order says so (`Record.dateOrder_eq_ok_iff`),
and writing dates anew, which keeps each date or loses it, leaves them in order
(`Record.InOrder.normalizeDate`).
-/

namespace ServiceLoom

/-- A date that is written anew is the same date, or none any more. -/
theorem Json.instant?_text {v : Json} {t : Calendar.Instant}
    (hv : v.instant? = some t) :
    (Json.string t.text).instant? = some t ∨
      (Json.string t.text).instant? = none := by
  cases v with
  | string text =>
      rw [Json.instant?] at hv
      rw [Json.instant?]
      exact Calendar.Instant.readInstant?_text_of_readInstant? hv
  | _ => cases hv

namespace Record

variable {r r' : Record} {start finish field message : String}

/-- If both fields hold dates, the second does not come before the first. -/
def InOrder (r : Record) (start finish : String) : Prop :=
  ∀ a ∈ r.instant? start, ∀ b ∈ r.instant? finish, b.before a = false

instance (r : Record) (start finish : String) :
    Decidable (r.InOrder start finish) :=
  inferInstanceAs (Decidable
    (∀ a ∈ r.instant? start, ∀ b ∈ r.instant? finish, b.before a = false))

/-- Dates stay in order when each of them is kept or lost. -/
theorem InOrder.of_instants (h : r.InOrder start finish)
    (hstart : r'.instant? start = r.instant? start ∨ r'.instant? start = none)
    (hfinish : r'.instant? finish = r.instant? finish ∨
      r'.instant? finish = none) : r'.InOrder start finish := by
  intro a ha b hb
  rcases hstart with hstart | hnone
  · rcases hfinish with hfinish | hnone
    · exact h a (hstart ▸ ha) b (hfinish ▸ hb)
    · rw [hnone] at hb
      cases hb
  · rw [hnone] at ha
    cases ha

/-- The order is a matter of the two fields. -/
theorem inOrder_congr (hstart : r.get? start = r'.get? start)
    (hfinish : r.get? finish = r'.get? finish) :
    r.InOrder start finish ↔ r'.InOrder start finish := by
  rw [InOrder, InOrder, instant?, instant?, instant?, instant?, hstart, hfinish]

/-- **The check of the order passes exactly when the dates are in order.** -/
theorem dateOrder_eq_ok_iff : r.dateOrder start finish message = .ok () ↔
    r.InOrder start finish := by
  unfold dateOrder InOrder
  cases r.instant? start with
  | none => exact iff_of_true rfl nofun
  | some a =>
      cases r.instant? finish with
      | none => exact iff_of_true rfl fun _ _ => nofun
      | some b =>
          constructor
          · intro hcheck a' ha b' hb
            cases ha
            cases hb
            cases hbefore : b.before a with
            | false => rfl
            | true => simp [hbefore] at hcheck
          · intro horder
            simp [horder a rfl b rfl]

/-- A date comes from a text that a reader took apart. -/
theorem exists_text_of_instant? {t : Calendar.Instant}
    (h : r.instant? field = some t) :
    ∃ text, r.get? field = some (.string text) ∧
      Calendar.readInstant? text = some t := by
  obtain ⟨v, hget, hv⟩ := Option.bind_eq_some_iff.mp h
  cases v with
  | string text => exact ⟨text, hget, hv⟩
  | _ => cases hv

/-- A field that was set to a text holds the date that the text names. -/
theorem instant?_insert_string (r : Record) (field text : String) :
    instant? (r.insert field (.string text)) field =
      Calendar.readInstant? text := by
  rw [instant?, Dict.get?_insert_self, Option.bind_some, Json.instant?]

/-- Setting one field leaves the dates of the others. -/
theorem instant?_insert_of_ne (r : Record) (v : Json) {other : String}
    (h : other ≠ field) :
    instant? (r.insert field v) other = r.instant? other := by
  rw [instant?, instant?, Dict.get?_insert_of_ne _ _ h]

/-- A date that is written anew is kept if its year has four digits. -/
theorem instant?_normalizeDate_self (r : Record) (field : String) :
    (r.normalizeDate field).instant? field =
      (r.instant? field).filter fun t => Calendar.FourDigitYear t.day := by
  unfold normalizeDate
  cases ht : r.instant? field with
  | none => exact ht
  | some t =>
      obtain ⟨text, -, hread⟩ := exists_text_of_instant? ht
      dsimp only
      rw [instant?_insert_string, Calendar.Instant.readInstant?_text
          (Calendar.readInstant?_regular hread), Option.filter_some]
      simp only [decide_eq_true_eq]

/-- The dates of other fields stay. -/
theorem instant?_normalizeDate_of_ne (r : Record) {other : String}
    (h : other ≠ field) :
    (r.normalizeDate field).instant? other = r.instant? other := by
  unfold normalizeDate
  split
  · rfl
  · exact instant?_insert_of_ne r _ h

/-- Writing one field anew keeps every date or loses it. -/
theorem instant?_normalizeDate (r : Record) (field other : String) :
    (r.normalizeDate field).instant? other = r.instant? other ∨
      (r.normalizeDate field).instant? other = none := by
  by_cases hother : other = field
  · subst hother
    rw [instant?_normalizeDate_self]
    cases r.instant? other with
    | none => exact Or.inl rfl
    | some t =>
        rw [Option.filter_some]
        split
        · exact Or.inl rfl
        · exact Or.inr rfl
  · exact Or.inl (r.instant?_normalizeDate_of_ne hother)

/-- Dates in order stay so when one is written anew. -/
theorem InOrder.normalizeDate (h : r.InOrder start finish) (field : String) :
    (r.normalizeDate field).InOrder start finish :=
  h.of_instants (r.instant?_normalizeDate field start)
    (r.instant?_normalizeDate field finish)

end Record

end ServiceLoom
