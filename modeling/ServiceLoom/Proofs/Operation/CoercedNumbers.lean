import ServiceLoom.Operation.Fields
import ServiceLoom.Proofs.Record.Order

/-!
# Numbers read from texts

An operation replaces a value by the number that it denotes.  The number of a
text can be too large for a document, or none at all: documents hold finite
numbers only, and what is stored instead is null.  So the operation keeps the
number of a value exactly when that is finite.  Only texts can lose theirs,
since the numbers of a document are finite.

A value that is lost passes every later check of a bound, whatever the text
said.  To read a field twice is to read it once in any case: a number stays as
it is, and null is no value to be read.

* `Json.ofFloat_eq_number_iff`, `Json.ofFloat_eq_null_iff` — which floats are
  stored as numbers;
* `Json.exists_text_of_numeric?` — only texts denote other numbers;
* `Record.coerceNumber_coerces` — what the operation leaves.
-/

namespace ServiceLoom

namespace Json

variable {v : Json} {x : Float}

/-- A number with the same value is stored for finite floats. -/
theorem ofFloat_eq_number_iff (x : Float) :
    (∃ n, ofFloat x = .number n ∧ n.toFloat = x) ↔ x.isFinite = true := by
  constructor
  · rintro ⟨n, -, rfl⟩
    exact n.isFinite_toFloat
  · intro hfinite
    rcases ofFloat_cases x with ⟨h, hnumber⟩ | ⟨hinfinite, -⟩
    · exact ⟨.float x h, hnumber, rfl⟩
    · rw [hfinite] at hinfinite
      cases hinfinite

theorem ofFloat_eq_null_iff (x : Float) : ofFloat x = .null ↔
    x.isFinite = false := by
  rcases ofFloat_cases x with ⟨hfinite, hnumber⟩ | ⟨hinfinite, hnull⟩
  · rw [hnumber, hfinite]
    exact iff_of_false nofun nofun
  · rw [hnull, hinfinite]
    exact iff_of_true rfl rfl

/-- What is stored denotes the float again, if it is finite, and else
nothing. -/
theorem numeric?_ofFloat (x : Float) :
    (ofFloat x).numeric? = if x.isFinite then some x else none := by
  rcases ofFloat_cases x with ⟨hfinite, hnumber⟩ | ⟨hinfinite, hnull⟩
  · rw [hnumber, hfinite]
    rfl
  · rw [hnull, hinfinite]
    rfl

/-- **Only a text denotes a number that is not finite.** -/
theorem exists_text_of_numeric? (hx : v.numeric? = some x)
    (hinfinite : x.isFinite = false) :
    ∃ s, v = .string s ∧ Decimal.read? (Text.trim s) = some x := by
  cases v with
  | string s => exact ⟨s, rfl, hx⟩
  | number n =>
      obtain rfl := Option.some.inj hx
      rw [n.isFinite_toFloat] at hinfinite
      cases hinfinite
  | _ => cases hx

end Json

namespace Record

variable {r r' : Record} {field message : String} {v : Json} {x : Float}

/-- What is left of a record when one of its fields is read as a number. -/
structure Coerces (r : Record) (field : String) (r' : Record) : Prop where
  /-- A field that is missing or null is left as it was. -/
  absent : r.present? field = none → r' = r
  get?_other : ∀ other, other ≠ field → r'.get? other = r.get? other
  /-- The field holds the number that its value denoted exactly when that is
  finite. -/
  number_iff : ∀ v x, r.present? field = some v → v.numeric? = some x →
    ((∃ n, r'.get? field = some (.number n) ∧ n.toFloat = x) ↔ x.isFinite = true)
  /-- What is lost was a text. -/
  lost_iff : ∀ v, r.present? field = some v →
    (r'.get? field = some .null ↔
      ∃ s x, v = .string s ∧ Decimal.read? (Text.trim s) = some x ∧
        x.isFinite = false)
  /-- A later check of a bound refuses the number that was denoted, unless it is
  lost. -/
  atLeast_iff : ∀ v x least message, r.present? field = some v →
    v.numeric? = some x →
    (r'.atLeast field least message = .ok () ↔ (x.isFinite = true → ¬ x < least))
  again : ∀ message, r'.coerceNumber field message = .ok r'

/-- A value that denotes a number is replaced by it. -/
theorem coerceNumber_of_present (hv : r.present? field = some v)
    (hx : v.numeric? = some x) (message : String) :
    r.coerceNumber field message = .ok (r.insert field (.ofFloat x)) := by
  rw [coerceNumber, hv]
  dsimp only
  rw [hx]

theorem coerceNumber_of_absent (h : r.present? field = none)
    (message : String) : r.coerceNumber field message = .ok r := by
  rw [coerceNumber, h]

/-- What is stored is not read as another number. -/
theorem coerceNumber_insert_ofFloat (r : Record) (field : String) (x : Float)
    (message : String) :
    coerceNumber (r.insert field (.ofFloat x)) field message =
      .ok (r.insert field (.ofFloat x)) := by
  have hget : (r.insert field (.ofFloat x)).get? field = some (.ofFloat x) :=
    Dict.get?_insert_self r field _
  rcases Json.ofFloat_cases x with ⟨hfinite, hnumber⟩ | ⟨-, hnull⟩
  · have hread : (Json.ofFloat x).numeric? = some x := by
      rw [Json.numeric?_ofFloat, if_pos hfinite]
    have hpresent : present? (r.insert field (.ofFloat x)) field =
        some (.ofFloat x) :=
      present?_eq_some hget (by rw [hnumber]; rfl)
    rw [coerceNumber_of_present hpresent hread, Dict.insert_insert]
  · refine coerceNumber_of_absent (present?_eq_none_iff.mpr ?_) message
    rw [hget, hnull]
    rfl

/-- A field that denotes a number leaves what is stored of that number. -/
theorem coerces_insert (hv : r.present? field = some v)
    (hx : v.numeric? = some x) :
    r.Coerces field (r.insert field (.ofFloat x)) := by
  have hget : (r.insert field (.ofFloat x)).get? field = some (.ofFloat x) :=
    Dict.get?_insert_self r field _
  have hsame : ∀ w y, r.present? field = some w →
      w.numeric? = some y → y = x := by
    intro w y hw hy
    obtain rfl := Option.some.inj (hw.symm.trans hv)
    exact Option.some.inj (hy.symm.trans hx)
  exact {
    absent := by
      intro hnone
      rw [hv] at hnone
      cases hnone
    get?_other := fun other hother => Dict.get?_insert_of_ne r _ hother
    number_iff := by
      intro w y hw hy
      obtain rfl := hsame w y hw hy
      rw [hget, ← Json.ofFloat_eq_number_iff y]
      simp only [Option.some.injEq]
    lost_iff := by
      intro w hw
      obtain rfl := Option.some.inj (hw.symm.trans hv)
      rw [hget, Option.some.injEq, Json.ofFloat_eq_null_iff]
      constructor
      · intro hinfinite
        obtain ⟨s, hs, hread⟩ := Json.exists_text_of_numeric? hx hinfinite
        exact ⟨s, x, hs, hread, hinfinite⟩
      · rintro ⟨s, y, rfl, hread, hinfinite⟩
        obtain rfl := hsame _ y hw hread
        exact hinfinite
    atLeast_iff := by
      intro w y least text hw hy
      obtain rfl := hsame w y hw hy
      rw [atLeast, numeric?, hget, Option.bind_some, Json.numeric?_ofFloat]
      cases y.isFinite with
      | false => simp
      | true => by_cases hlt : y < least <;> simp [hlt]
    again := coerceNumber_insert_ofFloat r field x }

/-- A field without a value leaves the record. -/
theorem coerces_self (h : r.present? field = none) : r.Coerces field r := by
  have hnever : ∀ v, r.present? field ≠ some v := by
    intro v hv
    rw [h] at hv
    cases hv
  exact {
    absent := fun _ => rfl
    get?_other := fun _ _ => rfl
    number_iff := fun v _ hv => absurd hv (hnever v)
    lost_iff := fun v hv => absurd hv (hnever v)
    atLeast_iff := fun v _ _ _ hv => absurd hv (hnever v)
    again := coerceNumber_of_absent h }

/-- **A field is read as a number** exactly when it has no value or one that
denotes a number.  The number is kept exactly when it is finite, and reading the
field again changes nothing. -/
theorem coerceNumber_coerces (r : Record) (field message : String) :
    ((∃ r', r.coerceNumber field message = .ok r') ↔
      ∀ v, r.present? field = some v → v.numeric?.isSome = true) ∧
      ∀ r', r.coerceNumber field message = .ok r' → r.Coerces field r' := by
  cases hv : r.present? field with
  | none =>
      rw [coerceNumber_of_absent hv]
      refine ⟨iff_of_true ⟨r, rfl⟩ nofun, ?_⟩
      rintro r' ⟨⟩
      exact coerces_self hv
  | some v =>
      cases hx : v.numeric? with
      | none =>
          have hrefused : r.coerceNumber field message =
              .error (.invalid field message) := by
            rw [coerceNumber, hv]
            dsimp only
            rw [hx]
          rw [hrefused]
          refine ⟨iff_of_false nofun fun h => ?_, nofun⟩
          have hread := h v rfl
          rw [hx] at hread
          cases hread
      | some x =>
          rw [coerceNumber_of_present hv hx]
          refine ⟨iff_of_true ⟨_, rfl⟩ ?_, ?_⟩
          · rintro w ⟨⟩
            rw [hx]
            rfl
          · rintro r' ⟨⟩
            exact coerces_insert hv hx

/-- Twelve pieces, as a text: they are stored as a number, and again if they are
read again. -/
theorem twelvePieces_coerced :
    let r : Record := [("note", .string "new"), ("quantity", .string " 12 ")]
    let r' : Record := [("note", .string "new"), ("quantity", .ofFloat 12)]
    r.coerceNumber "quantity" "Quantity must be a number" = .ok r' ∧
      (∃ n, r'.get? "quantity" = some (.number n) ∧ n.toFloat = 12) ∧
      r'.coerceNumber "quantity" "Quantity must be a number" = .ok r' := by
  intro r r'
  have hread : Json.numeric? (.string " 12 ") = some 12 := by decide
  have hcoerced :
      r.coerceNumber "quantity" "Quantity must be a number" = .ok r' :=
    coerceNumber_of_present (v := .string " 12 ") rfl hread _
  have hcoerces := (coerceNumber_coerces r "quantity"
      "Quantity must be a number").2 r' hcoerced
  exact ⟨hcoerced, (hcoerces.number_iff _ 12 rfl hread).mpr (by decide),
    hcoerces.again _⟩

/-- **A quantity can be lost.** A debt beyond any number of pieces is accepted,
is stored as null, and then no longer counts as negative. -/
theorem endlessDebt_lost :
    let r : Record := [("quantity", .string "-inf")]
    let r' : Record := [("quantity", .null)]
    r.coerceNumber "quantity" "Quantity must be a number" = .ok r' ∧
      (∃ x, r.numeric? "quantity" = some x ∧ x < 0) ∧
        r'.numeric? "quantity" = none ∧
      r'.atLeast "quantity" 0 "Stock cannot be negative" = .ok () := by
  intro r r'
  have hread : (r.numeric? "quantity").any
      (fun x => decide (x < 0) && !x.isFinite) = true := by decide
  obtain ⟨x, hx, hboth⟩ := (Option.any_eq_true _ _).mp hread
  simp only [Bool.and_eq_true, decide_eq_true_eq, Bool.not_eq_true'] at hboth
  have hlost : Json.ofFloat x = .null :=
    (Json.ofFloat_eq_null_iff x).mpr hboth.2
  have hpresent : r.present? "quantity" = some (.string "-inf") := rfl
  have hcoerced :=
    coerceNumber_of_present hpresent hx "Quantity must be a number"
  rw [hlost] at hcoerced
  exact ⟨hcoerced, ⟨x, hx, hboth.1⟩, rfl, rfl⟩

end Record

end ServiceLoom
