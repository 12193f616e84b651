import ServiceLoom.Operation.Dates
import ServiceLoom.Operation.Fields
import ServiceLoom.Operation.Stock
import ServiceLoom.Proofs.Decimal.Comparison
import ServiceLoom.Proofs.Store.Rows
import ServiceLoom.Proofs.Store.Runs
import ServiceLoom.Proofs.Text.Blank

/-!
# Quantities

A quantity is the number that a value denotes, and zero where there is none.
What the operations on a field can do to it: a default fills in a number where
none was, reading it as a number keeps it and makes it comparable with zero, a
date denotes no number at all, and an adjustment stores what is not below zero.

Amounts are floats, and not every float can be compared: what is not below zero
need not be above it.  Stored numbers are finite, and for these it is so
(`zero_le_of_not_lt`).
-/

namespace ServiceLoom

/-! ## Numerals -/

namespace Decimal

/-- A sign is no colon. -/
theorem colon_mem_splitSign {cs : List Char} (h : ':' ∈ cs) :
    ':' ∈ (splitSign cs).2 := by
  unfold splitSign
  split
  · simpa using h
  · simpa using h
  · exact h

/-- Digits are no colons. -/
theorem colon_mem_dropWhile {cs : List Char} (h : ':' ∈ cs) :
    ':' ∈ cs.dropWhile Char.isDigit :=
  Text.mem_dropWhile_of_not h (by decide)

/-- An exponent has no colon. -/
theorem readExponent?_eq_none {cs : List Char} (h : ':' ∈ cs) :
    readExponent? cs = none := by
  unfold readExponent?
  cases cs with
  | nil => cases h
  | cons c rest =>
      dsimp only
      split
      next hletter =>
        have hrest : ':' ∈ rest := by
          rcases List.mem_cons.mp h with rfl | h
          · rcases hletter with hletter | hletter <;> cases hletter
          · exact h
        have hdigits : (splitSign rest).2.all Char.isDigit = false :=
          List.all_eq_false.mpr ⟨':', colon_mem_splitSign hrest, by decide⟩
        rw [if_neg]
        rintro ⟨-, hall⟩
        rw [hdigits] at hall
        cases hall
      · rfl

/-- **A numeral has no colon.** -/
theorem read?_eq_none {text : String} (h : ':' ∈ text.toList) :
    read? text = none := by
  have hmagnitude : ∀ cs : List Char, ':' ∈ cs → readMagnitude? cs = none := by
    intro cs hcs
    have hword : ∀ word : String, ':' ∉ word.toList →
        String.ofList (cs.map Char.toLower) ≠ word := by
      rintro word hword rfl
      refine hword ?_
      rw [String.toList_ofList]
      exact List.mem_map.mpr ⟨':', hcs, rfl⟩
    have hrest : ':' ∈ (splitFraction (cs.dropWhile Char.isDigit)).2 := by
      have hdrop := colon_mem_dropWhile hcs
      unfold splitFraction
      split
      next heq =>
        rw [heq] at hdrop
        exact colon_mem_dropWhile (by simpa using hdrop)
      · exact hdrop
    unfold readMagnitude?
    rw [if_neg (not_or.mpr ⟨hword _ (by decide), hword _ (by decide)⟩),
      if_neg (hword _ (by decide))]
    dsimp only
    split
    · rfl
    · rw [readExponent?_eq_none hrest]
      rfl
  show (readMagnitude? (splitSign text.toList).2).map _ = none
  rw [hmagnitude _ (colon_mem_splitSign h)]
  rfl

end Decimal

/-- **A date is no number.** -/
theorem Calendar.Instant.numeric?_text (t : Calendar.Instant) :
    (Json.string t.text).numeric? = none := by
  have hclock : ':' ∈ t.clockText := by simp [clockText]
  have hcolon : ':' ∈ t.text.toList := by
    rw [text, String.toList_ofList]
    exact List.mem_append_left _
      (List.mem_append_left _ (List.mem_append_right _ hclock))
  show Decimal.read? (Text.trim t.text) = none
  exact Decimal.read?_eq_none (Text.mem_trim hcolon (by decide))

/-! ## The quantity in a field -/

/-- The number that a value denotes, or zero. -/
def quantityOf (v : Option Json) : Float := (v.bind Json.numeric?).getD 0

/-- What is missing or null denotes no number. -/
theorem quantityOf_of_isAbsent {v : Option Json} (h : isAbsent v = true) :
    quantityOf v = 0 := by
  cases v with
  | none => rfl
  | some v =>
      rw [eq_null_of_isAbsent rfl h]
      rfl

theorem Record.amount_eq (r : Record) (field : String) :
    r.amount field = quantityOf (r.get? field) := rfl

/-- A stored float is comparable with zero: it is finite, or nothing is
stored. -/
theorem quantityOf_ofFloat (x : Float) :
    quantityOf (some (.ofFloat x)) = 0 ∨ quantityOf (some (.ofFloat x)) = x ∧
      x.isFinite = true := by
  rcases Json.ofFloat_cases x with ⟨hx, hnumber⟩ | ⟨-, hnull⟩
  · rw [hnumber]
    exact Or.inr ⟨rfl, hx⟩
  · rw [hnull]
    exact Or.inl rfl

/-- Storing what is not below zero. -/
theorem zero_le_quantityOf_ofFloat {x : Float} (h : ¬ x < 0) :
    0 ≤ quantityOf (some (.ofFloat x)) := by
  rcases quantityOf_ofFloat x with hzero | ⟨hsame, hfinite⟩
  · rw [hzero]
    exact zero_le_zero
  · rw [hsame]
    exact zero_le_of_not_lt hfinite h

/-- A quantity is what it was, unless it has become one that is not negative. -/
def NoDeficit (old new : Float) : Prop := new = old ∨ 0 ≤ new

theorem NoDeficit.refl (x : Float) : NoDeficit x x := Or.inl rfl

theorem NoDeficit.trans {x y z : Float} (h : NoDeficit x y)
    (h' : NoDeficit y z) : NoDeficit x z := by
  rcases h' with rfl | hge
  · exact h
  · exact Or.inr hge

/-- What was not negative is not negative. -/
theorem NoDeficit.zero_le {x y : Float} (h : NoDeficit x y)
    (hx : 0 ≤ x) : 0 ≤ y := by
  rcases h with rfl | hge
  · exact hx
  · exact hge

namespace Record

variable {r r' : Record} {field message : String}

theorem amount_insert (r : Record) (field : String) (v : Json) :
    amount (r.insert field v) field = quantityOf (some v) := by
  rw [amount_eq, Dict.get?_insert_self]

/-- A value that is not negative is no deficit. -/
theorem noDeficit_insert (r : Record) (field : String) {v : Json}
    (hv : 0 ≤ quantityOf (some v)) :
    NoDeficit (r.amount field) (amount (r.insert field v) field) :=
  Or.inr (amount_insert r field v ▸ hv)

theorem noDeficit_setDefault (r : Record) (field : String) {v : Json}
    (hv : 0 ≤ quantityOf (some v)) :
    NoDeficit (r.amount field) ((r.setDefault field v).amount field) := by
  unfold setDefault
  split
  · exact NoDeficit.refl _
  · exact noDeficit_insert r field hv

/-- A date denotes no number. -/
theorem noDeficit_normalizeDate (r : Record) (field : String) :
    NoDeficit (r.amount field) ((r.normalizeDate field).amount field) := by
  unfold normalizeDate
  split
  · exact NoDeficit.refl _
  next t _ =>
    refine noDeficit_insert r field ?_
    rw [quantityOf, Option.bind_some, t.numeric?_text]
    exact zero_le_zero

/-- **Reading a quantity as a number** keeps it, and afterwards it is comparable
with zero. -/
theorem amount_coerceNumber (h : r.coerceNumber field message = .ok r') :
    NoDeficit (r.amount field) (r'.amount field) ∧
    (r'.amount field < 0 ∨ 0 ≤ r'.amount field) := by
  unfold coerceNumber at h
  split at h
  next hnone =>
    cases h
    have hzero : r.amount field = 0 :=
      quantityOf_of_isAbsent (present?_eq_none_iff.mp hnone)
    rw [hzero]
    exact ⟨Or.inl rfl, Or.inr zero_le_zero⟩
  next v hsome =>
    obtain ⟨hget, -⟩ := Option.filter_eq_some_iff.mp hsome
    split at h
    · cases h
    next x hx =>
      cases h
      have hbefore : r.amount field = x := by
        rw [amount_eq, hget, quantityOf, Option.bind_some, hx]
        rfl
      rw [amount_insert, hbefore]
      rcases quantityOf_ofFloat x with hzero | ⟨hsame, hfinite⟩
      · rw [hzero]
        exact ⟨Or.inr zero_le_zero, Or.inr zero_le_zero⟩
      · rw [hsame]
        refine ⟨Or.inl rfl, ?_⟩
        by_cases hneg : x < 0
        · exact Or.inl hneg
        · exact Or.inr (zero_le_of_not_lt hfinite hneg)

/-- What passes a bound of zero is not below it. -/
theorem not_amount_lt_of_atLeast (h : r.atLeast field 0 message = .ok ()) :
    ¬ r.amount field < 0 := by
  unfold atLeast at h
  rw [amount]
  split at h
  next x hx =>
    rw [hx]
    split at h
    · cases h
    next hge => exact hge
  next hnone =>
    rw [hnone]
    exact Decimal.not_lt_of_le zero_le_zero

end Record

/-! ## Adjusting stock -/

/-- A row after a change of the first one of a kind. -/
theorem Store.mem_modifyFirst {p : Record → Bool} {new row : Record}
    {rows : List Record} (h : row ∈ modifyFirst p (fun _ => new) rows) :
    row = new ∨ row ∈ rows := by
  induction rows with
  | nil => cases h
  | cons first rest ih =>
      rw [modifyFirst] at h
      split at h
      · exact (List.mem_cons.mp h).imp_right (List.mem_cons_of_mem _)
      · rcases List.mem_cons.mp h with rfl | h
        · exact Or.inr List.mem_cons_self
        · exact (ih h).imp_right (List.mem_cons_of_mem _)

/-- A patch of one field sets its quantity. -/
theorem Record.amount_patched_single {field : String} (row : Record)
    (v now : Json) (hfield : field ∉ systemFields) :
    (row.patched [(field, v)] now).amount field = quantityOf (some v) := by
  rw [amount_eq, get?_patched hfield]
  exact amount_insert row field v

/-- A patch of one field leaves the others, but for the time of change. -/
theorem Record.get?_patched_single {field name : String} (row : Record)
    (v now : Json) (hfield : name ≠ field) (hupdated : name ≠ "updated_at") :
    (row.patched [(field, v)] now).get? name = row.get? name := by
  rw [patched, Dict.get?_insert_of_ne _ _ hupdated]
  refine Dict.get?_merge_of_forall_ne fun e he => ?_
  rw [List.mem_singleton.mp (List.mem_of_mem_filter he)]
  exact hfield.symm

/-- **An adjustment** looks for the row, and patches it unless its amount would
fall below zero. -/
theorem run_adjustStock (host : Host) (s : Store) (slug id field : String)
    (delta : Float) :
    (adjustStock slug id field delta).run host Outage.none s =
      match s.find? slug id with
      | none => (.error (.refused (missingRow slug id)), s)
      | some item =>
        if item.amount field + delta < 0 then
          (.error
            (.refused (insufficientStock field (item.amount field) delta)), s)
        else (.ok (item.patched
          [(field, .ofFloat (item.amount field + delta))] host.stamp),
          (s.update host slug id
              [(field, .ofFloat (item.amount field + delta))]).2) := by
  rw [adjustStock, Access.run_bind_ok _ _ _ (Access.run_row? _ _ _ rfl)]
  cases hfind : s.find? slug id with
  | none => rfl
  | some item =>
      dsimp only
      split
      · rfl
      · rw [Access.run_bind_ok _ _ _ (Access.run_patch _ _ _ rfl),
          Store.update, hfind]
        rfl

/-- The store after an adjustment: as it was, or with the row patched. -/
theorem store_adjustStock (host : Host) (s : Store) (slug id field : String)
    (delta : Float) :
    ((adjustStock slug id field delta).run host Outage.none s).2 =
      match s.find? slug id with
      | none => s
      | some item => if item.amount field + delta < 0 then s
          else (s.update host slug id
              [(field, .ofFloat (item.amount field + delta))]).2 := by
  rw [run_adjustStock]
  cases s.find? slug id with
  | none => rfl
  | some item =>
      dsimp only
      split <;> rfl

/-- An adjustment is refused, or patches the row with what is not below zero. -/
theorem adjustStock_cases (host : Host) (s : Store) (slug id field : String)
    (delta : Float) :
    ((adjustStock slug id field delta).run host Outage.none s).2 = s ∨
      ∃ next : Float, ¬ next < 0 ∧
        ((adjustStock slug id field delta).run host Outage.none s).2 =
        (s.update host slug id [(field, .ofFloat next)]).2 := by
  rw [store_adjustStock]
  split
  · exact Or.inl rfl
  · split
    · exact Or.inl rfl
    next hge => exact Or.inr ⟨_, hge, rfl⟩

/-- **An adjustment** changes a quantity to what is not below zero, and no
other. -/
theorem amount_of_mem_adjustStock
    {host : Host} {s : Store} {slug id field : String}
    {delta : Float} (hfield : field ∉ Record.systemFields) {row : Record}
    (hrow : row ∈
      ((adjustStock slug id field delta).run host Outage.none s).2.rows slug) :
    row ∈ s.rows slug ∨ 0 ≤ row.amount field := by
  rcases adjustStock_cases host s slug id field delta with
      hsame | ⟨next, hge, hpatched⟩
  · exact Or.inl (hsame ▸ hrow)
  · rw [hpatched, Store.update] at hrow
    split at hrow
    · exact Or.inl hrow
    · rw [Store.rows_withRows_self] at hrow
      rcases Store.mem_modifyFirst hrow with rfl | hold
      · rw [Record.amount_patched_single _ _ _ hfield]
        exact Or.inr (zero_le_quantityOf_ofFloat hge)
      · exact Or.inl hold

end ServiceLoom
