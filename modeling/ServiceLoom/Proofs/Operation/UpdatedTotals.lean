import ServiceLoom.Operation.Invoices
import ServiceLoom.Proofs.Operation.Quantities
import ServiceLoom.Proofs.Record.Order
import ServiceLoom.Proofs.Decimal.Finite

/-!
# Totals in updates

A creation computes totals from the whole record.  An update has the patch at
hand, and what the patch leaves out is in the stored row; so its totals should
be those of the row that is stored in the end.

* A line total is that of the merged row unless the update leaves null in an
  input which the stored row has: of such an input the update still takes the
  stored value, where a creation takes zero (`Record.lineTotal_update_iff`).
* The subtotal of an invoice is that of the merged row unless the patch gives
  another total and no subtotal, which sets the subtotal to zero, or a text for
  a number that is not finite (`Record.subtotal_update_iff`).
-/

namespace ServiceLoom

namespace Record

variable {existing patch row : Record}
    {quantity unitPrice target message field : String}

/-! ## Line totals -/

/-- The line total that a creation gives a row, or why it is refused. -/
def createdTotal (row : Record) (quantity unitPrice target message : String) :
    Except ServiceError (Option Json) :=
  (row.lineTotal none quantity unitPrice target message).map fun r =>
    r.get? target

/-- The line total of a row after an update, or why the update is refused. -/
def updatedTotal (existing patch : Record)
    (quantity unitPrice target message : String) :
    Except ServiceError (Option Json) :=
  (patch.lineTotal (some existing) quantity unitPrice target message).map fun r =>
    (Dict.merge existing r).get? target

/-- The product of two amounts, rounded to cents, as it is stored. -/
def product (q p : Float) : Json := .ofFloat (Decimal.roundCents (q * p))

/-- The line total from two factors, refused if one of them is missing. -/
def totalOf (quantity message : String) : Option Float →
    Option Float → Except ServiceError (Option Json)
  | some q, some p => .ok (some (product q p))
  | _, _ => .error (.invalid quantity message)

theorem totalOf_eq_ok_iff {q p : Option Float} {v : Json} :
    totalOf quantity message q p = .ok (some v) ↔
      (q.isSome = true ∧ p.isSome = true) ∧
        product (q.getD 0) (p.getD 0) = v := by
  cases q <;> cases p <;> simp [totalOf]

theorem totalOf_eq_error_iff {q p : Option Float} :
    totalOf quantity message q p = .error (.invalid quantity message) ↔
    q = none ∨ p = none := by
  cases q <;> cases p <;> simp [totalOf]

theorem createdTotal_eq (row : Record)
    (quantity unitPrice target message : String) :
    row.createdTotal quantity unitPrice target message =
      totalOf quantity message (row.factor? none quantity)
        (row.factor? none unitPrice) := by
  unfold createdTotal lineTotal
  rw [if_neg (by simp)]
  cases row.factor? none quantity with
  | none => rfl
  | some q =>
      cases row.factor? none unitPrice with
      | none => rfl
      | some p => exact congrArg Except.ok (Dict.get?_insert_self _ _ _)

/-- An update computes the line total when the patch has one of the inputs. -/
theorem updatedTotal_eq (hpatch : patch.Ordered)
    (hinput : Dict.contains patch quantity = true ∨
      Dict.contains patch unitPrice = true) :
    updatedTotal existing patch quantity unitPrice target message =
      totalOf quantity message (patch.factor? (some existing) quantity)
        (patch.factor? (some existing) unitPrice) := by
  have hcomputes :
      ¬ ((some existing).isSome && !Dict.contains patch quantity &&
          !Dict.contains patch unitPrice) = true := by
    rcases hinput with h | h <;> simp [h]
  unfold updatedTotal lineTotal
  rw [if_neg hcomputes]
  cases patch.factor? (some existing) quantity with
  | none => rfl
  | some q =>
      cases patch.factor? (some existing) unitPrice with
      | none => rfl
      | some p =>
          refine congrArg Except.ok ?_
          show (Dict.merge existing (patch.insert target
              (.ofFloat (Decimal.roundCents (q * p))))).get? target = _
          rw [Dict.get?_merge (hpatch.insert _ _),
            Dict.get?_insert_self, Option.some_or]
          rfl

/-- The update leaves null in a field of which the stored row has an entry. -/
def Nulled (existing patch : Record) (field : String) : Prop :=
  (Dict.merge existing patch).get? field = some .null ∧
    (existing.get? field).isSome = true

/-- Of a field that is nulled the update takes the stored value, and a creation
takes zero. -/
theorem factor?_of_nulled (hpatch : patch.Ordered)
    (h : Nulled existing patch field) :
    patch.factor? (some existing) field = existing.numeric? field ∧
      factor? (Dict.merge existing patch) none field = some 0 := by
  obtain ⟨hnull, hstored⟩ := h
  obtain ⟨v, hv⟩ := Option.isSome_iff_exists.mp hstored
  have hmerged : present? (Dict.merge existing patch) field = none :=
    present?_eq_none_iff.mpr (by rw [hnull]; rfl)
  have hgiven : patch.present? field = none := by
    rw [Dict.get?_merge hpatch] at hnull
    rw [present?_eq_none_iff]
    cases hget : patch.get? field with
    | none => rfl
    | some w =>
        rw [hget, Option.some_or] at hnull
        rw [hnull]
        rfl
  constructor
  · simp [factor?, valueOr, numeric?, hgiven, hv]
  · simp [factor?, valueOr, hmerged]

/-- Of any other field both take what is in the merged row. -/
theorem factor?_of_not_nulled (hpatch : patch.Ordered)
    (h : ¬ Nulled existing patch field) :
    patch.factor? (some existing) field =
      factor? (Dict.merge existing patch) none field := by
  suffices hvalue : patch.valueOr (some existing) field =
      present? (Dict.merge existing patch) field by
    rw [factor?, factor?, hvalue]
    simp [valueOr]
  cases hcontains : Dict.contains patch field with
  | true =>
      have hmerged := Dict.get?_merge_of_contains hpatch existing hcontains
      have hpresent : present? (Dict.merge existing patch) field =
          patch.present? field := by
        rw [present?, hmerged, ← present?]
      rw [hpresent]
      cases hgiven : patch.present? field with
      | some v => simp [valueOr, hgiven]
      | none =>
          -- null is given, so nothing is stored
          have hnull :=
            eq_null_of_isAbsent hcontains (present?_eq_none_iff.mp hgiven)
          have hstored : existing.get? field = none := by
            rw [← Option.not_isSome_iff_eq_none]
            exact fun hsome => h ⟨hmerged.trans hnull, hsome⟩
          simp [valueOr, hgiven, hstored]
  | false =>
      have hmerged := Dict.get?_merge_of_not_contains hpatch existing hcontains
      have hvalue : patch.valueOr (some existing) field =
          existing.get? field := by
        simp [valueOr, present?, Dict.get?_eq_none_of_not_contains hcontains]
      rw [hvalue]
      cases hstored : existing.get? field with
      | none =>
          exact (present?_eq_none_iff.mpr (by rw [hmerged, hstored]; rfl)).symm
      | some v =>
          -- what is stored is not null
          have hkept := hmerged.trans hstored
          refine (present?_eq_some hkept ?_).symm
          rw [← Bool.not_eq_true]
          exact fun hnull => h ⟨hkept.trans (eq_null_of_isAbsent rfl hnull),
            by rw [hstored]; rfl⟩

/-- What a creation cannot read, an update cannot read. -/
theorem factor?_eq_none (hpatch : patch.Ordered)
    (h : factor? (Dict.merge existing patch) none field = none) :
    patch.factor? (some existing) field = none := by
  by_cases hnulled : Nulled existing patch field
  · rw [(factor?_of_nulled hpatch hnulled).2] at h
    cases h
  · rw [factor?_of_not_nulled hpatch hnulled, h]

/-- What a creation can read, an update can read unless it is nulled and the
stored value is no number. -/
theorem factor?_isSome_iff (hpatch : patch.Ordered) {x : Float}
    (h : factor? (Dict.merge existing patch) none field = some x) :
    (patch.factor? (some existing) field).isSome = true ↔
      (Nulled existing patch field →
        (existing.numeric? field).isSome = true) := by
  by_cases hnulled : Nulled existing patch field
  · rw [(factor?_of_nulled hpatch hnulled).1]
    exact ⟨fun hsome _ => hsome, fun hsome => hsome hnulled⟩
  · rw [factor?_of_not_nulled hpatch hnulled, h]
    exact ⟨fun _ h => absurd h hnulled, fun _ => rfl⟩

/-- A factor is the number of the value that is taken, unless it is refused. -/
theorem getD_factor? (r : Record) (stored : Option Record) (field : String) :
    (r.factor? stored field).getD 0 = quantityOf (r.valueOr stored field) := by
  unfold factor?
  cases r.valueOr stored field <;> rfl

/-- A creation takes the amounts of the record. -/
theorem quantityOf_valueOr_none (row : Record) (field : String) :
    quantityOf (row.valueOr none field) = row.amount field := by
  have hvalue : row.valueOr none field = row.present? field := by simp [valueOr]
  rw [hvalue, amount_eq]
  cases hpresent : row.present? field with
  | none =>
      exact (quantityOf_of_isAbsent (present?_eq_none_iff.mp hpresent)).symm
  | some v => rw [(Option.filter_eq_some_iff.mp hpresent).1]

/-- **The line total of an update.** If the update nulls neither input, it gives
the merged row the line total that a creation of that row would give, and is
refused when the creation is.  In general the two agree exactly when the
creation is refused, or each nulled input still has a number in the stored row
and the product with that number is the one with zero in its place. -/
theorem lineTotal_update_iff (hpatch : patch.Ordered)
    (hinput : Dict.contains patch quantity = true ∨
      Dict.contains patch unitPrice = true) :
    let merged : Record := Dict.merge existing patch
    let taken (field : String) : Float :=
      quantityOf (patch.valueOr (some existing) field)
    ((∀ field ∈ [quantity, unitPrice], ¬ Nulled existing patch field) →
      updatedTotal existing patch quantity unitPrice target message =
        createdTotal merged quantity unitPrice target message) ∧
    (updatedTotal existing patch quantity unitPrice target message =
        createdTotal merged quantity unitPrice target message ↔
      createdTotal merged quantity unitPrice target message =
        .error (.invalid quantity message) ∨
      (∀ field ∈ [quantity, unitPrice], Nulled existing patch field →
        (existing.numeric? field).isSome = true) ∧
        product (taken quantity) (taken unitPrice) =
          product (merged.amount quantity) (merged.amount unitPrice)) := by
  intro merged taken
  rw [updatedTotal_eq hpatch hinput, createdTotal_eq]
  constructor
  · intro hkept
    rw [factor?_of_not_nulled hpatch (hkept quantity (by simp)),
      factor?_of_not_nulled hpatch (hkept unitPrice (by simp))]
  by_cases hmissing : merged.factor? none quantity = none ∨
    merged.factor? none unitPrice = none
  · -- the creation is refused, and so is the update
    rw [totalOf_eq_error_iff.mpr hmissing, totalOf_eq_error_iff]
    exact iff_of_true (hmissing.imp (factor?_eq_none hpatch)
      (factor?_eq_none hpatch)) (.inl rfl)
  obtain ⟨hquantity, hprice⟩ := not_or.mp hmissing
  obtain ⟨q, hq⟩ := Option.ne_none_iff_exists'.mp hquantity
  obtain ⟨p, hp⟩ := Option.ne_none_iff_exists'.mp hprice
  have hcreated : totalOf quantity message (merged.factor? none quantity)
      (merged.factor? none unitPrice) =
      .ok (some
        (product (merged.amount quantity) (merged.amount unitPrice))) := by
    rw [totalOf_eq_ok_iff, getD_factor?, getD_factor?,
      quantityOf_valueOr_none, quantityOf_valueOr_none, hq, hp]
    exact ⟨⟨rfl, rfl⟩, rfl⟩
  rw [hcreated, totalOf_eq_ok_iff, getD_factor?, getD_factor?,
    factor?_isSome_iff hpatch hq, factor?_isSome_iff hpatch hp]
  simp [taken]

/-- Three pieces at two and a half each. -/
def threePieces : Record :=
  [("quantity", .ofFloat 3), ("unit_price", .ofFloat 2.5)]

/-- Four pieces instead of three cost ten. -/
theorem threePieces_fourth :
    let patch : Record := [("quantity", .ofFloat 4)]
    patch.Ordered ∧ Dict.contains patch "quantity" = true ∧
      (∀ field ∈ ["quantity", "unit_price"], ¬ Nulled threePieces patch field) ∧
      updatedTotal threePieces patch "quantity" "unit_price" "line_total" "bad" =
        createdTotal (Dict.merge threePieces patch)
          "quantity" "unit_price" "line_total" "bad" ∧
      updatedTotal threePieces patch "quantity" "unit_price"
          "line_total" "bad" = .ok (some (.ofFloat 10)) := by
  intro patch
  have hordered : patch.Ordered := List.pairwise_singleton _ _
  have hinput : Dict.contains patch "quantity" = true := by decide
  have hkept : ∀ field ∈ ["quantity",
      "unit_price"], ¬ Nulled threePieces patch field := by
    intro field hfield hnulled
    simp only [List.mem_cons, List.not_mem_nil, or_false] at hfield
    rcases hfield with rfl | rfl <;> cases hnulled.1
  exact ⟨hordered, hinput, hkept,
    (lineTotal_update_iff hordered (.inl hinput)).1 hkept, rfl⟩

/-- **A quantity that is taken back.** With null for the quantity the merged row
has none, and a creation makes its line total zero; the update keeps the total
of three pieces.  Where null is stored already, a new price is refused. -/
theorem threePieces_takenBack :
    updatedTotal threePieces [("quantity", .null)]
        "quantity" "unit_price" "line_total" "bad" =
        .ok (some (.ofFloat 7.5)) ∧
      createdTotal (Dict.merge threePieces [("quantity", .null)])
        "quantity" "unit_price" "line_total" "bad" =
        .ok (some (.ofFloat 0)) ∧
      (Json.ofFloat 7.5).plainText ≠ (Json.ofFloat 0).plainText ∧
      updatedTotal (threePieces.insert "quantity" .null)
          [("unit_price", .ofFloat 4)] "quantity" "unit_price"
          "line_total" "bad" = .error (.invalid "quantity" "bad") ∧
      createdTotal (Dict.merge (threePieces.insert "quantity" .null)
          [("unit_price", .ofFloat 4)]) "quantity"
          "unit_price" "line_total" "bad" = .ok (some (.ofFloat 0)) := by
  have hkept : updatedTotal threePieces [("quantity", .null)]
      "quantity" "unit_price" "line_total" "bad" =
      .ok (some (product 3 2.5)) := rfl
  have htotal : product 3 2.5 = .ofFloat 7.5 :=
    congrArg Json.ofFloat (by decide +kernel)
  exact ⟨hkept.trans (by rw [htotal]), rfl, by decide +kernel, rfl, rfl⟩

/-! ## Totals of invoices -/

/-- The patch gives one of the totals. -/
def TouchesTotals (patch : Record) : Prop :=
  ∃ field ∈ totalFields, Dict.contains patch field = true

/-- The record has a number in a field, equal to a given one. -/
def HasAmount (row : Record) (field : String) (x : Float) : Prop :=
  ∃ y, row.numeric? field = some y ∧ (y == x) = true

/-- The totals are computed from the subtotal of the record, which is stored as
a float. -/
theorem get?_invoiceTotals (row : Record) (taxRate : Float) :
    (row.invoiceTotals taxRate).get? "subtotal" =
      some (.ofFloat (row.amount "subtotal")) := by
  unfold invoiceTotals
  rw [Dict.get?_insert_of_ne _ _ (by decide),
    Dict.get?_insert_of_ne _ _ (by decide), Dict.get?_insert_self]

theorem ordered_invoiceTotals (hpatch : patch.Ordered) (taxRate : Float) :
    (patch.invoiceTotals taxRate).Ordered :=
  ((hpatch.insert _ _).insert _ _).insert _ _

/-- **The stored subtotal after an update.** A patch with one of the totals
replaces it by the number that the patch itself has in the field, zero if there
is none. -/
theorem get?_merge_invoiceTotals (hpatch : patch.Ordered)
    (htouches : patch.TouchesTotals) (row : Record) (taxRate : Float) :
    (Dict.merge row (patch.invoiceTotalsIfTouched taxRate)).get? "subtotal" =
      some (.ofFloat (patch.amount "subtotal")) := by
  unfold invoiceTotalsIfTouched
  rw [if_pos (List.any_eq_true.mpr htouches),
    Dict.get?_merge (ordered_invoiceTotals hpatch taxRate), get?_invoiceTotals,
    Option.some_or]

/-- A patch without a total is stored as it is. -/
theorem invoiceTotalsIfTouched_eq_self (h : ¬ patch.TouchesTotals)
    (taxRate : Float) : patch.invoiceTotalsIfTouched taxRate = patch :=
  if_neg fun htouches => h (List.any_eq_true.mp htouches)

theorem touchesTotals_of_contains (h : Dict.contains patch "subtotal" = true) :
    patch.TouchesTotals :=
  ⟨"subtotal", List.mem_cons_self, h⟩

theorem hasAmount_iff_of_get? {x y : Float}
    (h : row.get? field = some (.ofFloat x)) :
    row.HasAmount field y ↔ x.isFinite = true ∧ (x == y) = true := by
  unfold HasAmount numeric?
  rw [h, Option.bind_some]
  rcases Json.ofFloat_cases x with ⟨hfinite, hnumber⟩ | ⟨hinfinite, hnull⟩
  · rw [hnumber]
    simp [Json.numeric?, Number.toFloat, hfinite]
  · rw [hnull, hinfinite]
    simp [Json.numeric?]

theorem amount_of_not_contains (h : Dict.contains patch field = false) :
    patch.amount field = 0 := by
  rw [amount_eq, Dict.get?_eq_none_of_not_contains h]
  rfl

/-- The row has the subtotal of the merged row when nothing is computed, or it
is computed from the right number. -/
theorem hasAmount_subtotal_iff (hpatch : patch.Ordered) {n : Number}
    (hrow : row.get? "subtotal" = some (.number n)) (taxRate : Float) :
    HasAmount (Dict.merge row (patch.invoiceTotalsIfTouched taxRate)) "subtotal"
        (amount (Dict.merge row patch) "subtotal") ↔
      (patch.TouchesTotals →
        if Dict.contains patch "subtotal" then
          (amount (Dict.merge row patch) "subtotal").isFinite = true
        else ((0 : Float) == n.toFloat) = true) := by
  have hstored : Dict.contains patch "subtotal" = false →
      (Dict.merge row patch).get? "subtotal" = some (.number n) :=
    fun hmissing =>
      (Dict.get?_merge_of_not_contains hpatch row hmissing).trans hrow
  by_cases htouches : patch.TouchesTotals
  · have hafter := get?_merge_invoiceTotals hpatch htouches row taxRate
    rw [hasAmount_iff_of_get? hafter]
    simp only [htouches, forall_const]
    cases hcontains : Dict.contains patch "subtotal" with
    | true =>
        -- the patch has a subtotal, and it is the one of the merged row
        have hsame : amount (Dict.merge row patch) "subtotal" =
            patch.amount "subtotal" := by
          rw [amount_eq,
            Dict.get?_merge_of_contains hpatch row hcontains, amount_eq]
        rw [hsame, if_pos rfl]
        exact ⟨And.left, fun hfinite =>
          ⟨hfinite, Decimal.beq_self (isNaN_of_isFinite hfinite)⟩⟩
    | false =>
        -- the stored subtotal is replaced by zero
        have hamount :
            amount (Dict.merge row patch) "subtotal" = n.toFloat := by
          rw [amount_eq, hstored hcontains]
          rfl
        rw [amount_of_not_contains hcontains, hamount,
          if_neg Bool.false_ne_true]
        exact ⟨And.right, fun hzero => ⟨by decide, hzero⟩⟩
  · -- nothing is computed
    have hmissing : Dict.contains patch "subtotal" = false := by
      rw [← Bool.not_eq_true]
      exact fun hcontains => htouches (touchesTotals_of_contains hcontains)
    rw [invoiceTotalsIfTouched_eq_self htouches]
    refine iff_of_true ⟨n.toFloat, ?_, ?_⟩ fun h => absurd h htouches
    · rw [numeric?, hstored hmissing]
      rfl
    · rw [amount_eq, hstored hmissing]
      exact Decimal.beq_self (isNaN_of_isFinite n.isFinite_toFloat)

/-- A patch without a subtotal leaves the stored one when nothing is computed,
or zero is stored. -/
theorem get?_subtotal_eq_iff (hpatch : patch.Ordered) (row : Record)
    (taxRate : Float) (hmissing : Dict.contains patch "subtotal" = false) :
    (Dict.merge row (patch.invoiceTotalsIfTouched taxRate)).get? "subtotal" =
      row.get? "subtotal" ↔
      (patch.TouchesTotals → row.get? "subtotal" = some (.ofFloat 0)) := by
  by_cases htouches : patch.TouchesTotals
  · rw [get?_merge_invoiceTotals hpatch htouches,
      amount_of_not_contains hmissing]
    exact ⟨fun h _ => h.symm, fun h => (h htouches).symm⟩
  · rw [invoiceTotalsIfTouched_eq_self htouches,
      Dict.get?_merge_of_not_contains hpatch row hmissing]
    exact iff_of_true rfl fun h => absurd h htouches

/-- **The subtotal after an update of an invoice.** The row has the subtotal of
the merged row exactly when the patch gives none of the totals, or gives a
subtotal that is finite, or gives no subtotal and the stored one is zero.  A
patch without a subtotal leaves the stored one as it is exactly when it gives
none of the totals, or zero is stored. -/
theorem subtotal_update_iff (hpatch : patch.Ordered) {n : Number}
    (hrow : row.get? "subtotal" = some (.number n)) (taxRate : Float) :
    let merged : Record := Dict.merge row patch
    let after : Record := Dict.merge row (patch.invoiceTotalsIfTouched taxRate)
    (after.HasAmount "subtotal" (merged.amount "subtotal") ↔
      (patch.TouchesTotals →
        if Dict.contains patch "subtotal" then
          (merged.amount "subtotal").isFinite = true
        else ((0 : Float) == n.toFloat) = true)) ∧
    (Dict.contains patch "subtotal" = false →
      (after.get? "subtotal" = row.get? "subtotal" ↔
        (patch.TouchesTotals → row.get? "subtotal" = some (.ofFloat 0)))) :=
  ⟨hasAmount_subtotal_iff hpatch hrow taxRate,
    get?_subtotal_eq_iff hpatch row taxRate⟩

/-- An invoice over a hundred. -/
def hundred : Record := [("subtotal", .number (.float 100 (by decide)))]

/-- A new subtotal is the one that is stored. -/
theorem hundred_replaced :
    Dict.Ordered [("subtotal", Json.ofFloat 250)] ∧
      hundred.get? "subtotal" = some (.number (.float 100 (by decide))) ∧
      HasAmount (Dict.merge hundred
        (invoiceTotalsIfTouched [("subtotal", .ofFloat 250)] 18)) "subtotal"
        (amount (Dict.merge hundred [("subtotal", .ofFloat 250)]) "subtotal") ∧
      amount (Dict.merge hundred [("subtotal", .ofFloat 250)])
        "subtotal" = 250 := by
  have hordered : Dict.Ordered [("subtotal", Json.ofFloat 250)] :=
    List.pairwise_singleton _ _
  have hrow : hundred.get? "subtotal" =
      some (.number (.float 100 (by decide))) := rfl
  have hamount : amount (Dict.merge hundred [("subtotal", .ofFloat 250)])
      "subtotal" = 250 := by decide +kernel
  have hcontains :
      Dict.contains [("subtotal", Json.ofFloat 250)] "subtotal" = true := rfl
  refine ⟨hordered, hrow,
    (subtotal_update_iff hordered hrow 18).1.mpr fun _ => ?_, hamount⟩
  rw [if_pos hcontains, hamount]
  decide

/-- **A tax total without a subtotal** sets the subtotal of the stored invoice
to zero. -/
theorem hundred_lost :
    (Dict.merge hundred (invoiceTotalsIfTouched
      [("tax_total", .ofFloat 5)] 18)).get? "subtotal" = some (.ofFloat 0) ∧
      amount (Dict.merge hundred [("tax_total", .ofFloat 5)]) "subtotal" = 100 ∧
      ¬ HasAmount (Dict.merge hundred
        (invoiceTotalsIfTouched [("tax_total", .ofFloat 5)] 18)) "subtotal"
        (amount (Dict.merge hundred [("tax_total", .ofFloat 5)]) "subtotal") := by
  have hzero : (Dict.merge hundred
      (invoiceTotalsIfTouched [("tax_total", .ofFloat 5)] 18)).get? "subtotal" =
      some (.ofFloat 0) := get?_merge_invoiceTotals
        (List.pairwise_singleton _ _) ⟨"tax_total", by decide, rfl⟩ _ _
  have hamount : amount (Dict.merge hundred [("tax_total", .ofFloat 5)])
      "subtotal" = 100 := by decide +kernel
  refine ⟨hzero, hamount, ?_⟩
  rw [hasAmount_iff_of_get? hzero, hamount]
  decide

end Record

end ServiceLoom
