import ServiceLoom.Pattern.Builtin
import ServiceLoom.Proofs.Decimal.Comparison
import ServiceLoom.Proofs.Rule.Constraints

/-!
# What an accepted value satisfies

A value that a rule accepts is blank, or a list, or it has the length, the shape
and the number that the rule asks for (`FieldRule.meets_of_accepted`); no more
is asked of its text and its number (`FieldRule.meets_iff`).  Lists are exempt,
whether or not the field holds lists.

The bounds of a number are checked by what it must not be, below the least or
above the greatest, and NaN is neither: the text `nan` denotes a number that
passes every bound.  So a number is within its bounds where it can be compared
with them.
-/

namespace ServiceLoom

/-- The first float is at most the second, if the two can be compared. -/
def AtMost (x y : Float) : Prop := x.isNaN = false → y.isNaN = false → x ≤ y

/-- So it is when the second is not below the first. -/
theorem atMost_iff {x y : Float} : AtMost x y ↔ ¬ y < x := by
  constructor
  · intro h hlt
    obtain ⟨hy, hx⟩ := isNaN_of_lt hlt
    exact Decimal.not_lt_of_le (h hx hy) hlt
  · exact fun h hx hy => Decimal.le_of_not_lt hy hx h

namespace FieldRule

/-- What a rule asks of a single value. -/
structure Meets [Pattern.Engine] (r : FieldRule) (v : Json) : Prop where
  minLength : ∀ n, r.minLength = some n → n ≤ v.plainText.length
  maxLength : ∀ n, r.maxLength = some n → v.plainText.length ≤ n
  pattern : ∀ p, r.pattern = some p → Pattern.accepts p v.plainText = true
  number : r.numeric = true → ∃ x, v.numeric? = some x ∧
    (r.kind = .integer → Decimal.isWhole x = true) ∧
    (∀ bound, r.min = some bound → AtMost bound x) ∧
    ∀ bound, r.max = some bound → AtMost x bound

variable {r : FieldRule} {src : Source} {slug : String} {mode : WriteMode}
    {value : Option Json}

/-- Where a rule reports nothing, no constraint that needs no rows is broken. -/
theorem isBroken_of_finding [Pattern.Engine]
    (h : r.finding src slug mode value = .ok none) {c : Constraint}
    (hc : c ∈ r.localConstraints) : c.isBroken r mode value [] = false := by
  have hmem : c ∈ r.constraints :=
    List.mem_append_right _ (List.mem_append_left _ hc)
  have hfinding := (r.finding_eq_none_iff src slug mode value).mp h c hmem
  rw [Constraint.finding,
    r.collection?_of_mem_localConstraints slug value hc] at hfinding
  simpa [Constraint.report?] using hfinding

/-- The constraints on texts, said of the text. -/
theorem forall_textConstraints_iff [Pattern.Engine] {v : Json}
    (hscalar : scalarValue? value = some v) :
    (∀ c ∈ r.textConstraints, c.isBroken r mode value [] = false) ↔
      (∀ n, r.minLength = some n → n ≤ v.plainText.length) ∧
        (∀ n, r.maxLength = some n → v.plainText.length ≤ n) ∧
        ∀ p, r.pattern = some p → Pattern.accepts p v.plainText = true := by
  simp only [textConstraints, List.forall_mem_append, Option.mem_toList,
    Option.map_eq_some_iff, forall_exists_index, and_imp,
    forall_apply_eq_imp_iff₂]
  simp [Constraint.isBroken, hscalar]

/-- The constraints on numbers, said of the number. -/
theorem forall_numberConstraints_iff [Pattern.Engine] {v : Json}
    (hscalar : scalarValue? value = some v) :
    (∀ c ∈ r.numberConstraints, c.isBroken r mode value [] = false) ↔
      (r.numeric = true → ∃ x, v.numeric? = some x ∧
        (r.kind = .integer → Decimal.isWhole x = true) ∧
        (∀ bound, r.min = some bound → AtMost bound x) ∧
        ∀ bound, r.max = some bound → AtMost x bound) := by
  cases hnumeric : r.numeric with
  | false => simp [numberConstraints, hnumeric]
  | true =>
      cases hnumber : v.numeric? with
      | none =>
          simp [numberConstraints, hnumeric, Constraint.isBroken,
            hscalar, hnumber]
      | some x =>
          have hvalue : numberValue? value = some x := by
            simp [numberValue?, hscalar, hnumber]
          simp only [numberConstraints, hnumeric, if_true, List.forall_mem_cons,
            List.forall_mem_append, Option.mem_toList, Option.map_eq_some_iff,
            forall_exists_index, and_imp, forall_apply_eq_imp_iff₂, atMost_iff]
          simp [Constraint.isBroken, hscalar, hvalue, hnumber]

/-- **A value that is neither blank nor a list meets a rule** exactly when it
breaks none of the constraints on its text and its number. -/
theorem meets_iff [Pattern.Engine] {v : Json}
    (hscalar : scalarValue? value = some v) :
    r.Meets v ↔ ∀ c ∈ r.textConstraints ++ r.numberConstraints,
      c.isBroken r mode value [] = false := by
  rw [List.forall_mem_append, forall_textConstraints_iff hscalar,
    forall_numberConstraints_iff hscalar]
  constructor
  · intro h
    exact ⟨⟨h.minLength, h.maxLength, h.pattern⟩, h.number⟩
  · rintro ⟨⟨hmin, hmax, hpattern⟩, hnumber⟩
    exact ⟨hmin, hmax, hpattern, hnumber⟩

/-- **An accepted value is blank, or a list, or meets the rule.** -/
theorem meets_of_accepted [Pattern.Engine] {data : Record}
    (haccepted : (RuleSet.collectErrors ⟨[r]⟩ slug data mode).answerFrom src =
      some (.ok [])) :
    isBlank (data.get? r.field) = true ∨
      ∃ v, data.get? r.field = some v ∧ (v.isArray = true ∨ r.Meets v) := by
  rw [RuleSet.collectErrors_answerFrom, Option.some_inj,
    RuleSet.verdicts_eq_nil_iff] at haccepted
  have hfinding := haccepted r (List.mem_singleton_self r)
  rw [FieldRule.verdict_eq_finding] at hfinding
  cases hvalue : data.get? r.field with
  | none => exact .inl rfl
  | some v =>
      rw [hvalue] at hfinding
      cases hblank : isBlank (some v) with
      | true => exact .inl rfl
      | false =>
          refine .inr ⟨v, rfl, ?_⟩
          cases harray : v.isArray with
          | true => exact .inl rfl
          | false =>
              have hscalar : scalarValue? (some v) = some v := by
                simp [scalarValue?, filledValue?, Option.filter, hblank, harray]
              refine .inr ((meets_iff hscalar).mpr fun c hc =>
                isBroken_of_finding hfinding ?_)
              rw [localConstraints, ← List.append_assoc]
              exact List.mem_append_left _ hc

/-- A price is a number up to a hundred, written with at most five
characters. -/
def priceRule : FieldRule :=
  { field := "price", label := "Price", kind := .number,
    maxLength := some 5, numeric := true,
    min := some 0, max := some 100 }

/-- The price `12.50` is accepted and meets the rule. -/
theorem priceRule_meets :
    (RuleSet.collectErrors ⟨[priceRule]⟩ "items"
        [("price", .string "12.50")] .create).answerFrom
        (fun _ => .ok []) = some (.ok []) ∧
      (isBlank (some (Json.string "12.50")) = true ∨
        ∃ v, some (Json.string "12.50") = some v ∧
          (v.isArray = true ∨ priceRule.Meets v)) := by
  have haccepted : (RuleSet.collectErrors ⟨[priceRule]⟩
      "items" [("price", .string "12.50")] .create).answerFrom
      (fun _ => .ok []) = some (.ok []) := by rfl
  exact ⟨haccepted, meets_of_accepted haccepted⟩

/-- A list of texts and the text `nan` are accepted as prices.  Neither is
blank; the list denotes no number, and the number of the text is not within the
bounds. -/
theorem priceRule_accepts_list_and_nan :
    priceRule.multiple = false ∧ priceRule.numeric = true ∧
    priceRule.min = some 0 ∧
      (RuleSet.collectErrors ⟨[priceRule]⟩ "items"
        [("price", .array [.string "x"])] .create).answerFrom
        (fun _ => .ok []) = some (.ok []) ∧
      isBlank (some (.array [.string "x"])) = false ∧
        Json.numeric? (.array [.string "x"]) = none ∧
      (RuleSet.collectErrors ⟨[priceRule]⟩ "items"
        [("price", .string "nan")] .create).answerFrom
        (fun _ => .ok []) = some (.ok []) ∧
      isBlank (some (.string "nan")) = false ∧
      ∃ x, Json.numeric? (.string "nan") = some x ∧ ¬ 0 ≤ x ∧ ¬ x ≤ 100 :=
  ⟨rfl, rfl, rfl,
    by rfl, rfl, rfl, by rfl, rfl, 0 / 0, by rfl, by decide, by decide⟩

end FieldRule

end ServiceLoom
