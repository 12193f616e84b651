import ServiceLoom.Proofs.Decimal.Comparison
import ServiceLoom.Proofs.Decimal.Exactness

/-!
# The order of finite floats

Finite floats compare as the numbers that they denote (`Decimal.lt_iff`,
`Decimal.le_iff`).  Canonical mantissas and exponents compare exponent first,
since a mantissa above the least exponent has all of its 53 bits
(`Canonical.mul_lt_of_lt`).
-/

namespace ServiceLoom.Decimal

open Float.Model (UnpackedFloat)
open Float.Model.UnpackedFloat (Sign)

/-- **The larger exponent has the larger magnitude.** -/
theorem Canonical.mul_lt_of_lt {m n : ℕ} {e f : ℤ} (hm : Canonical m e)
    (hn : Canonical n f) (hpos : 0 < m) (h : e < f) :
    (m : ℚ) * 2 ^ e < n * 2 ^ f := by
  have hfull : n.log2 = 52 := hn.full.resolve_right fun heq => by
    have hleast := hm.least
    omega
  have hm : m < 2 ^ 53 :=
    (Nat.log2_lt (Nat.ne_of_gt hpos)).mp (Nat.lt_succ_of_le hm.bits)
  have hn0 : n ≠ 0 := by
    rintro rfl
    cases hfull
  have hn : 2 ^ 52 ≤ n := ((Nat.log2_eq_iff hn0).mp hfull).1
  calc (m : ℚ) * 2 ^ e < 2 ^ 53 * 2 ^ e := by
        gcongr
        exact_mod_cast hm
    _ = 2 ^ 52 * 2 ^ (e + 1) := by
        rw [zpow_add_one₀ (by norm_num)]
        ring
    _ ≤ n * 2 ^ f := by
        gcongr
        · exact_mod_cast hn
        · norm_num
        · omega

/-- **Magnitudes in canonical form** compare exponent first. -/
theorem Canonical.compare_eq_lt_iff {m n : ℕ} {e f : ℤ} (hm : Canonical m e)
    (hn : Canonical n f) (hmpos : 0 < m) (hnpos : 0 < n) :
    (compare e f).then (compare m n) = .lt ↔ (m : ℚ) * 2 ^ e < n * 2 ^ f := by
  rw [Ordering.then_eq_lt, Std.compare_eq_lt, Std.compare_eq_iff_eq,
    Std.compare_eq_lt]
  rcases lt_trichotomy e f with hlt | rfl | hgt
  · exact iff_of_true (Or.inl hlt) (hm.mul_lt_of_lt hn hmpos hlt)
  · rw [mul_lt_mul_iff_of_pos_right (by positivity), Nat.cast_lt]
    exact ⟨fun h => (h.resolve_left (lt_irrefl e)).2, fun h => Or.inr ⟨rfl, h⟩⟩
  · refine iff_of_false ?_ (hn.mul_lt_of_lt hm hnpos hgt).not_gt
    rintro (hlt | ⟨rfl, -⟩)
    · exact lt_asymm hlt hgt
    · exact lt_irrefl e hgt

variable {x y : Float} {p q : ℚ}

theorem apply_positive (m : ℕ) : ((Sign.positive.apply (m : ℤ) : ℤ) : ℚ) = m :=
  Int.cast_natCast m

theorem apply_negative (m : ℕ) :
    ((Sign.negative.apply (m : ℤ) : ℤ) : ℚ) = -m := by
  rw [Sign.apply, Int.cast_neg, Int.cast_natCast]

/-- **Finite floats compare as the numbers that they denote.** -/
theorem lt_iff (hx : value? x = some p) (hy : value? y = some q) :
    x < y ↔ p < q := by
  rw [lt_iff_unpack, UnpackedFloat.lt, beq_iff_eq]
  rcases unpack_cases hx with ⟨s, hxs, rfl⟩ | ⟨s, m, e, hm, hxs, hmc, rfl⟩ <;>
    rcases unpack_cases hy with
        ⟨t, hys, rfl⟩ | ⟨t, n, f, hn, hys, hnc, rfl⟩ <;> rw [hxs, hys]
  · exact iff_of_false (by rintro ⟨⟩) (lt_irrefl 0)
  · have hpos : (0 : ℚ) < n * 2 ^ f := by positivity
    cases t with
    | positive => exact iff_of_true rfl (by rwa [apply_positive])
    | negative =>
        exact iff_of_false (by rintro ⟨⟩)
          (by rw [apply_negative, neg_mul]; linarith)
  · have hpos : (0 : ℚ) < m * 2 ^ e := by positivity
    cases s with
    | positive =>
        exact iff_of_false (by rintro ⟨⟩)
          (by rw [apply_positive]; exact hpos.not_gt)
    | negative =>
        exact iff_of_true rfl (by rw [apply_negative, neg_mul]; linarith)
  · have hmpos : (0 : ℚ) < m * 2 ^ e := by positivity
    have hnpos : (0 : ℚ) < n * 2 ^ f := by positivity
    cases s <;> cases t <;> simp only [apply_positive,
      apply_negative, neg_mul, neg_lt_neg_iff]
    case positive.positive =>
      rw [← hmc.compare_eq_lt_iff hnc hm hn]
      exact Option.some_inj
    case negative.negative =>
      rw [← hnc.compare_eq_lt_iff hmc hn hm, compare_magnitudes_swap]
      exact Option.some_inj
    case positive.negative => exact iff_of_false (by rintro ⟨⟩) (by linarith)
    case negative.positive => exact iff_of_true rfl (by linarith)

theorem le_iff (hx : value? x = some p) (hy : value? y = some q) :
    x ≤ y ↔ p ≤ q := by
  rw [← not_lt, ← lt_iff hy hx]
  exact ⟨not_lt_of_le, le_of_not_lt (isNaN_of_isFinite (isFinite_of_value? hy))
    (isNaN_of_isFinite (isFinite_of_value? hx))⟩

theorem value?_zero : value? 0 = some 0 := by decide +kernel

end ServiceLoom.Decimal
