import ServiceLoom.Proofs.Decimal.Intervals

/-!
# Whole floats

Whether a finite float is whole, and which integer it is, is decided on its
mantissa and exponent; both are as the number that it denotes says
(`isWhole_iff`, `nearestInt?_eq`).  A number other than zero is denoted by one
float only (`reading_eq_of_value?_eq`); zero by two, which differ in their sign.
-/

namespace ServiceLoom.Decimal

open Float.Model (UnpackedFloat Format)
open Float.Model.UnpackedFloat (Sign)

variable {x y : Float} {p q : ℚ}

/-- The absolute value of a binary number. -/
def Binary.magnitude (b : Binary) : ℚ := b.mantissa * 2 ^ b.exponent

/-- What a binary number denotes. -/
def Binary.value (b : Binary) : ℚ :=
  if b.negative then -b.magnitude else b.magnitude

/-- A float denotes the number that is read off it. -/
theorem value?_of_reading {b : Binary} (h : reading x = .finite b) :
    value? x = some b.value := by
  unfold reading at h
  show valueOf (UnpackedFloat.unpack Format.binary64 x.toBits.toBitVec) = _
  cases hunpacked : UnpackedFloat.unpack Format.binary64 x.toBits.toBitVec with
  | infinity sign => rw [hunpacked] at h; cases h
  | notANumber => rw [hunpacked] at h; cases h
  | zero sign =>
      rw [hunpacked] at h
      cases h
      cases sign <;> simp [valueOf, Binary.value, Binary.magnitude]
  | finite sign m e hm =>
      rw [hunpacked] at h
      cases h
      cases sign with
      | positive =>
          exact congrArg some (congrArg (· * (2 : ℚ) ^ e) (apply_positive m))
      | negative =>
          refine congrArg some ?_
          show _ = -((m : ℚ) * 2 ^ e)
          rw [apply_negative, neg_mul]

/-- What denotes a number is read as a binary number. -/
theorem exists_reading_of_value? (h : value? x = some q) :
    ∃ b, reading x = .finite b ∧ b.value = q := by
  obtain ⟨b, hreading, -⟩ := exists_reading_eq (isFinite_of_value? h)
  exact ⟨b, hreading, Option.some.inj ((value?_of_reading hreading).symm.trans h)⟩

/-- A finite float denotes a number. -/
theorem exists_value? (hx : x.isFinite = true) : ∃ q, value? x = some q := by
  obtain ⟨b, hreading, -⟩ := exists_reading_eq hx
  exact ⟨b.value, value?_of_reading hreading⟩

/-! ## Absolute values -/

theorem value?_abs (h : value? x = some q) : value? x.abs = some |q| := by
  show valueOf (Float.Model.pack x.toModel.unpack.abs).unpack = _
  rcases unpack_cases h with
      ⟨sign, hx, rfl⟩ | ⟨sign, m, e, hm, hx, hcanonical, rfl⟩ <;> rw [hx]
  · rw [abs_zero]
    cases sign <;> rfl
  · refine (hcanonical.valueOf_unpack_pack .positive hm).trans (congrArg some ?_)
    have hpos : (0 : ℚ) < m * 2 ^ e := by positivity
    cases sign with
    | positive => rw [apply_positive, abs_of_pos hpos]
    | negative =>
        rw [apply_positive, apply_negative, neg_mul, abs_neg, abs_of_pos hpos]

/-! ## Integers -/

namespace Binary

variable {b : Binary} {n : ℕ}

/-- A whole magnitude with an exponent below zero has as many units as its
mantissa holds. -/
theorem mantissa_eq_of_magnitude (h : b.magnitude = n) (he : b.exponent ≤ 0) :
    b.mantissa = n * twoTo (-b.exponent).toNat := by
  have hvalue : (b.mantissa : ℚ) * 2 ^ b.exponent = n * 2 ^ (0 : ℤ) := by
    rw [zpow_zero, mul_one]
    exact h
  rw [mantissa_eq he hvalue, zero_sub]
  rfl

/-- **A magnitude that is a natural number is rounded to it**, and known to be
whole. -/
theorem roundedMagnitude_eq (h : b.magnitude = n) :
    b.roundedMagnitude = n ∧ b.isWhole = true := by
  unfold roundedMagnitude isWhole
  rcases le_or_gt 0 b.exponent with he | he
  · rw [if_pos he, decide_eq_true he, Bool.or_true, Bool.true_or]
    refine ⟨?_, rfl⟩
    have hpow : (b.mantissa * twoTo b.exponent.toNat : ℚ) = n := by
      rw [← h, cast_twoTo_toNat, Int.toNat_of_nonpos (by omega)]
      simp [twoTo, magnitude]
    exact_mod_cast hpow
  · have hunit := twoTo_pos (-b.exponent).toNat
    rw [if_neg (by omega), mantissa_eq_of_magnitude h he.le,
      Nat.mul_mod_left, beq_self_eq_true, Bool.or_true]
    refine ⟨?_, rfl⟩
    dsimp only
    generalize twoTo (-b.exponent).toNat = unit at hunit
    have hhalf : 2 * (n * unit) + unit = unit + 2 * unit * n := by ring
    rw [hhalf, Nat.add_mul_div_left _ _ (by omega),
      Nat.div_eq_of_lt (by omega), Nat.zero_add]

/-- A magnitude that is known to be whole is a natural number. -/
theorem exists_magnitude_eq (h : b.isWhole = true) :
    ∃ n : ℕ, b.magnitude = n := by
  unfold isWhole at h
  rw [Bool.or_eq_true, Bool.or_eq_true, beq_iff_eq,
    decide_eq_true_eq, beq_iff_eq] at h
  unfold magnitude
  rcases le_or_gt 0 b.exponent with he | he
  · obtain ⟨e, he⟩ := Int.eq_ofNat_of_zero_le he
    exact ⟨b.mantissa * 2 ^ e, by rw [he, zpow_natCast]; push_cast; rfl⟩
  · obtain ⟨n, hn⟩ : twoTo (-b.exponent).toNat ∣ b.mantissa := by
      rcases h with (hzero | hge) | hmod
      · exact hzero ▸ Nat.dvd_zero _
      · exact absurd hge (by omega)
      · exact Nat.dvd_of_mod_eq_zero hmod
    have hunit : (twoTo (-b.exponent).toNat : ℚ) * 2 ^ b.exponent = 1 := by
      rw [cast_twoTo_toNat, neg_neg, Int.toNat_of_nonpos he.le, mul_right_comm,
        ← zpow_add₀ (by norm_num), neg_add_cancel, zpow_zero, one_mul,
        twoTo_zero, Nat.cast_one]
    refine ⟨n, ?_⟩
    rw [hn, Nat.cast_mul, mul_right_comm, hunit, one_mul]

theorem abs_value : |b.value| = b.magnitude := by
  have hpos : 0 ≤ b.magnitude := by
    unfold magnitude
    positivity
  unfold value
  split
  · rw [abs_neg, abs_of_nonneg hpos]
  · exact abs_of_nonneg hpos

/-- **An integer is rounded to itself**, and known to be whole. -/
theorem rounded_eq {z : ℤ} (h : b.value = z) :
    b.rounded = z ∧ b.isWhole = true := by
  have hmagnitude : b.magnitude = (z.natAbs : ℕ) := by
    rw [← abs_value, h, Nat.cast_natAbs, Int.cast_abs]
  obtain ⟨hrounded, hwhole⟩ := roundedMagnitude_eq hmagnitude
  refine ⟨?_, hwhole⟩
  unfold rounded
  unfold value at h
  rw [hrounded]
  rw [hmagnitude] at h
  split at h
  next hneg =>
    rw [← Int.cast_natCast, ← Int.cast_neg] at h
    rw [if_pos hneg]
    exact Int.cast_injective h
  next hplus =>
    rw [← Int.cast_natCast] at h
    rw [if_neg hplus]
    exact Int.cast_injective h

/-- **A binary number is known to be whole** exactly when it is an integer. -/
theorem isWhole_iff : b.isWhole = true ↔ ∃ z : ℤ, b.value = z := by
  constructor
  · intro h
    obtain ⟨n, hn⟩ := exists_magnitude_eq h
    unfold value
    split
    · exact ⟨-n, by rw [hn]; push_cast; rfl⟩
    · exact ⟨n, by rw [hn]; push_cast; rfl⟩
  · rintro ⟨z, hz⟩
    exact (rounded_eq hz).2

end Binary

/-- **A float is whole** exactly when it denotes an integer. -/
theorem isWhole_iff (h : value? x = some q) : isWhole x = true ↔ ∃ z :
    ℤ, q = z := by
  obtain ⟨b, hreading, rfl⟩ := exists_reading_of_value? h
  rw [isWhole, hreading]
  exact Binary.isWhole_iff

/-- The integer nearest to an integer is that one. -/
theorem nearestInt?_eq {z : ℤ} (h : value? x = some (z : ℚ)) :
    nearestInt? x = some z := by
  obtain ⟨b, hreading, hvalue⟩ := exists_reading_of_value? h
  rw [nearestInt?, hreading]
  exact congrArg some (Binary.rounded_eq hvalue).1

/-! ## One float for each number -/

/-- **Canonical mantissas and exponents** are those of one number only. -/
theorem Canonical.eq_of_mul_eq {m n : ℕ} {e f : ℤ}
    (hm : Canonical m e) (hn : Canonical n f) (hmpos : 0 < m) (hnpos : 0 < n)
    (h : (m : ℚ) * 2 ^ e = n * 2 ^ f) : m = n ∧ e = f := by
  rcases lt_trichotomy e f with hlt | rfl | hgt
  · exact absurd h (hm.mul_lt_of_lt hn hmpos hlt).ne
  · rw [mul_left_inj' (zpow_ne_zero e (by norm_num)), Nat.cast_inj] at h
    exact ⟨h, rfl⟩
  · exact absurd h (hn.mul_lt_of_lt hm hnpos hgt).ne'

/-- **A number other than zero** is denoted by one float. -/
theorem reading_eq_of_value?_eq (hx : value? x = some q)
    (hy : value? y = some q) (hq : q ≠ 0) : reading x = reading y := by
  have hunpack : UnpackedFloat.unpack Format.binary64 x.toBits.toBitVec =
      UnpackedFloat.unpack Format.binary64 y.toBits.toBitVec := by
    show x.toModel.unpack = y.toModel.unpack
    rcases unpack_cases hx with ⟨s, -, rfl⟩ | ⟨s, m, e, hm, hxs, hmc, rfl⟩
    · exact absurd rfl hq
    rcases unpack_cases hy with ⟨t, -, hzero⟩ | ⟨t, n, f, hn, hys, hnc, hvalue⟩
    · exact absurd hzero hq
    have hmpos : (0 : ℚ) < m * 2 ^ e := by positivity
    have hnpos : (0 : ℚ) < n * 2 ^ f := by positivity
    rw [hxs, hys]
    cases s <;> cases t <;> simp only [apply_positive,
      apply_negative, neg_mul, neg_inj] at hvalue
    case positive.positive | negative.negative =>
      obtain ⟨rfl, rfl⟩ := hmc.eq_of_mul_eq hnc hm hn hvalue
      rfl
    case positive.negative => linarith
    case negative.positive => linarith
  rw [reading, hunpack, reading]

end ServiceLoom.Decimal
