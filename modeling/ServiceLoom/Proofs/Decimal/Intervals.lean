import ServiceLoom.Proofs.Decimal.Order
import ServiceLoom.Proofs.Decimal.Shortest

/-!
# Intervals around floats

The search for the fewest digits counts grid points in whole numbers; what it
finds is a decimal in an interval of rational numbers (`Interval.holds_iff`).
The intervals of two floats have no number in common
(`Canonical.not_contains_of_lt`): they end half way between neighbours, and of
two neighbours one has an odd mantissa and leaves its ends out.  So a float is
known by its shortest decimal (`Canonical.eq_of_value_shortest_eq`).
-/

namespace ServiceLoom.Decimal

/-- The number that digits denote. -/
def Digits.value (d : Digits) : ℚ := d.coefficient * 10 ^ d.exponent

/-! ## From grids to numbers -/

/-- A power is its numerator over its denominator. -/
theorem cast_pow_toNat {b : ℕ} {c : ℚ} (hc : (b : ℚ) = c)
    (hne : c ≠ 0) (p : ℤ) :
    ((b ^ p.toNat : ℕ) : ℚ) = c ^ p * (b ^ (-p).toNat : ℕ) := by
  rw [Nat.cast_pow, Nat.cast_pow, hc, ← zpow_natCast,
    ← zpow_natCast, ← zpow_add₀ hne]
  congr 1
  omega

theorem cast_twoTo_toNat (p : ℤ) :
    (twoTo p.toNat : ℚ) = 2 ^ p * twoTo (-p).toNat :=
  cast_pow_toNat Nat.cast_ofNat (by norm_num) p

theorem cast_tenTo_toNat (p : ℤ) :
    (tenTo p.toNat : ℚ) = 10 ^ p * tenTo (-p).toNat :=
  cast_pow_toNat Nat.cast_ofNat (by norm_num) p

namespace Interval

variable {i : Interval} {e : ℤ} {k : ℕ} {q : ℚ}

/-- The numbers of an interval. -/
def Contains (i : Interval) (q : ℚ) : Prop :=
  if i.closed = true then i.low * 2 ^ i.exponent ≤ q ∧
    q ≤ i.high * 2 ^ i.exponent
  else i.low * 2 ^ i.exponent < q ∧ q < i.high * 2 ^ i.exponent

/-- **A grid point is held** when the number is in the interval. -/
theorem holds_iff : i.holds e k = true ↔ i.Contains (k * 10 ^ e) := by
  obtain ⟨factor, divisor, hscale⟩ :
      ∃ factor divisor, i.scale e = (factor, divisor) := ⟨_, _, rfl⟩
  obtain ⟨hfactor, hdivisor⟩ := Prod.mk.inj hscale
  -- Ends and points of the grid are whole in one common unit.
  have hunit : (0 : ℚ) < twoTo (-i.exponent).toNat * tenTo (-e).toNat := by
    exact_mod_cast Nat.mul_pos (twoTo_pos _) (tenTo_pos _)
  have hend : ∀ n : ℕ, ((n * factor : ℕ) : ℚ) =
      n * 2 ^ i.exponent * (twoTo (-i.exponent).toNat * tenTo (-e).toNat) :=
          fun n => by
    rw [← hfactor, Nat.cast_mul, Nat.cast_mul, cast_twoTo_toNat i.exponent]
    ring
  have hpoint : ((k * divisor : ℕ) : ℚ) =
      k * 10 ^ e * (twoTo (-i.exponent).toNat * tenTo (-e).toNat) := by
    rw [← hdivisor, Nat.cast_mul, Nat.cast_mul, cast_tenTo_toNat e]
    ring
  unfold holds Contains
  rw [hscale]
  dsimp only
  split
  · rw [Bool.and_eq_true, decide_eq_true_eq, decide_eq_true_eq,
      ← Nat.cast_le (α := ℚ), ← Nat.cast_le (α := ℚ), hend, hend, hpoint,
      mul_le_mul_iff_of_pos_right hunit, mul_le_mul_iff_of_pos_right hunit]
  · rw [Bool.and_eq_true, decide_eq_true_eq, decide_eq_true_eq,
      ← Nat.cast_lt (α := ℚ), ← Nat.cast_lt (α := ℚ), hend, hend, hpoint,
      mul_lt_mul_iff_of_pos_right hunit, mul_lt_mul_iff_of_pos_right hunit]

/-- A number of an interval is not outside its ends, and is one of them only
where the ends belong to the interval. -/
theorem Contains.bounds (h : i.Contains q) :
    i.low * 2 ^ i.exponent ≤ q ∧ q ≤ i.high * 2 ^ i.exponent ∧
    (q = i.low * 2 ^ i.exponent ∨ q = i.high * 2 ^ i.exponent →
      i.closed = true) := by
  unfold Contains at h
  split at h
  next hclosed => exact ⟨h.1, h.2, fun _ => hclosed⟩
  next hopen =>
    refine ⟨h.1.le, h.2.le, ?_⟩
    rintro (rfl | rfl)
    · exact absurd h.1 (lt_irrefl _)
    · exact absurd h.2 (lt_irrefl _)

end Interval

/-! ## Neighbours -/

variable {m n : ℕ} {e f : ℤ} {q : ℚ}

/-- **Intervals in order:** the one of the smaller float ends where that of the
larger one starts, or before.  If the two meet, one of the mantissas is odd. -/
theorem Canonical.high_le_low (hm : Canonical m e) (hn : Canonical n f)
    (hmpos : 0 < m) (hnpos : 0 < n) (h : (m : ℚ) * 2 ^ e < n * 2 ^ f) :
    ((Interval.around m e).high : ℚ) * 2 ^ (e - 2) ≤
      (Interval.around n f).low * 2 ^ (f - 2) ∧
      (((Interval.around m e).high : ℚ) * 2 ^ (e - 2) =
        (Interval.around n f).low * 2 ^ (f - 2) →
        ¬ (m % 2 = 0 ∧ n % 2 = 0)) := by
  have hhigh : (Interval.around m e).high = 4 * m + 2 := rfl
  have hfirst : twoTo 52 = 2 ^ 52 := rfl
  have hmlt : m < 2 ^ 53 :=
    (Nat.log2_lt (Nat.ne_of_gt hmpos)).mp (Nat.lt_succ_of_le hm.bits)
  rw [← hm.compare_eq_lt_iff hn hmpos hnpos, Ordering.then_eq_lt,
    Std.compare_eq_lt, Std.compare_eq_iff_eq, Std.compare_eq_lt] at h
  rcases h with hlt | ⟨rfl, hlt⟩
  · -- a larger exponent: the mantissa has all of its bits, and the unit is
    -- twice as large at least
    have hleast := hm.least
    have hfull : 2 ^ 52 ≤ n := ((Nat.log2_eq_iff (Nat.ne_of_gt hnpos)).mp
        (hn.full.resolve_right (by omega))).1
    have hlow : 2 ^ 54 - 1 ≤ (Interval.around n f).low := by
      unfold Interval.around
      dsimp only
      rw [hfirst]
      split <;> omega
    have hunit : (2 : ℚ) * 2 ^ (e - 2) ≤ 2 ^ (f - 2) := by
      rw [← zpow_one_add₀ (by norm_num)]
      exact zpow_le_zpow_right₀ (by norm_num) (by omega)
    have hpos : (0 : ℚ) < 2 ^ (e - 2) := by positivity
    have hbetween : ((2 ^ 55 - 2 : ℕ) : ℚ) * 2 ^ (e - 2) ≤
        (Interval.around n f).low * 2 ^ (f - 2) := by
      calc ((2 ^ 55 - 2 : ℕ) : ℚ) * 2 ^ (e - 2) =
        ((2 ^ 54 - 1 : ℕ) : ℚ) * (2 * 2 ^ (e - 2)) := by push_cast; ring
        _ ≤ (Interval.around n f).low * 2 ^ (f - 2) := by gcongr
    have hbelow : 4 * m + 2 ≤ 2 ^ 55 - 2 := by omega
    rw [hhigh]
    refine ⟨le_trans ?_ hbetween, ?_⟩
    · gcongr
    · intro heq hboth
      have hge : ((2 ^ 55 - 2 : ℕ) : ℚ) * 2 ^ (e - 2) ≤
          ((4 * m + 2 : ℕ) : ℚ) * 2 ^ (e - 2) := hbetween.trans heq.ge
      rw [mul_le_mul_iff_of_pos_right hpos, Nat.cast_le] at hge
      omega
  · -- one exponent: the mantissas differ by one at least
    have hlow : (Interval.around n e).low = 4 * n - 2 := by
      unfold Interval.around
      dsimp only
      refine if_neg ?_
      rintro ⟨hn52, hleast⟩
      have hfull := ((Nat.log2_eq_iff (Nat.ne_of_gt hmpos)).mp
          (hm.full.resolve_right (by omega))).1
      rw [hn52, hfirst] at hlt
      exact absurd hlt (Nat.not_lt.mpr hfull)
    have hpos : (0 : ℚ) < 2 ^ (e - 2) := by positivity
    rw [hhigh, hlow, mul_le_mul_iff_of_pos_right hpos,
      mul_left_inj' hpos.ne', Nat.cast_le, Nat.cast_inj]
    omega

/-- **The intervals of two floats have no number in common.** -/
theorem Canonical.not_contains_of_lt (hm : Canonical m e) (hn : Canonical n f)
    (hmpos : 0 < m) (hnpos : 0 < n) (h : (m : ℚ) * 2 ^ e < n * 2 ^ f)
    (hq : (Interval.around m e).Contains q) :
    ¬ (Interval.around n f).Contains q := by
  intro hq'
  obtain ⟨hle, hmeet⟩ := hm.high_le_low hn hmpos hnpos h
  obtain ⟨-, hhigh, hclosed⟩ := hq.bounds
  obtain ⟨hlow, -, hclosed'⟩ := hq'.bounds
  have hsame : q = (Interval.around m e).high * 2 ^ (e - 2) :=
    le_antisymm hhigh (hle.trans hlow)
  have hsame' : q = (Interval.around n f).low * 2 ^ (f - 2) :=
    le_antisymm (hhigh.trans hle) hlow
  refine hmeet (hsame.symm.trans hsame') ⟨?_, ?_⟩
  · exact of_decide_eq_true (hclosed (.inr hsame))
  · exact of_decide_eq_true (hclosed' (.inl hsame'))

/-- The shortest decimal of a positive number is in its interval. -/
theorem Canonical.contains_shortest (h : Canonical m e) (hm : 0 < m)
    (tie : Tie) : (Interval.around m e).Contains (shortest tie m e).value :=
  Interval.holds_iff.mp (h.holds_shortest hm tie).1

/-- **A positive float is known by its shortest decimal.** -/
theorem Canonical.eq_of_value_shortest_eq (hm : Canonical m e)
    (hn : Canonical n f) (hmpos : 0 < m) (hnpos : 0 < n) {tie : Tie}
    (h : (shortest tie m e).value = (shortest tie n f).value) :
    (m : ℚ) * 2 ^ e = n * 2 ^ f := by
  have hq := hm.contains_shortest hmpos tie
  have hq' := hn.contains_shortest hnpos tie
  rcases lt_trichotomy ((m : ℚ) * 2 ^ e) (n * 2 ^ f) with hlt | heq | hgt
  · exact absurd (h ▸ hq') (hm.not_contains_of_lt hn hmpos hnpos hlt hq)
  · exact heq
  · exact absurd (h ▸ hq) (hn.not_contains_of_lt hm hnpos hmpos hgt hq')

end ServiceLoom.Decimal
