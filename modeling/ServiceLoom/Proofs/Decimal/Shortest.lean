import ServiceLoom.Decimal.Notation
import ServiceLoom.Proofs.Decimal.Exactness

/-!
# The search for the fewest digits

The search for the shortest decimal ends on a grid with a point in the interval,
so that it never runs out.  A grid whose steps are no longer than a quarter of
the last place has one (`Interval.isSome_nearest?`), and the last grids of the
search are that fine (`tenTo_le_twoTo`): between powers of two and of ten it is
enough to know that `10 ^ 3 < 2 ^ 10` and `2 ^ 33 < 10 ^ 10`.
-/

namespace ServiceLoom.Decimal

/-! ## Powers of two and of ten -/

theorem twoTo_zero : twoTo 0 = 1 := rfl

theorem tenTo_zero : tenTo 0 = 1 := rfl

theorem twoTo_pos (n : Nat) : 0 < twoTo n := Nat.pow_pos (by decide)

theorem tenTo_pos (n : Nat) : 0 < tenTo n := Nat.pow_pos (by decide)

theorem tenTo_le_twoTo_of_le {t q : Nat} (h : 10 * t ≤ 3 * q) :
    tenTo t ≤ twoTo q := by
  refine (Nat.pow_le_pow_iff_left (show 3 ≠ 0 by decide)).mp ?_
  calc (10 ^ t) ^ 3 = (10 ^ 3) ^ t := Nat.pow_right_comm 10 t 3
    _ ≤ (2 ^ 10) ^ t := Nat.pow_le_pow_left (by decide) t
    _ = 2 ^ (10 * t) := (Nat.pow_mul 2 10 t).symm
    _ ≤ 2 ^ (3 * q) := Nat.pow_le_pow_right (by decide) h
    _ = (2 ^ q) ^ 3 := by rw [Nat.mul_comm, Nat.pow_mul]

theorem twoTo_le_tenTo_of_le {p s : Nat} (h : 10 * p ≤ 33 * s) :
    twoTo p ≤ tenTo s := by
  refine (Nat.pow_le_pow_iff_left (show 10 ≠ 0 by decide)).mp ?_
  calc (2 ^ p) ^ 10 = 2 ^ (10 * p) := by rw [Nat.mul_comm, Nat.pow_mul]
    _ ≤ 2 ^ (33 * s) := Nat.pow_le_pow_right (by decide) h
    _ = (2 ^ 33) ^ s := Nat.pow_mul 2 33 s
    _ ≤ (10 ^ 10) ^ s := Nat.pow_le_pow_left (by decide) s
    _ = (10 ^ s) ^ 10 := Nat.pow_right_comm 10 10 s

/-- **A power of ten is below a power of two** when its exponent is small
enough, for exponents of either sign. -/
theorem tenTo_le_twoTo {q t : Int} (hlow : -2000 ≤ q) (hhigh : q ≤ 4000)
    (h : 100000 * t ≤ 30103 * q - 444335) :
    twoTo (-q).toNat * tenTo t.toNat ≤ twoTo q.toNat * tenTo (-t).toNat := by
  rcases lt_or_ge t 0 with ht | ht
  · have hten : t.toNat = 0 := by omega
    rcases lt_or_ge q 0 with hq | hq
    · have htwo : q.toNat = 0 := by omega
      rw [hten, htwo, twoTo_zero, tenTo_zero, Nat.mul_one, Nat.one_mul]
      exact twoTo_le_tenTo_of_le (by omega)
    · have htwo : (-q).toNat = 0 := by omega
      rw [hten, htwo]
      exact Nat.mul_pos (twoTo_pos _) (tenTo_pos _)
  · have htwo : (-q).toNat = 0 := by omega
    have hten : (-t).toNat = 0 := by omega
    rw [hten, htwo, twoTo_zero, tenTo_zero, Nat.mul_one, Nat.one_mul]
    exact tenTo_le_twoTo_of_le (by omega)

/-! ## Grids -/

namespace Interval

variable {i : Interval} {tie : Tie} {e : Int} {k : Nat}

/-- **A fine grid has a point in the interval.** -/
theorem isSome_nearest? (hlow : i.low < i.value) (hhigh : i.value < i.high)
    (hgrid : (i.scale e).2 ≤ (i.scale e).1) (hdivisor : 0 < (i.scale e).2)
    (tie : Tie) : (i.nearest? tie e).isSome = true := by
  obtain ⟨factor, divisor, hscale⟩ :
      ∃ factor divisor, i.scale e = (factor, divisor) := ⟨_, _, rfl⟩
  rw [hscale] at hgrid hdivisor
  dsimp only at hgrid hdivisor
  have hbelow : i.value * factor / divisor * divisor ≤ i.value * factor :=
    Nat.div_mul_le_self _ _
  have hnext : i.value * factor < i.value * factor / divisor * divisor +
      divisor := Nat.lt_div_mul_add hdivisor
  have hleft : i.low * factor + factor ≤ i.value * factor := by
    rw [← Nat.succ_mul]
    exact Nat.mul_le_mul_right factor hlow
  have hright : i.value * factor < i.high * factor :=
    Nat.mul_lt_mul_of_pos_right hhigh (by omega)
  have hholds : (i.holds e (i.value * factor / divisor) &&
      i.value * factor / divisor != 0) = true := by
    rw [Bool.and_eq_true, bne_iff_ne, holds, hscale]
    dsimp only
    refine ⟨?_, fun hzero => ?_⟩
    · split
      · rw [Bool.and_eq_true, decide_eq_true_eq, decide_eq_true_eq]
        omega
      · rw [Bool.and_eq_true, decide_eq_true_eq, decide_eq_true_eq]
        omega
    · rw [hzero] at hnext
      omega
  unfold nearest?
  rw [hscale]
  dsimp only
  rw [hholds]
  cases i.holds e (i.value * factor / divisor + 1) with
  | false => rfl
  | true =>
      dsimp only
      split
      · rfl
      · split
        · rfl
        · cases tie <;> rfl

/-- **A point of a grid that is chosen** lies in the interval and is not
zero. -/
theorem holds_of_nearest? (h : i.nearest? tie e = some k) :
    i.holds e k = true ∧ k ≠ 0 := by
  unfold nearest? at h
  dsimp only at h
  generalize i.value * (i.scale e).1 / (i.scale e).2 = n at h
  have hbelow : (i.holds e n && n != 0) = true → i.holds e n = true ∧ n ≠ 0 :=
    fun hn => by
    obtain ⟨hholds, hne⟩ := Bool.and_eq_true_iff.mp hn
    exact ⟨hholds, bne_iff_ne.mp hne⟩
  split at h
  next => cases h
  next hn _ =>
    obtain rfl := Option.some.inj h
    exact hbelow hn
  next hnext =>
    obtain rfl := Option.some.inj h
    exact ⟨hnext, Nat.succ_ne_zero n⟩
  next hn hnext =>
    -- Of two points in the interval, one or the other is chosen.
    have heither : k = n ∨ k = n + 1 := by
      split at h
      · exact .inl (Option.some.inj h).symm
      · split at h
        · exact .inr (Option.some.inj h).symm
        · cases tie with
          | upward => exact .inr (Option.some.inj h).symm
          | toEven =>
              obtain rfl := Option.some.inj h
              split
              · exact .inl rfl
              · exact .inr rfl
    rcases heither with rfl | rfl
    · exact hbelow hn
    · exact ⟨hnext, Nat.succ_ne_zero n⟩

/-- **The search ends on a point of the interval** if one of its grids has a
point. -/
theorem holds_search {steps : Nat} {j : Nat} (hj : j < steps)
    (h : (i.nearest? tie (e - j)).isSome = true) :
    i.holds (i.search tie steps e).exponent (i.search tie steps e).coefficient =
      true ∧
      (i.search tie steps e).coefficient ≠ 0 := by
  induction steps generalizing e j with
  | zero => omega
  | succ steps ih =>
      rw [search]
      split
      next k hk => exact holds_of_nearest? hk
      next hnone =>
        cases j with
        | zero =>
            rw [Int.natCast_zero, Int.sub_zero, hnone] at h
            cases h
        | succ j =>
            refine ih (Nat.lt_of_succ_lt_succ hj) ?_
            rw [Int.sub_sub, Int.add_comm 1]
            exact h

end Interval

/-! ## The search -/

/-- The last grid of the search is fine enough. -/
theorem Canonical.scale_around {m : Nat} {e : Int} (h : Canonical m e)
    (hm : 0 < m) :
    let i := Interval.around m e
    (i.scale (i.topExponent - 23)).2 ≤ (i.scale (i.topExponent - 23)).1 := by
  intro i
  have hlt : m < 2 ^ 53 :=
    (Nat.log2_lt (Nat.ne_of_gt hm)).mp (Nat.lt_succ_of_le h.bits)
  have hlog : (4 * m + 2).log2 < 55 := (Nat.log2_lt (by omega)).mpr (by omega)
  have htop : 100000 * (i.topExponent - 23) ≤ 30103 * (e - 2) - 444335 := by
    show 100000 * (Int.fdiv (((4 * m + 2).log2 + 1 + (e - 2)) * 30103)
        100000 + 2 - 23) ≤ _
    rw [Int.fdiv_eq_ediv_of_nonneg _ (by decide)]
    omega
  have hleast := h.least
  have hmost := h.most
  exact tenTo_le_twoTo (show -2000 ≤ e - 2 by omega)
    (show e - 2 ≤ 4000 by omega) htop

/-- **The shortest decimal of a positive number** lies in its interval and is
not zero. -/
theorem Canonical.holds_shortest {m : Nat} {e : Int} (h : Canonical m e)
    (hm : 0 < m) (tie : Tie) :
    (Interval.around m e).holds (shortest tie m e).exponent
      (shortest tie m e).coefficient = true ∧
      (shortest tie m e).coefficient ≠ 0 := by
  have hlow : (Interval.around m e).low < (Interval.around m e).value := by
    unfold Interval.around
    dsimp only
    split <;> omega
  have hhigh : (Interval.around m e).value < (Interval.around m e).high :=
    Nat.lt_add_of_pos_right (by decide)
  refine Interval.holds_search (show 23 < 24 by decide) ?_
  exact Interval.isSome_nearest? hlow hhigh (h.scale_around hm)
    (Nat.mul_pos (twoTo_pos _) (tenTo_pos _)) tie

open Float.Model in
/-- A finite float is read as a binary number, in canonical form unless it is
zero. -/
theorem exists_reading_eq {x : Float} (hx : x.isFinite = true) :
    ∃ b, reading x = .finite b ∧
    (b.mantissa ≠ 0 → Canonical b.mantissa b.exponent) := by
  have hfinite : (UnpackedFloat.unpack Format.binary64
      x.toBits.toBitVec).isFinite = true := hx
  unfold reading
  cases hunpacked : UnpackedFloat.unpack Format.binary64 x.toBits.toBitVec with
  | infinity sign =>
      rw [hunpacked] at hfinite
      cases hfinite
  | notANumber =>
      rw [hunpacked] at hfinite
      cases hfinite
  | zero sign => exact ⟨_, rfl, fun h => absurd rfl h⟩
  | finite sign m e hm => exact ⟨_, rfl, fun _ => canonical_of_unpack hunpacked⟩

/-- The text of a finite number without its sign. -/
def Layout.unsigned (l : Layout) (b : Binary) : List Char :=
  if b.mantissa = 0 then (if l.wholeFraction then ['0', '.', '0'] else ['0'])
  else l.magnitude (shortest l.tie b.mantissa b.exponent)

/-- A finite number is written with its sign, if that is a minus. -/
theorem Layout.toList_write (l : Layout) {x : Float} {b : Binary}
    (h : reading x = .finite b) :
    (l.write x).toList = if b.negative then '-' :: l.unsigned b
      else l.unsigned b := by
  rw [write, h]
  exact String.toList_ofList

end ServiceLoom.Decimal
