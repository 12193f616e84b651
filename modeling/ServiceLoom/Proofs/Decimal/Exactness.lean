import ServiceLoom.Proofs.Decimal.Finite
import Mathlib

/-!
# Exact sums and differences

A finite float denotes a rational number, a mantissa of 53 bits times a power of
two.  Where there is a float for the sum of two floats, their sum is that float
(`value?_add`), and so for differences: rounding only shifts zeros in and out
(`round_eq_of_value_eq`), and what has 53 bits is packed and unpacked as it is
(`Canonical.valueOf_unpack_pack`).  There is a float for every integer up to
`2 ^ 53` (`representable_intCast`).
-/

namespace ServiceLoom.Decimal

open Float.Model (UnpackedFloat Format totalExponent)
open Float.Model.UnpackedFloat

/-- What an unpacked float denotes, if it is finite. -/
def valueOf : UnpackedFloat → Option ℚ
  | .zero _ => some 0
  | .finite sign m e _ => some ((sign.apply m : ℤ) * 2 ^ e)
  | _ => none

/-- What a float denotes, if it is finite. -/
def value? (x : Float) : Option ℚ := valueOf x.toModel.unpack

/-- Whether there is a float for a number. -/
def Representable (q : ℚ) : Prop := ∃ x, value? x = some q

/-! ## Mantissas and exponents -/

/-- Equal numbers with exponents in order have mantissas that differ by
zeros. -/
theorem mantissa_eq {m n : ℕ} {e f : ℤ} (hle : e ≤ f)
    (h : (m : ℚ) * 2 ^ e = n * 2 ^ f) : m = n * 2 ^ (f - e).toNat := by
  have hpow : (2 : ℚ) ^ f = 2 ^ (f - e).toNat * 2 ^ e := by
    rw [← zpow_natCast, Int.toNat_of_nonneg (by omega),
      ← zpow_add₀ (by norm_num)]
    congr 1
    omega
  rw [hpow, ← mul_assoc] at h
  exact_mod_cast mul_right_cancel₀ (zpow_ne_zero e (by norm_num)) h

theorem log2_mul_two_pow {n : ℕ} (hn : n ≠ 0) (k : ℕ) :
    (n * 2 ^ k).log2 = n.log2 + k := by
  induction k with
  | zero => simp
  | succ k ih =>
      rw [Nat.pow_succ, ← Nat.mul_assoc, Nat.mul_comm _ 2,
        Nat.log2_two_mul (by positivity), ih, Nat.add_assoc]

/-- **The position of the first digit** belongs to the number and not to the
mantissa. -/
theorem log2_add_eq {m n : ℕ} {e f : ℤ} (hm : m ≠ 0) (hn : n ≠ 0)
    (h : (m : ℚ) * 2 ^ e = n * 2 ^ f) : (m.log2 : ℤ) + e = n.log2 + f := by
  rcases le_total e f with hle | hle
  · rw [mantissa_eq hle h, log2_mul_two_pow hn]
    push_cast
    omega
  · rw [mantissa_eq hle h.symm, log2_mul_two_pow hm]
    push_cast
    omega

theorem targetExponent_eq (m : ℕ) (e : ℤ) :
    Format.binary64.targetExponent (totalExponent m e) =
      max (m.log2 + e - 52) (-1074) := by
  have h : Format.binary64.targetExponent (totalExponent m e) =
      max (m.log2 + 1 + e - 53) (-1074) := rfl
  rw [h]
  omega

/-- Mantissas and exponents as floats have them: a mantissa has 53 bits, unless
the exponent is the least one. -/
structure Canonical (m : ℕ) (e : ℤ) : Prop where
  bits : m.log2 ≤ 52
  least : -1074 ≤ e
  most : e ≤ 971
  full : m.log2 = 52 ∨ e = -1074

/-! ## Packing -/

/-- The first digit of a mantissa is not packed. -/
theorem toNat_one_append
    (mantissa : BitVec Format.binary64.mantissaBitsWithoutImplicit) :
    (1#1 ++ mantissa).toNat = 2 ^ 52 + mantissa.toNat := by
  rw [BitVec.toNat_append, Nat.shiftLeft_eq]
  exact (Nat.two_pow_add_eq_or_of_lt mantissa.isLt 1).symm

/-- What is unpacked is in canonical form. -/
theorem canonical_of_unpack {b : BitVec Format.binary64.numBits}
    {sign : Sign} {m : ℕ} {e : ℤ} {hm : 0 < m}
    (h : unpack Format.binary64 b = .finite sign m e hm) : Canonical m e := by
  have hbits := log2_unpack h
  unfold unpack at h
  dsimp only at h
  rw [exponentBias_add] at h
  obtain ⟨-, h⟩ | ⟨hall, h⟩ := ite_eq_iff.mp h
  · obtain ⟨-, h⟩ | ⟨-, h⟩ := ite_eq_iff.mp h <;> cases h
  obtain ⟨hleast, h⟩ | ⟨habove, h⟩ := ite_eq_iff.mp h
  · obtain ⟨hzero, h⟩ | ⟨hfilled, h⟩ := dite_eq_iff.mp h
    · cases h
    · rw [hleast] at h
      cases h
      exact ⟨hbits, by decide, by decide, Or.inr rfl⟩
  · cases h
    have hpos : (unpackExponent b).toNat ≠ 0 :=
      fun heq => habove (BitVec.eq_of_toNat_eq heq)
    have hlt : (unpackExponent b).toNat < 2047 := by
      have hbound : (unpackExponent b).toNat < 2048 := (unpackExponent b).isLt
      have hne : (unpackExponent b).toNat ≠ 2047 :=
        fun heq => hall (BitVec.eq_of_toNat_eq heq)
      omega
    refine ⟨hbits, by omega, by omega, Or.inl ?_⟩
    have hfull := toNat_one_append (unpackMantissa b)
    have hne : (1#1 ++ unpackMantissa b).toNat ≠ 0 := Nat.ne_of_gt hm
    exact (Nat.log2_eq_iff hne).mpr
      ⟨by omega, (Nat.log2_lt hne).mp (Nat.lt_succ_of_le hbits)⟩

/-- A mantissa with all its digits is unpacked with the first. -/
theorem valueOf_unpack_full {b : BitVec Format.binary64.numBits}
    (hfinite : unpackExponent b ≠ -BitVec.ofNat Format.binary64.exponentBits 1)
    (habove : unpackExponent b ≠ BitVec.ofNat Format.binary64.exponentBits 0) :
    valueOf (unpack Format.binary64 b) =
      some (((Sign.ofBitVec (unpackSign b)).apply
        ((2 ^ 52 + (unpackMantissa b).toNat : ℕ) : ℤ) : ℤ) *
        (2 : ℚ) ^ (((unpackExponent b).toNat : ℤ) - 1075)) := by
  unfold unpack
  dsimp only
  rw [if_neg hfinite, if_neg habove, exponentBias_add,
    valueOf, toNat_one_append]

/-- Any other mantissa has the least exponent. -/
theorem valueOf_unpack_least {b : BitVec Format.binary64.numBits}
    (hleast : unpackExponent b = BitVec.ofNat Format.binary64.exponentBits 0)
    (hfilled : unpackMantissa b ≠
      BitVec.ofNat Format.binary64.mantissaBitsWithoutImplicit 0) :
    valueOf (unpack Format.binary64 b) =
      some (((Sign.ofBitVec (unpackSign b)).apply
        ((unpackMantissa b).toNat : ℤ) : ℤ) * (2 : ℚ) ^ (-1074 : ℤ)) := by
  have hfinite : unpackExponent b ≠
      -BitVec.ofNat Format.binary64.exponentBits 1 := by
    rw [hleast]
    decide
  unfold unpack
  dsimp only
  rw [if_neg hfinite, if_pos hleast, dif_neg hfilled,
    hleast, exponentBias_add, valueOf]
  rfl

/-- **What is in canonical form is packed and unpacked as it is.** -/
theorem Canonical.valueOf_unpack_pack {m : ℕ} {e : ℤ} (h : Canonical m e)
    (sign : Sign) (hm : 0 < m) :
    valueOf (Float.Model.pack (.finite sign m e hm)).unpack =
      some ((sign.apply (m : ℤ) : ℤ) * (2 : ℚ) ^ e) := by
  obtain ⟨hbits, hleast, hmost, hfull⟩ := h
  show valueOf
      (unpack Format.binary64 (pack Format.binary64 (.finite sign m e hm))) = _
  have hlt : m < 2 ^ 53 :=
    (Nat.log2_lt (Nat.ne_of_gt hm)).mp (Nat.lt_succ_of_le hbits)
  unfold pack
  dsimp only
  rw [Int.add_assoc, exponentBias_add, if_neg (by simp; omega)]
  by_cases hlog : m.log2 = 52
  · have hge : 2 ^ 52 ≤ m := ((Nat.log2_eq_iff (Nat.ne_of_gt hm)).mp hlog).1
    have hmantissa : 2 ^ 52 + (BitVec.ofNat
        Format.binary64.mantissaBitsWithoutImplicit m).toNat = m := by
      show 2 ^ 52 + m % 2 ^ 52 = m
      omega
    obtain ⟨biased, rfl⟩ : ∃ biased : ℕ, e = biased - 1075 :=
      ⟨(e + 1075).toNat, by omega⟩
    have hbiased : ((biased : ℤ) - 1075 + 1075).toNat = biased := by omega
    have hnat :
        (BitVec.ofNat Format.binary64.exponentBits biased).toNat = biased :=
      Nat.mod_eq_of_lt (show biased < 2048 by omega)
    have hfinite : BitVec.ofNat Format.binary64.exponentBits biased ≠
        -BitVec.ofNat _ 1 := by
      intro heq
      have hones : (-BitVec.ofNat Format.binary64.exponentBits 1).toNat =
          2047 := by decide
      rw [← heq, hnat] at hones
      omega
    have habove : BitVec.ofNat Format.binary64.exponentBits biased ≠
        BitVec.ofNat _ 0 := by
      intro heq
      have hzero : biased = 0 := hnat.symm.trans (congrArg BitVec.toNat heq)
      omega
    rw [if_pos (by rw [hlog]; rfl),
      hbiased, valueOf_unpack_full (by rwa [unpackExponent_packComponents])
        (by rwa [unpackExponent_packComponents]), unpackSign_packComponents,
      unpackExponent_packComponents, unpackMantissa_packComponents,
      Sign.ofBitVec_toBitVec, hmantissa, hnat]
  · obtain rfl : e = -1074 := hfull.resolve_left hlog
    have hshort : ¬ m.log2 + 1 = Format.binary64.mantissaBits :=
      fun heq => hlog (Nat.add_right_cancel heq)
    have hmantissa :
        (BitVec.ofNat Format.binary64.mantissaBitsWithoutImplicit m).toNat = m :=
      Nat.mod_eq_of_lt
        ((Nat.log2_lt (Nat.ne_of_gt hm)).mp (show m.log2 < 52 by omega))
    have hfilled : BitVec.ofNat Format.binary64.mantissaBitsWithoutImplicit m ≠
        BitVec.ofNat _ 0 := by
      intro heq
      have hzero : m = 0 := hmantissa.symm.trans (congrArg BitVec.toNat heq)
      omega
    rw [if_neg hshort, valueOf_unpack_least (unpackExponent_packComponents)
        (by rwa [unpackMantissa_packComponents]), unpackSign_packComponents,
          unpackMantissa_packComponents,
      Sign.ofBitVec_toBitVec, hmantissa]

/-! ## Rounding -/

/-- Zeros are shifted out without a trace. -/
theorem shiftRight_mul_two_pow (m k : ℕ) :
    (⟨m * 2 ^ k, false, false⟩ : ExtendedMantissa) >>> k =
      ⟨m, false, false⟩ := by
  show k.repeat ExtendedMantissa.shiftRightOne ⟨m * 2 ^ k, false, false⟩ = _
  induction k generalizing m with
  | zero => rw [pow_zero, mul_one]; rfl
  | succ k ih =>
      rw [pow_succ', ← mul_assoc, Nat.repeat, ih]
      simp [ExtendedMantissa.shiftRightOne]

/-- A number is shifted to a mantissa and an exponent as floats have them. -/
theorem shiftToTargetExponent_eq {m n : ℕ} {e t : ℤ} (hle : e ≤ t) (hm : m ≠ 0)
    (hn : n ≠ 0) (h : (m : ℚ) * 2 ^ e = n * 2 ^ t)
    (htarget : max (n.log2 + t - 52) (-1074) = t) :
    shiftToTargetExponent Format.binary64 m e .exact =
      (⟨n, false, false⟩, t) := by
  have htarget : Format.binary64.targetExponent (totalExponent m e) = t := by
    rw [targetExponent_eq, log2_add_eq hm hn h, htarget]
  rw [shiftToTargetExponent, htarget, mantissa_eq hle h, shiftToExponent]
  refine Prod.ext (shiftRight_mul_two_pow n _) ?_
  show e + ((t - e).toNat : ℤ) = t
  omega

/-- Putting zeros in does not change a number. -/
theorem decreaseExponent_eq (m : ℕ) (e t : ℤ) :
    ((decreaseExponent m e t).1 : ℚ) * 2 ^ (decreaseExponent m e t).2 =
      m * 2 ^ e ∧
      (decreaseExponent m e t).2 = min e t := by
  unfold decreaseExponent
  dsimp only
  generalize hk : (e - t).toNat = k
  refine ⟨?_, by omega⟩
  rw [Nat.shiftLeft_eq, Nat.cast_mul, Nat.cast_pow, Nat.cast_ofNat,
    ← zpow_natCast, mul_assoc, ← zpow_add₀ (by norm_num), add_sub_cancel]

/-- **Rounding a number that has 53 bits** gives the number. -/
theorem round_eq_of_value_eq {m n : ℕ} {e f : ℤ} (sign : Sign)
    (hm : m ≠ 0) (hn : n < 2 ^ 53) (hleast : -1074 ≤ f) (hmost : f ≤ 971)
    (h : (m : ℚ) * 2 ^ e = n * 2 ^ f) :
    ∃ (k : ℕ) (t : ℤ) (hk : 0 < k), UnpackedFloat.round
      Format.binary64 sign m e = .finite sign k t hk ∧ Canonical k t ∧
      (k : ℚ) * 2 ^ t = m * 2 ^ e := by
  have hn0 : n ≠ 0 := by
    rintro rfl
    have hpos : (0 : ℚ) < m * 2 ^ e := by positivity
    rw [h] at hpos
    simp at hpos
  have hbits : n.log2 ≤ 52 := Nat.le_of_lt_succ ((Nat.log2_lt hn0).mpr hn)
  have hlog := log2_add_eq hm hn0 h
  obtain ⟨t, ht⟩ : ∃ t, t = max ((m.log2 : ℤ) + e - 52) (-1074) := ⟨_, rfl⟩
  have hle : t ≤ f := by omega
  -- The mantissa at the target exponent: that of 53 bits, with zeros put in.
  obtain ⟨k, hk⟩ : ∃ k, k = n * 2 ^ (f - t).toNat := ⟨_, rfl⟩
  have hk0 : k ≠ 0 := by
    rw [hk]
    positivity
  have hvalue : (k : ℚ) * 2 ^ t = m * 2 ^ e := by
    rw [h, hk, Nat.cast_mul, Nat.cast_pow, Nat.cast_ofNat, ← zpow_natCast,
      Int.toNat_of_nonneg (by omega), mul_assoc, ← zpow_add₀ (by norm_num),
      sub_add_cancel]
  have hlogk := log2_add_eq hk0 hm hvalue
  have htarget : max ((k.log2 : ℤ) + t - 52) (-1074) = t := by omega
  have hcanonical : Canonical k t := ⟨by omega, by omega, by omega, by omega⟩
  refine ⟨k, t, Nat.pos_of_ne_zero hk0, ?_, hcanonical, hvalue⟩
  obtain ⟨hsame, hlowered⟩ := decreaseExponent_eq m e t
  unfold UnpackedFloat.round
  rw [targetExponent_eq, ← ht]
  dsimp only
  generalize decreaseExponent m e t = lowered at hsame hlowered
  have hbelow : lowered.2 ≤ t := hlowered ▸ min_le_right e t
  have hfilled : lowered.1 ≠ 0 := by
    intro hzero
    have hpos : (0 : ℚ) < m * 2 ^ e := by positivity
    rw [← hsame, hzero] at hpos
    simp at hpos
  have hfirst := shiftToTargetExponent_eq hbelow hfilled
      hk0 (hsame.trans hvalue.symm) htarget
  have hsecond := shiftToTargetExponent_eq le_rfl hk0 hk0 rfl htarget
  have hround : (⟨k, false, false⟩ : ExtendedMantissa).roundedMantissa = k :=
    rfl
  unfold roundWithAccuracy
  simp only [hfirst, hround, hsecond, dif_neg hk0]

/-- Whether a number has 53 bits. -/
def Short (q : ℚ) : Prop :=
  ∃ (n : ℤ) (f : ℤ), n.natAbs < 2 ^ 53 ∧ -1074 ≤ f ∧ f ≤ 971 ∧ q = n * 2 ^ f

/-- What is packed of a normalized number of 53 bits is the number. -/
theorem valueOf_normalize {m e : ℤ} (zeroSign : Sign)
    (h : Short ((m : ℚ) * 2 ^ e)) :
    valueOf (Float.Model.pack
      (UnpackedFloat.normalize Format.binary64 m e zeroSign)).unpack =
      some ((m : ℚ) * 2 ^ e) := by
  obtain ⟨n, f, hn, hleast, hmost, heq⟩ := h
  have habs : (m.natAbs : ℚ) * 2 ^ e = n.natAbs * 2 ^ f := by
    have h : |(m : ℚ) * 2 ^ e| = |(n : ℚ) * 2 ^ f| := congrArg (|·|) heq
    rwa [abs_mul, abs_mul, abs_of_pos (show (0 : ℚ) < 2 ^ e by positivity),
      abs_of_pos (show (0 : ℚ) < 2 ^ f by positivity), ← Int.cast_abs,
      ← Int.cast_abs, ← Nat.cast_natAbs, ← Nat.cast_natAbs] at h
  have hround : ∀ sign : Sign, sign.apply (m.natAbs : ℤ) = m → m ≠ 0 →
      valueOf (Float.Model.pack
        (UnpackedFloat.round Format.binary64 sign m.natAbs e)).unpack =
        some ((m : ℚ) * 2 ^ e) := by
    intro sign hsign hm
    obtain ⟨k, t, hk, hrounded, hcanonical, hvalue⟩ :=
      round_eq_of_value_eq sign (Int.natAbs_ne_zero.mpr hm) hn hleast hmost habs
    rw [hrounded, hcanonical.valueOf_unpack_pack sign hk, ← hsign]
    cases sign with
    | positive => exact congrArg some hvalue
    | negative =>
        have hneg : ∀ j : ℕ, (Sign.negative.apply (j : ℤ) : ℤ) = -(j : ℤ) :=
          fun _ => rfl
        rw [hneg, hneg, Int.cast_neg, Int.cast_neg, neg_mul, neg_mul]
        exact congrArg (some ∘ Neg.neg) hvalue
  unfold UnpackedFloat.normalize
  split
  next hlt =>
    have hneg : m < 0 := Std.compare_eq_lt.mp hlt
    have hnat : (-m).toNat = m.natAbs := by omega
    rw [hnat]
    refine hround .negative ?_ (by omega)
    show -(m.natAbs : ℤ) = m
    omega
  next hzero =>
    obtain rfl : m = 0 := Std.compare_eq_iff_eq.mp hzero
    rw [Int.cast_zero, zero_mul]
    cases zeroSign <;> rfl
  next hgt =>
    have hpos : 0 < m := Std.compare_eq_gt.mp hgt
    have hnat : m.toNat = m.natAbs := by omega
    rw [hnat]
    refine hround .positive ?_ (by omega)
    show (m.natAbs : ℤ) = m
    omega

/-! ## Numbers with a float -/

/-- **A float that denotes a number** is a zero, or a mantissa and an
exponent. -/
theorem unpack_cases {x : Float} {q : ℚ} (h : value? x = some q) :
    (∃ sign, x.toModel.unpack = .zero sign ∧ q = 0) ∨
      ∃ sign m e, ∃ hm : 0 < m, x.toModel.unpack = .finite sign m e hm ∧
        Canonical m e ∧
        q = (sign.apply (m : ℤ) : ℤ) * 2 ^ e := by
  unfold value? at h
  cases hunpack : x.toModel.unpack with
  | infinity sign => rw [hunpack] at h; cases h
  | notANumber => rw [hunpack] at h; cases h
  | zero sign =>
      rw [hunpack] at h
      exact Or.inl ⟨sign, rfl, (Option.some.inj h).symm⟩
  | finite sign m e hm =>
      rw [hunpack] at h
      exact Or.inr ⟨sign, m, e, hm, rfl, canonical_of_unpack hunpack,
        (Option.some.inj h).symm⟩

/-- What a float denotes has 53 bits. -/
theorem short_of_value? {x : Float} {q : ℚ} (h : value? x = some q) :
    Short q := by
  rcases unpack_cases h with
      ⟨sign, -, rfl⟩ | ⟨sign, m, e, hm, -, hcanonical, rfl⟩
  · exact ⟨0, 0, by decide, by decide, by decide, by simp⟩
  · have hlt : m < 2 ^ 53 :=
      (Nat.log2_lt (Nat.ne_of_gt hm)).mp (Nat.lt_succ_of_le hcanonical.bits)
    have habs : (sign.apply (m : ℤ)).natAbs = m := by
      cases sign <;> simp [Sign.apply]
    exact ⟨sign.apply (m : ℤ), e,
      by rwa [habs], hcanonical.least, hcanonical.most, rfl⟩

/-- **A number has a float** when it has 53 bits. -/
theorem representable_iff {q : ℚ} : Representable q ↔ Short q := by
  constructor
  · rintro ⟨x, hx⟩
    exact short_of_value? hx
  · intro h
    obtain ⟨n, f, -, -, -, rfl⟩ := id h
    exact ⟨⟨Float.Model.pack (UnpackedFloat.normalize
      Format.binary64 n f .positive)⟩, valueOf_normalize .positive h⟩

/-- **There is a float for every integer up to `2 ^ 53`.** -/
theorem representable_intCast {n : ℤ} (h : n.natAbs ≤ 2 ^ 53) :
    Representable n := by
  rw [representable_iff]
  by_cases hlt : n.natAbs < 2 ^ 53
  · exact ⟨n, 0, hlt, by decide, by decide, by simp⟩
  · refine ⟨n / 2, 1, by omega, by decide, by decide, ?_⟩
    have heven : n = n / 2 * 2 := by omega
    calc (n : ℚ) = ((n / 2 * 2 : ℤ) : ℚ) := congrArg _ heven
      _ = (n / 2 : ℤ) * 2 ^ (1 : ℤ) := by rw [Int.cast_mul, zpow_one]; rfl

/-! ## Sums and differences -/

/-- What is lowered to a smaller exponent keeps its sign and value. -/
theorem apply_decreaseExponent (sign : Sign) (m : ℕ) {e t : ℤ} (hle : t ≤ e) :
    ((sign.apply ((decreaseExponent m e t).1 : ℤ) : ℤ) : ℚ) * 2 ^ t =
      (sign.apply (m : ℤ) : ℤ) * 2 ^ e := by
  obtain ⟨hsame, hlowered⟩ := decreaseExponent_eq m e t
  rw [hlowered, min_eq_right hle] at hsame
  cases sign with
  | positive => exact hsame
  | negative =>
      have hneg : ∀ j : ℕ, (Sign.negative.apply (j : ℤ) : ℤ) = -(j : ℤ) :=
        fun _ => rfl
      rw [hneg, hneg, Int.cast_neg, Int.cast_neg, neg_mul, neg_mul]
      exact congrArg Neg.neg hsame

/-- **A sum that has a float is that float.** -/
theorem value?_add {x y : Float} {p q : ℚ} (hx : value? x = some p)
    (hy : value? y = some q) (hsum : Representable (p + q)) :
    value? (x + y) = some (p + q) := by
  have hshort := representable_iff.mp hsum
  show valueOf (Float.Model.pack (UnpackedFloat.add
      Format.binary64 x.toModel.unpack y.toModel.unpack)).unpack = _
  rcases unpack_cases hx with
      ⟨sign, hxs, rfl⟩ | ⟨sign, m, e, hm, hxs, hxc, rfl⟩ <;>
    rcases unpack_cases hy with ⟨sign', hys, rfl⟩ | ⟨sign',
        m', e', hm', hys, hyc, rfl⟩ <;> rw [hxs, hys]
  · rw [add_zero]
    cases sign <;> cases sign' <;> rfl
  · rw [zero_add]
    exact hyc.valueOf_unpack_pack sign' hm'
  · rw [add_zero]
    exact hxc.valueOf_unpack_pack sign hm
  · have hvalue :=
      congrArg₂ (· + ·) (apply_decreaseExponent sign m (min_le_left e e'))
        (apply_decreaseExponent sign' m' (min_le_right e e'))
    simp only [← add_mul, ← Int.cast_add] at hvalue
    rw [← hvalue] at hshort ⊢
    exact valueOf_normalize .positive hshort

/-- **A difference that has a float is that float.** -/
theorem value?_sub {x y : Float} {p q : ℚ} (hx : value? x = some p)
    (hy : value? y = some q) (hdiff : Representable (p - q)) :
    value? (x - y) = some (p - q) := by
  have hshort := representable_iff.mp hdiff
  show valueOf (Float.Model.pack (UnpackedFloat.sub
      Format.binary64 x.toModel.unpack y.toModel.unpack)).unpack = _
  rcases unpack_cases hx with
      ⟨sign, hxs, rfl⟩ | ⟨sign, m, e, hm, hxs, hxc, rfl⟩ <;>
    rcases unpack_cases hy with ⟨sign', hys, rfl⟩ | ⟨sign',
        m', e', hm', hys, hyc, rfl⟩ <;> rw [hxs, hys]
  · rw [sub_zero]
    cases sign <;> cases sign' <;> rfl
  · rw [zero_sub, ← neg_mul]
    have hneg : -((sign'.apply (m' : ℤ) : ℤ) : ℚ) =
        ((-sign').apply (m' : ℤ) : ℤ) := by
      cases sign' with
      | positive => rfl
      | negative => exact neg_eq_iff_eq_neg.mpr rfl
    rw [hneg]
    exact hyc.valueOf_unpack_pack (-sign') hm'
  · rw [sub_zero]
    exact hxc.valueOf_unpack_pack sign hm
  · have hvalue :=
      congrArg₂ (· - ·) (apply_decreaseExponent sign m (min_le_left e e'))
        (apply_decreaseExponent sign' m' (min_le_right e e'))
    simp only [← sub_mul, ← Int.cast_sub] at hvalue
    rw [← hvalue] at hshort ⊢
    exact valueOf_normalize .positive hshort

theorem isFinite_of_value? {x : Float} {q : ℚ} (h : value? x = some q) :
    x.isFinite = true := by
  show x.toModel.unpack.isFinite = true
  rcases unpack_cases h with
      ⟨sign, hunpack, -⟩ | ⟨sign, m, e, hm, hunpack, -⟩ <;> rw [hunpack] <;> rfl

end ServiceLoom.Decimal
