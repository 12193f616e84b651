import ServiceLoom.Decimal.Word64
import Mathlib.Logic.Basic

/-!
# Integers as floats

An integer of 64 bits has a nearest float, and that is finite, for a float can
be as large as `2 ^ 1024`.  What decides it is the exponent, so a bound on
exponents is followed through everything that a conversion does: rounding
(`exponent_roundWithAccuracy`), multiplying (`exponent_mul`), and packing into
64 bits and unpacking (`exponent_unpack_pack`).  The bounds are generous, for
there is a lot of room.
-/

namespace ServiceLoom.Decimal

open Float.Model (UnpackedFloat Format totalExponent)
open Float.Model.UnpackedFloat

/-! ## Logarithms of mantissas -/

theorem log2_le_of_lt {n : Nat} (h : n < Word64.bound) : n.log2 ≤ 63 := by
  by_cases hz : n = 0
  · rw [hz]
    exact Nat.zero_le _
  · exact Nat.le_of_lt_succ ((Nat.log2_lt hz).mpr h)

theorem log2_le_of_le_succ {m n k : Nat} (h : n ≤ m + 1) (hm : m.log2 ≤ k) :
    n.log2 ≤ k + 1 := by
  by_cases hn : n = 0
  · rw [hn]
    exact Nat.zero_le _
  by_cases hz : m = 0
  · obtain rfl : n = 1 := by omega
    exact Nat.zero_le _
  have hlt : m < 2 ^ (k + 1) := (Nat.log2_lt hz).mp (Nat.lt_succ_of_le hm)
  refine Nat.le_of_lt_succ ((Nat.log2_lt hn).mpr ?_)
  rw [Nat.pow_succ]
  omega

theorem log2_mul_le {m n j k : Nat} (hm : m.log2 ≤ j) (hn : n.log2 ≤ k) :
    (m * n).log2 ≤ j + k + 1 := by
  by_cases hz : m * n = 0
  · rw [hz]
    exact Nat.zero_le _
  · have hm' : m < 2 ^ (j + 1) :=
      (Nat.log2_lt (Nat.ne_zero_of_mul_ne_zero_left hz)).mp
        (Nat.lt_succ_of_le hm)
    have hn' : n < 2 ^ (k + 1) :=
      (Nat.log2_lt (Nat.ne_zero_of_mul_ne_zero_right hz)).mp
        (Nat.lt_succ_of_le hn)
    refine Nat.le_of_lt_succ ((Nat.log2_lt hz).mpr ?_)
    calc
      m * n < 2 ^ (j + 1) * 2 ^ (k + 1) := Nat.mul_lt_mul'' hm' hn'
      _ = 2 ^ (j + 1 + (k + 1)) := (Nat.pow_add ..).symm
      _ = 2 ^ (j + k + 1 + 1) := congrArg _ (by omega)

theorem log2_shiftLeft_le {m s j k : Nat} (hm : m.log2 ≤ j) (hs : s ≤ k) :
    (m <<< s).log2 ≤ j + k + 1 := by
  rw [Nat.shiftLeft_eq]
  refine log2_mul_le hm ?_
  rw [Nat.log2_two_pow]
  exact hs

theorem log2_toNat_le {w k : Nat} (b : BitVec w) (h : w ≤ k + 1) :
    b.toNat.log2 ≤ k := by
  by_cases hz : b.toNat = 0
  · rw [hz]
    exact Nat.zero_le _
  · exact Nat.le_of_lt_succ ((Nat.log2_lt hz).mpr
      (Nat.lt_of_lt_of_le b.isLt (Nat.pow_le_pow_right (by decide) h)))

/-! ## Bounds on exponents -/

/-- A number that is finite, with a bound on its exponent. -/
inductive ExponentAtMost (top : Int) : UnpackedFloat → Prop where
  | zero (sign : Sign) : ExponentAtMost top (.zero sign)
  | finite {sign : Sign} {m : Nat} {e : Int} {hm : 0 < m} (h : e ≤ top) :
      ExponentAtMost top (.finite sign m e hm)

namespace ExponentAtMost

variable {top other : Int} {u : UnpackedFloat}

theorem isFinite (h : ExponentAtMost top u) : u.isFinite = true := by
  cases h <;> rfl

theorem mono (h : ExponentAtMost top u) (hle : top ≤ other) :
    ExponentAtMost other u := by
  cases h with
  | zero sign => exact .zero sign
  | finite h => exact .finite (Int.le_trans h hle)

theorem neg (h : ExponentAtMost top u) : ExponentAtMost top u.neg := by
  cases h with
  | zero sign => exact .zero _
  | finite h => exact .finite h

end ExponentAtMost

/-! ## Rounding -/

theorem mantissa_shiftRight_le (em : ExtendedMantissa) (n : Nat) :
    (em >>> n).mantissa ≤ em.mantissa := by
  show (n.repeat ExtendedMantissa.shiftRightOne em).mantissa ≤ em.mantissa
  induction n with
  | zero => exact Nat.le_refl _
  | succ n ih => exact Nat.le_trans (Nat.div_le_self _ 2) ih

theorem mantissa_ofMantissaAndAccuracy (m : Nat) (accuracy : Accuracy) :
    (ExtendedMantissa.ofMantissaAndAccuracy m accuracy).mantissa = m := by
  unfold ExtendedMantissa.ofMantissaAndAccuracy
  split <;> rfl

theorem roundedMantissa_le (em : ExtendedMantissa) :
    em.roundedMantissa ≤ em.mantissa + 1 := by
  unfold ExtendedMantissa.roundedMantissa Accuracy.roundToNearestEven
  split <;> omega

/-- Shifting drops bits of the mantissa and raises the exponent as far as
needed. -/
theorem shiftToTargetExponent_le (m : Nat) (e : Int) (accuracy : Accuracy) :
    (shiftToTargetExponent Format.binary64 m e accuracy).1.mantissa ≤ m ∧
      (shiftToTargetExponent Format.binary64 m e accuracy).2 =
        max e (max (m.log2 + 1 + e - 53) (-1074)) := by
  constructor
  · have h :=
      mantissa_shiftRight_le (ExtendedMantissa.ofMantissaAndAccuracy m accuracy)
        (Format.binary64.targetExponent (totalExponent m e) - e).toNat
    rwa [mantissa_ofMantissaAndAccuracy] at h
  · have htarget : Format.binary64.targetExponent (totalExponent m e) =
        max (m.log2 + 1 + e - 53) (-1074) := rfl
    show e + ((Format.binary64.targetExponent
        (totalExponent m e) - e).toNat : Int) = _
    rw [htarget]
    omega

/-- **Rounding** shifts twice, and each time raises the exponent by no more than
the mantissa has bits. -/
theorem exponent_roundWithAccuracy {m k : Nat} {e top : Int} (hm : m.log2 ≤ k)
    (he : e ≤ top) (hlow : -1074 ≤ top) (sign : Sign) (accuracy : Accuracy) :
    ExponentAtMost (top + 2 * k + 2)
      (roundWithAccuracy Format.binary64 sign m e accuracy) := by
  obtain ⟨hm₁, he₁⟩ := shiftToTargetExponent_le m e accuracy
  unfold roundWithAccuracy
  generalize shiftToTargetExponent Format.binary64 m e accuracy =
      first at hm₁ he₁
  obtain ⟨em₁, e₁⟩ := first
  obtain ⟨-, he₂⟩ := shiftToTargetExponent_le em₁.roundedMantissa e₁ .exact
  have hrounded := log2_le_of_le_succ
      (Nat.le_trans (roundedMantissa_le em₁) (Nat.succ_le_succ hm₁)) hm
  dsimp only at he₁ he₂ ⊢
  generalize shiftToTargetExponent Format.binary64
      em₁.roundedMantissa e₁ .exact = second at he₂ ⊢
  obtain ⟨em₂, e₂⟩ := second
  by_cases hzero : em₂.mantissa = 0
  · rw [dif_pos hzero]
    exact .zero _
  · rw [dif_neg hzero]
    refine .finite ?_
    dsimp only at he₂ ⊢
    omega

/-! ## Multiplying -/

theorem exponent_mul_finite {sign sign' : Sign} {m n : Nat} {e f : Int}
    {hm : 0 < m} {hn : 0 < n} (j k : Nat) (top : Int) (hj : m.log2 ≤ j)
    (hk : n.log2 ≤ k) (htop : e + f ≤ top) (hlow : -1074 ≤ top) :
    ExponentAtMost (top + 2 * (j + k + 1 : Nat) + 2)
      (mul Format.binary64 (.finite sign m e hm) (.finite sign' n f hn)) :=
  exponent_roundWithAccuracy (log2_mul_le hj hk) htop hlow _ _

/-- **A product is bounded when its factors are.** -/
theorem exponent_mul {u v : UnpackedFloat}
    {top other : Int} (hu : ExponentAtMost top u) (hv : ExponentAtMost other v)
    {j k : Nat} (hj : ∀ s m e h, u = .finite s m e h → m.log2 ≤ j)
    (hk : ∀ s m e h, v = .finite s m e h → m.log2 ≤ k)
    (hlow : -1074 ≤ top + other) :
    ExponentAtMost (top + other + 2 * (j + k + 1 : Nat) + 2)
      (mul Format.binary64 u v) := by
  cases hu with
  | zero sign =>
      cases hv with
      | zero sign' => exact .zero _
      | finite hf => exact .zero _
  | finite he =>
      cases hv with
      | zero sign' => exact .zero _
      | finite hf =>
          exact exponent_mul_finite j k _ (hj _ _ _ _ rfl)
            (hk _ _ _ _ rfl) (Int.add_le_add he hf) hlow

/-! ## Packing -/

theorem exponentBias_add :
    (Format.binary64.exponentBias : Int) +
      Format.binary64.mantissaBitsWithoutImplicit = 1075 := by
  decide

/-- The mantissa of a float has 53 bits. -/
theorem log2_unpack {b : BitVec Format.binary64.numBits}
    {sign : Sign} {m : Nat} {e : Int} {hm : 0 < m}
    (h : unpack Format.binary64 b = .finite sign m e hm) : m.log2 ≤ 52 := by
  unfold unpack at h
  dsimp only at h
  obtain ⟨-, h⟩ | ⟨-, h⟩ := ite_eq_iff.mp h
  · obtain ⟨-, h⟩ | ⟨-, h⟩ := ite_eq_iff.mp h <;> cases h
  obtain ⟨-, h⟩ | ⟨-, h⟩ := ite_eq_iff.mp h
  · obtain ⟨hzero, h⟩ | ⟨hfilled, h⟩ := dite_eq_iff.mp h
    · cases h
    · cases h
      exact log2_toNat_le _ (by decide)
  · cases h
    exact log2_toNat_le _ (by decide)

/-- The bits of the exponent are what it is above the least one. -/
theorem exponent_unpack
    {top : Int} {b : BitVec Format.binary64.numBits} (hlow : -1074 ≤ top)
    (hfinite : unpackExponent b ≠ -BitVec.ofNat Format.binary64.exponentBits 1)
    (htop : ((unpackExponent b).toNat : Int) - 1075 ≤ top) :
    ExponentAtMost top (unpack Format.binary64 b) := by
  unfold unpack
  dsimp only
  rw [if_neg hfinite]
  by_cases hleast : unpackExponent b =
    BitVec.ofNat Format.binary64.exponentBits 0
  · rw [if_pos hleast]
    by_cases hzero : unpackMantissa b =
      BitVec.ofNat Format.binary64.mantissaBitsWithoutImplicit 0
    · rw [dif_pos hzero]
      exact .zero _
    · rw [dif_neg hzero]
      refine .finite ?_
      rw [hleast, exponentBias_add]
      exact hlow
  · rw [if_neg hleast]
    refine .finite ?_
    rw [exponentBias_add]
    exact htop

/-- What is packed with an exponent below that of infinity has it when it is
unpacked, or the least one. -/
theorem exponent_unpack_packComponents {top : Int} {sign : Sign} {biased : Nat}
    {mantissa : BitVec Format.binary64.mantissaBitsWithoutImplicit}
    (hlow : -1074 ≤ top) (hbiased : biased < 2047)
    (htop : (biased : Int) - 1075 ≤ top) :
    ExponentAtMost top
      (unpack Format.binary64 (packComponents Format.binary64
        sign (BitVec.ofNat _ biased) mantissa)) := by
  have hnat :
      (BitVec.ofNat Format.binary64.exponentBits biased).toNat = biased :=
    Nat.mod_eq_of_lt (Nat.lt_of_lt_of_le hbiased (by decide))
  have hfinite : BitVec.ofNat Format.binary64.exponentBits biased ≠
      -BitVec.ofNat _ 1 := by
    intro heq
    have hall : (-BitVec.ofNat Format.binary64.exponentBits 1).toNat =
        2047 := by decide
    rw [← heq, hnat] at hall
    omega
  refine exponent_unpack hlow ?_ ?_
  · rwa [unpackExponent_packComponents]
  · rwa [unpackExponent_packComponents, hnat]

/-- **Packing keeps a bound on the exponent**, if a float can hold it. -/
theorem exponent_unpack_pack {top : Int} {u : UnpackedFloat}
    (h : ExponentAtMost top u) (hlow : -1074 ≤ top) (hhigh : top < 971) :
    ExponentAtMost top (Float.Model.pack u).unpack := by
  show ExponentAtMost top (unpack Format.binary64 (pack Format.binary64 u))
  have hzero : ∀ (sign : Sign) mantissa, ExponentAtMost top
      (unpack Format.binary64
          (packComponents Format.binary64 sign (BitVec.ofNat _ 0) mantissa)) :=
    fun sign mantissa =>
      exponent_unpack_packComponents hlow (by decide) (by omega)
  cases h with
  | zero sign => exact hzero sign _
  | finite he =>
      unfold pack
      dsimp only
      rw [Int.add_assoc, exponentBias_add, if_neg (by simp; omega)]
      split
      · exact exponent_unpack_packComponents hlow (by omega) (by omega)
      · exact hzero _ _

/-! ## Conversion -/

theorem exponent_normalize {n : Nat} (h : n < Word64.bound) :
    ExponentAtMost 236
      (UnpackedFloat.normalize Format.binary64 n 0 .positive) := by
  unfold UnpackedFloat.normalize
  split
  next hlt =>
    have hneg : (n : Int) < 0 := Std.compare_eq_lt.mp hlt
    omega
  · exact .zero _
  · have htarget : Format.binary64.targetExponent (totalExponent n 0) =
        max ((n.log2 : Int) + 1 + 0 - 53) (-1074) := rfl
    unfold UnpackedFloat.round decreaseExponent
    rw [Int.toNat_natCast, htarget]
    dsimp only
    have hshift : (0 - max ((n.log2 : Int) + 1 + 0 - 53) (-1074)).toNat ≤
        52 := by omega
    have hmantissa := log2_shiftLeft_le (log2_le_of_lt h) hshift
    generalize (0 - max ((n.log2 : Int) + 1 + 0 - 53) (-1074)).toNat =
        shift at hshift hmantissa
    generalize n <<< shift = mantissa at hmantissa
    have hexponent : (0 : Int) - shift ≤ 0 := by omega
    exact (exponent_roundWithAccuracy hmantissa hexponent (by decide) _ _).mono
      (by decide)

/-- A natural number of 64 bits is converted in one of two ways: a small one as
a word that is multiplied by one, a large one as a mantissa. -/
theorem exponent_ofNat {n : Nat} (h : n < Word64.bound) :
    ExponentAtMost 900 (Float.ofNat n).toModel.unpack := by
  show ExponentAtMost 900 (Float.ofScientific n false 0).toModel.unpack
  unfold Float.ofScientific
  split
  next hsmall =>
    have hfactor : ExponentAtMost 236 n.toUInt64.toFloat.toModel.unpack := by
      refine exponent_unpack_pack ?_ (by decide) (by decide)
      have hvalue : n.toUInt64.toNat = n := Nat.mod_eq_of_lt h
      show ExponentAtMost 236 (UnpackedFloat.normalize
          Format.binary64 (n.toUInt64.toNat : Int) 0 .positive)
      rw [hvalue]
      exact exponent_normalize h
    have hone :
        ExponentAtMost 0 (Float.ofBits 0x3FF0000000000000).toModel.unpack := by
      show ExponentAtMost 0 (.finite .positive 4503599627370496 (-52) (by decide))
      exact .finite (by decide)
    have hproduct := exponent_mul hfactor hone (fun _ _ _ _ => log2_unpack)
        (fun _ _ _ _ => log2_unpack) (by decide)
    exact exponent_unpack_pack (hproduct.mono (by decide))
      (by decide) (by decide)
  next hlarge =>
    have hfilled : n ≠ 0 := by
      rintro rfl
      exact hlarge ⟨by decide, by decide⟩
    have hbits : (2 : Int) ^ Format.binary64.exponentBits = 2048 := by decide
    refine exponent_unpack_pack (u := ofScientific Format.binary64 n 0)
      ?_ (by decide) (by decide)
    unfold ofScientific
    rw [dif_neg hfilled, if_neg (by decide), if_neg (by rw [hbits]; omega),
      if_pos (by decide)]
    refine (exponent_mul_finite 117 0 (-53) ?_ ?_ ?_ ?_).mono ?_
    · exact log2_shiftLeft_le (k := 53) (log2_le_of_lt h) (by decide)
    · decide
    · decide
    · decide
    · decide

/-- **An integer of 64 bits is finite as a float.** -/
theorem isFinite_ofInt {n : Int} (h : Word64.least ≤ n ∧ n < Word64.bound) :
    (Float.ofInt n).isFinite = true := by
  cases n with
  | ofNat n =>
      show (Float.ofNat n).toModel.unpack.isFinite = true
      exact (exponent_ofNat (Int.ofNat_lt.mp h.2)).isFinite
  | negSucc n =>
      have hn : n + 1 < Word64.bound := by
        have hleast := h.1
        simp only [Word64.least, Word64.bound] at hleast ⊢
        omega
      show (Float.Model.pack
          (Float.ofNat (n + 1)).toModel.unpack.neg).unpack.isFinite = true
      exact (exponent_unpack_pack (exponent_ofNat hn).neg
        (by decide) (by decide)).isFinite

end ServiceLoom.Decimal
