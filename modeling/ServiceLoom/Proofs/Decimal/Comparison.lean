/-!
# Comparing floats

Not every two floats can be compared: with NaN neither of `x < y` and `y ≤ x`
holds.  Any other two can, and then what is not below is at least as large
(`Decimal.le_of_not_lt`).
-/

namespace ServiceLoom

open Float.Model (UnpackedFloat)

variable {x y : Float}

theorem lt_iff_unpack : x < y ↔
    x.toModel.unpack.lt y.toModel.unpack = true := by
  show decide (x.toModel.unpack.lt y.toModel.unpack = true) = true ↔ _
  exact decide_eq_true_iff

theorem le_iff_unpack : x ≤ y ↔
    x.toModel.unpack.le y.toModel.unpack = true := by
  show decide (x.toModel.unpack.le y.toModel.unpack = true) = true ↔ _
  exact decide_eq_true_iff

/-- Magnitudes that are compared the other way round compare the other way
round. -/
theorem compare_magnitudes_swap (e f : Int) (m n : Nat) :
    (compare f e).then (compare n m) =
      ((compare e f).then (compare m n)).swap := by
  have he : compare f e = (compare e f).swap := Std.OrientedCmp.eq_swap
  have hm : compare n m = (compare m n).swap := Std.OrientedCmp.eq_swap
  rw [Ordering.swap_then, he, hm]

/-- **Floats other than NaN can be compared**, in either order. -/
theorem exists_compare_eq {u v : UnpackedFloat} (hu : u.isNaN = false)
    (hv : v.isNaN = false) :
    ∃ o, u.compare v = some o ∧ v.compare u = some o.swap := by
  cases u with
  | notANumber => cases hu
  | zero s =>
      cases v with
      | notANumber => cases hv
      | zero t => exact ⟨_, rfl, rfl⟩
      | infinity t => cases t <;> exact ⟨_, rfl, rfl⟩
      | finite t n f hn => cases t <;> exact ⟨_, rfl, rfl⟩
  | infinity s =>
      cases v with
      | notANumber => cases hv
      | zero t => cases s <;> exact ⟨_, rfl, rfl⟩
      | infinity t => cases s <;> cases t <;> exact ⟨_, rfl, rfl⟩
      | finite t n f hn => cases s <;> exact ⟨_, rfl, rfl⟩
  | finite s m e hm =>
      cases v with
      | notANumber => cases hv
      | zero t => cases s <;> exact ⟨_, rfl, rfl⟩
      | infinity t => cases t <;> exact ⟨_, rfl, rfl⟩
      | finite t n f hn =>
          -- with one sign the magnitudes decide, and for negative numbers the
          -- other way round
          cases s <;> cases t
          case negative.negative =>
            exact ⟨_, rfl, congrArg (fun o => some (Ordering.swap o))
              (compare_magnitudes_swap e f m n)⟩
          case positive.positive =>
            exact ⟨_, rfl, congrArg some (compare_magnitudes_swap e f m n)⟩
          all_goals exact ⟨_, rfl, rfl⟩

theorem compare_notANumber (u : UnpackedFloat) :
    u.compare .notANumber = none := by
  cases u <;> rfl

/-- Floats that compare are not NaN. -/
theorem not_isNaN_of_compare {u v : UnpackedFloat} {o : Ordering}
    (h : u.compare v = some o) : u.isNaN = false ∧ v.isNaN = false := by
  cases u with
  | notANumber => cases h
  | _ =>
      cases v with
      | notANumber =>
          rw [compare_notANumber] at h
          cases h
      | _ => exact ⟨rfl, rfl⟩

/-- Of two floats that compare neither is NaN. -/
theorem isNaN_of_lt (h : x < y) : x.isNaN = false ∧ y.isNaN = false := by
  rw [lt_iff_unpack, UnpackedFloat.lt, beq_iff_eq] at h
  exact not_isNaN_of_compare h

/-- **What is not below is at least as large**, unless one of the two is NaN. -/
theorem Decimal.le_of_not_lt (hx : x.isNaN = false) (hy : y.isNaN = false)
    (h : ¬ x < y) : y ≤ x := by
  have hx : x.toModel.unpack.isNaN = false := hx
  have hy : y.toModel.unpack.isNaN = false := hy
  obtain ⟨o, hxy, hyx⟩ := exists_compare_eq hx hy
  rw [lt_iff_unpack, UnpackedFloat.lt, hxy] at h
  rw [le_iff_unpack, UnpackedFloat.le, hyx]
  cases o with
  | lt => exact absurd rfl h
  | eq => rfl
  | gt => rfl

/-- What is at least as large is not below. -/
theorem Decimal.not_lt_of_le (h : y ≤ x) : ¬ x < y := by
  rw [le_iff_unpack, UnpackedFloat.le, Option.any_eq_true] at h
  obtain ⟨o, hyx, ho⟩ := h
  obtain ⟨hy, hx⟩ := not_isNaN_of_compare hyx
  obtain ⟨o', hyx', hxy⟩ := exists_compare_eq hy hx
  obtain rfl := Option.some.inj (hyx.symm.trans hyx')
  rw [lt_iff_unpack, UnpackedFloat.lt, hxy]
  cases o with
  | lt => exact nofun
  | eq => exact nofun
  | gt => cases ho

/-- A float other than NaN equals itself. -/
theorem Decimal.beq_self (hx : x.isNaN = false) : (x == x) = true := by
  have hx : x.toModel.unpack.isNaN = false := hx
  obtain ⟨o, hxy, hyx⟩ := exists_compare_eq hx hx
  have hswap : o = o.swap := Option.some.inj (hxy.symm.trans hyx)
  show (x.toModel.unpack.compare x.toModel.unpack == some .eq) = true
  rw [hxy]
  cases o with
  | eq => rfl
  | _ => cases hswap

/-! ## Comparing with zero -/

theorem zero_le_zero : (0 : Float) ≤ 0 := by decide

/-- A finite float is not NaN. -/
theorem isNaN_of_isFinite (hx : x.isFinite = true) : x.isNaN = false := by
  have hfinite : x.toModel.unpack.isFinite = true := hx
  show x.toModel.unpack.isNaN = false
  revert hfinite
  cases x.toModel.unpack with
  | notANumber => exact nofun
  | _ => exact fun _ => rfl

/-- **A finite number that is not below zero is above it, or zero.** -/
theorem zero_le_of_not_lt (hx : x.isFinite = true) (h : ¬ x < 0) : 0 ≤ x :=
  Decimal.le_of_not_lt (isNaN_of_isFinite hx) rfl h

end ServiceLoom
