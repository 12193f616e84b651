import ServiceLoom.Proofs.Decimal.Notation
import ServiceLoom.Record.Basic

/-!
# Texts of numbers

A number of a document is an integer or a float, and one number can be written
as either.  An integer has the text of an integer, and so has a whole float
below `9e15`; every other float has a text with a point or an exponent
(`Number.readsWhole_iff`).  So two numbers have one text exactly when they
denote one number, and are written alike or below `9e15`
(`Number.numberText_eq_iff_value_eq`).
-/

namespace ServiceLoom

namespace Decimal

variable {x y : Float} {q : ℚ}

/-- The first whole float that is not read as an integer. -/
theorem value?_bound : value? 9.0e15 = some (9 * 10 ^ 15) := by decide +kernel

/-- The bound of the floats that are read as integers is a bound of what they
denote. -/
theorem abs_lt_bound_iff (h : value? x = some q) :
    x.abs < 9.0e15 ↔ |q| < 9 * 10 ^ 15 :=
  lt_iff (value?_abs h) value?_bound

/-- Floats that are read alike are written alike. -/
theorem Layout.write_eq_of_reading_eq (l : Layout) (h : reading x = reading y) :
    l.write x = l.write y := by
  rw [write, h, write]

end Decimal

namespace Number

variable {a b : Number}

/-- The number that a number of a document denotes. -/
def value : Number → ℚ
  | integer n _ => n
  | float x _ => (Decimal.value? x).getD 0

/-- Whether a number is written as an integer. -/
def isInteger : Number → Bool
  | integer .. => true
  | float .. => false

/-- A float of a document denotes its number. -/
theorem value?_eq_some {x : Float} (hx : x.isFinite = true) :
    Decimal.value? x = some (float x hx).value := by
  obtain ⟨q, hq⟩ := Decimal.exists_value? hx
  rw [value, hq, Option.getD_some]

/-- A whole number that is read as an integer: it is written as one, or below
`9e15`. -/
def ReadsWhole (a : Number) : Prop :=
  (∃ z : ℤ, a.value = z) ∧ (a.isInteger = true ∨ |a.value| < 9 * 10 ^ 15)

/-- What is read as an integer has the text of that integer. -/
theorem numberText_eq_toString {z : ℤ} (hz : a.value = z) (ha : a.ReadsWhole) :
    Json.numberText a = toString z := by
  cases a with
  | integer n bounds =>
      obtain rfl : n = z := Int.cast_injective hz
      rfl
  | float x hx =>
      have hvalue := value?_eq_some hx
      have hwhole : Decimal.isWhole x = true :=
        (Decimal.isWhole_iff hvalue).mpr ha.1
      have hsmall : x.abs < 9.0e15 :=
        (Decimal.abs_lt_bound_iff hvalue).mpr (ha.2.resolve_left nofun)
      rw [hz] at hvalue
      rw [Json.numberText, hwhole, decide_eq_true hsmall,
        Decimal.nearestInt?_eq hvalue]
      rfl

/-- What is not is a float, and has its text in a document. -/
theorem exists_float_of_not_readsWhole (ha : ¬ a.ReadsWhole) :
    ∃ x hx, a = float x hx ∧
      Json.numberText a = Decimal.documentLayout.write x := by
  cases a with
  | integer n bounds => exact absurd ⟨⟨n, rfl⟩, .inl rfl⟩ ha
  | float x hx =>
      refine ⟨x, hx, rfl, if_neg ?_⟩
      rw [Bool.and_eq_true, decide_eq_true_eq, Decimal.isWhole_iff
          (value?_eq_some hx), Decimal.abs_lt_bound_iff (value?_eq_some hx)]
      exact fun hboth => ha ⟨hboth.1, .inr hboth.2⟩

/-- **The text of an integer** is that of the numbers that are read as
integers. -/
theorem readsWhole_iff : a.ReadsWhole ↔ ∃ z :
    ℤ, Json.numberText a = toString z := by
  constructor
  · intro ha
    obtain ⟨z, hz⟩ := ha.1
    exact ⟨z, numberText_eq_toString hz ha⟩
  · rintro ⟨z, hz⟩
    by_contra ha
    obtain ⟨x, hx, -, htext⟩ := exists_float_of_not_readsWhole ha
    exact Decimal.write_ne_toString hx z (htext.symm.trans hz)

/-- Numbers of one text denote one number, and are written alike or below
`9e15`. -/
theorem value_eq_of_numberText_eq
    (htext : Json.numberText a = Json.numberText b) :
    a.value = b.value ∧
    (a.isInteger = b.isInteger ∨ |a.value| < 9 * 10 ^ 15) := by
  have hwhole : a.ReadsWhole ↔ b.ReadsWhole := by
    rw [readsWhole_iff, readsWhole_iff, htext]
  by_cases ha : a.ReadsWhole
  · have hb := hwhole.mp ha
    obtain ⟨z, hz⟩ := ha.1
    obtain ⟨w, hw⟩ := hb.1
    rw [numberText_eq_toString hz ha, numberText_eq_toString hw hb] at htext
    obtain rfl : z = w := Int.repr_inj.mp htext
    refine ⟨hz.trans hw.symm, ?_⟩
    rcases ha.2 with hinteger | hsmall
    · rcases hb.2 with hinteger' | hsmall
      · exact .inl (hinteger.trans hinteger'.symm)
      · exact .inr (by rwa [hz, ← hw])
    · exact .inr hsmall
  · obtain ⟨x, hx, rfl, hxtext⟩ := exists_float_of_not_readsWhole ha
    obtain ⟨y, hy, rfl, hytext⟩ :=
      exists_float_of_not_readsWhole (mt hwhole.mpr ha)
    have hwrite := hxtext.symm.trans (htext.trans hytext)
    exact ⟨congrArg (·.getD 0)
      (Decimal.Layout.value?_eq_of_write_eq hx hy hwrite), .inl rfl⟩

/-- Numbers that denote one number are read as integers together, if they are
written alike or below `9e15`. -/
theorem readsWhole_congr (hvalue : a.value = b.value)
    (halike : a.isInteger = b.isInteger ∨ |a.value| < 9 * 10 ^ 15) :
    a.ReadsWhole ↔ b.ReadsWhole := by
  unfold ReadsWhole
  rcases halike with hkind | hsmall
  · rw [hvalue, hkind]
  · rw [← hvalue, or_iff_right_of_imp fun _ => hsmall,
      or_iff_right_of_imp fun _ => hsmall]

/-- Zero is read as an integer, with either sign. -/
theorem readsWhole_of_value_eq_zero (hzero : a.value = 0) : a.ReadsWhole :=
  ⟨⟨0, by rw [hzero, Int.cast_zero]⟩, .inr (by rw [hzero]; norm_num)⟩

/-- Numbers that denote one number have one text, if they are written alike or
below `9e15`. -/
theorem numberText_eq_of_value_eq (hvalue : a.value = b.value)
    (halike : a.isInteger = b.isInteger ∨ |a.value| < 9 * 10 ^ 15) :
    Json.numberText a = Json.numberText b := by
  have hwhole := readsWhole_congr hvalue halike
  by_cases ha : a.ReadsWhole
  · obtain ⟨z, hz⟩ := ha.1
    rw [numberText_eq_toString hz ha,
      numberText_eq_toString (hvalue.symm.trans hz) (hwhole.mp ha)]
  · have hzero : a.value ≠ 0 := mt readsWhole_of_value_eq_zero ha
    obtain ⟨x, hx, rfl, hxtext⟩ := exists_float_of_not_readsWhole ha
    obtain ⟨y, hy, rfl, hytext⟩ :=
      exists_float_of_not_readsWhole (mt hwhole.mpr ha)
    rw [hxtext, hytext]
    have hyvalue := value?_eq_some hy
    rw [← hvalue] at hyvalue
    exact Decimal.Layout.write_eq_of_reading_eq _
      (Decimal.reading_eq_of_value?_eq (value?_eq_some hx) hyvalue hzero)

/-- **Two numbers have one text** exactly when they denote one number, and are
written alike or below `9e15`. -/
theorem numberText_eq_iff_value_eq : Json.numberText a = Json.numberText b ↔
    a.value = b.value ∧ (a.isInteger = b.isInteger ∨ |a.value| < 9 * 10 ^ 15) :=
  ⟨value_eq_of_numberText_eq, fun h => numberText_eq_of_value_eq h.1 h.2⟩

/-- Both zeros are read as the integer. -/
example : Json.numberText (.float (-0.0) (by decide)) = "0" ∧
    Json.numberText (.float 0.0 (by decide)) = "0" := by
  decide

end Number

end ServiceLoom
