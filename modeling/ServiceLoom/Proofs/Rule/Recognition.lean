import ServiceLoom.Proofs.Record.NumberText
import ServiceLoom.Rule.Check
import ServiceLoom.Rule.DeleteGuard
import ServiceLoom.Store.Basic

/-!
# Numbers that are taken for one another

Identifiers, unique values, references and options are compared by their texts.
So two numbers are taken for one another exactly when they have one text
(`Json.interchangeable_number_iff`), and this is so for one number that is
written twice as an integer or twice as a float, and for one below `9e15` in any
way (`Number.recognised_iff`).  From `9e15` on a float keeps its fraction or its
exponent, and an integer has neither.
-/

namespace ServiceLoom

/-- Nothing that compares identifiers, unique values, references or options
tells two values apart. -/
structure Json.Interchangeable (v w : Json) : Prop where
  /-- Rows with the values as identifiers have one identifier. -/
  id : ∀ row : Record, Record.id? (row.insert "id" v) =
    Record.id? (row.insert "id" w)
  /-- Either both values are taken or none is. -/
  unique : ∀ (r : FieldRule) mode rows, r.isTaken mode v rows =
    r.isTaken mode w rows
  /-- Rows that hold the values take the same values. -/
  taken : ∀ (r : FieldRule) mode value (row : Record) rest,
    r.isTaken mode value (row.insert r.field v :: rest) =
      r.isTaken mode value (row.insert r.field w :: rest)
  /-- Either both values refer to a row or none does. -/
  reference : ∀ (r : FieldRule) ids, r.referenceViolation? v ids =
    r.referenceViolation? w ids
  /-- Rows that hold the values depend on the same rows. -/
  dependent : ∀ (f : RefField) (row : Record) id,
    f.refers (row.insert f.name v) id = f.refers (row.insert f.name w) id
  /-- Either both values are options or none is. -/
  option : ∀ r : FieldRule, r.optionViolation? v = r.optionViolation? w

/-- The identifier of a row is the text of a number. -/
theorem Record.id?_insert_number (row : Record) (a : Number) :
    Record.id? (row.insert "id" (.number a)) = some (Json.numberText a) := by
  rw [id?, present?, Dict.get?_insert_self]
  rfl

/-- **Numbers are taken for one another** exactly when they have one text. -/
theorem Json.interchangeable_number_iff {a b : Number} :
    (Json.number a).Interchangeable (.number b) ↔
      numberText a = numberText b := by
  constructor
  · intro h
    have hid := h.id []
    rw [Record.id?_insert_number, Record.id?_insert_number] at hid
    exact Option.some.inj hid
  · intro h
    have htext : (Json.number a).plainText = (Json.number b).plainText := h
    have hid : ∀ row : Record, Record.id? (row.insert "id" (.number a)) =
        Record.id? (row.insert "id" (.number b)) :=
      fun row => by rw [Record.id?_insert_number, Record.id?_insert_number, h]
    refine ⟨hid, ?_, ?_, ?_, ?_, ?_⟩
    · intro r mode rows
      rw [FieldRule.isTaken, FieldRule.isTaken, htext]
    · intro r mode value row rest
      have hsame : Record.id? (row.insert r.field (.number a)) =
          Record.id? (row.insert r.field (.number b)) := by
        by_cases hfield : r.field = "id"
        · rw [hfield]
          exact hid row
        · rw [Record.id?, Record.id?, Record.present?,
            Record.present?, Dict.get?_insert_of_ne _ _ (Ne.symm hfield),
            Dict.get?_insert_of_ne _ _ (Ne.symm hfield)]
      rw [FieldRule.isTaken, FieldRule.isTaken, List.any_cons, List.any_cons,
        hsame, Dict.get?_insert_self, Dict.get?_insert_self, Option.map_some,
        Option.map_some, htext]
    · intro r ids
      unfold FieldRule.referenceViolation?
      dsimp only
      rw [htext]
    · intro f row id
      rw [RefField.refers, RefField.refers, Dict.get?_insert_self,
        Dict.get?_insert_self]
      dsimp only
      rw [htext]
    · intro r
      have hoption : r.inOptions (.number a) = r.inOptions (.number b) :=
        congrArg r.options.contains htext
      rw [FieldRule.optionViolation?, FieldRule.optionViolation?, hoption]

namespace Number

/-- **Two numbers have one text**, and are taken for one another, exactly when
they denote one number and are both integers, both floats, or below `9e15`. -/
theorem recognised_iff (a b : Number) :
    ((Json.number a).plainText = (Json.number b).plainText ↔
        a.value = b.value ∧
          (a.isInteger = b.isInteger ∨ |a.value| < 9 * 10 ^ 15)) ∧
      ((Json.number a).Interchangeable (.number b) ↔
        (Json.number a).plainText = (Json.number b).plainText) :=
  ⟨numberText_eq_iff_value_eq, Json.interchangeable_number_iff⟩

/-- Nine quadrillion, written as an integer. -/
def plainQuadrillions : Number := .integer 9000000000000000 (by decide)

/-- Nine quadrillion, written as a float. -/
def pointedQuadrillions : Number := .float 9.0e15 (by decide)

/-- **From nine quadrillion on** an integer and a float that denote one number
have two texts, and are not taken for one another. -/
theorem quadrillions_apart :
    plainQuadrillions.value = pointedQuadrillions.value ∧
    (Json.number plainQuadrillions).plainText = "9000000000000000" ∧
    (Json.number pointedQuadrillions).plainText = "9000000000000000.0" ∧
    ¬ (Json.number plainQuadrillions).Interchangeable
      (.number pointedQuadrillions) := by
  have hvalue : plainQuadrillions.value = pointedQuadrillions.value := by
    show ((9000000000000000 : ℤ) : ℚ) = (Decimal.value? 9.0e15).getD 0
    rw [Decimal.value?_bound, Option.getD_some]
    norm_num
  have hplain : (Json.number plainQuadrillions).plainText =
      "9000000000000000" := by decide
  have hpointed : (Json.number pointedQuadrillions).plainText =
      "9000000000000000.0" := by decide +kernel
  refine ⟨hvalue, hplain, hpointed, fun h => ?_⟩
  have htext := Json.interchangeable_number_iff.mp h
  have hdigits : "9000000000000000" = "9000000000000000.0" :=
    hplain.symm.trans (htext.trans hpointed)
  exact absurd hdigits (by decide)

end Number

end ServiceLoom
