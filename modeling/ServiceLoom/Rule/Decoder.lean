import ServiceLoom.Json.Decoder
import ServiceLoom.Rule.DeleteGuard
import ServiceLoom.Rule.FieldRule

/-!
# Reading rules and guards

How rule sets, delete guards and the dependents of a refusal are decoded. The
constraints of a rule may be left out; everything that identifies a field, an
entity or a row must be written.
-/

namespace ServiceLoom

open Json (string? bool? nat? float? list?)

/-- The kind of a rule. -/
def FieldKind.decode? (j : Json) : Option FieldKind :=
  j.alternative?.bind FieldKind.ofName?

/-- A field rule. -/
def FieldRule.decode? (j : Json) : Option FieldRule := do
  let f ← j.fields? 14
  return {
    field := ← f.required? 0 ["field"] string?
    label := ← f.required? 1 ["label"] string?
    kind := ← f.required? 2 ["kind"] FieldKind.decode?
    multiple := ← f.default? 3 ["multiple"] bool? false
    required := ← f.default? 4 ["required"] bool? false
    unique := ← f.default? 5 ["unique"] bool? false
    minLength := ← f.optional? 6 ["min_length"] nat?
    maxLength := ← f.optional? 7 ["max_length"] nat?
    pattern := ← f.optional? 8 ["pattern"] string?
    numeric := ← f.default? 9 ["numeric"] bool? false
    min := ← f.optional? 10 ["min"] float?
    max := ← f.optional? 11 ["max"] float?
    options := ← f.default? 12 ["options"] (list? string?) []
    reference := ← f.optional? 13 ["reference"] string? }

/-- A rule set. -/
def RuleSet.decode? (j : Json) : Option RuleSet := do
  let f ← j.fields? 1
  return ⟨← f.required? 0 ["rules"] (list? FieldRule.decode?)⟩

/-- A referring field. -/
def RefField.decode? (j : Json) : Option RefField := do
  let f ← j.fields? 2
  return ⟨← f.required? 0 ["name"] string?,
    ← f.default? 1 ["multiple"] bool? false⟩

/-- A dependent of a guard. -/
def DependentSpec.decode? (j : Json) : Option DependentSpec := do
  let f ← j.fields? 3
  return ⟨← f.required? 0 ["entity"] string?,
    ← f.required? 1 ["display_field"] string?,
    ← f.required? 2 ["fields"] (list? RefField.decode?)⟩

/-- A delete guard. -/
def DeleteGuard.decode? (j : Json) : Option DeleteGuard := do
  let f ← j.fields? 1
  return ⟨← f.required? 0 ["dependents"] (list? DependentSpec.decode?)⟩

/-- A row of a preview. -/
def PreviewRow.decode? (j : Json) : Option PreviewRow := do
  let f ← j.fields? 2
  return ⟨← f.required? 0 ["id"] string?, ← f.required? 1 ["display"] string?⟩

/-- A dependent of a refusal. -/
def DependentRecord.decode? (j : Json) : Option DependentRecord := do
  let f ← j.fields? 4
  return ⟨← f.required? 0 ["entity"] string?,
    ← f.required? 1 ["via"] (list? string?),
    ← f.required? 2 ["count"] nat?,
      ← f.required? 3 ["preview"] (list? PreviewRow.decode?)⟩

end ServiceLoom
