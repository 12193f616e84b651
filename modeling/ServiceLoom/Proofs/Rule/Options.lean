import ServiceLoom.Pattern.Builtin
import ServiceLoom.Plan.Compiler
import ServiceLoom.Proofs.Decimal.Notation
import ServiceLoom.Proofs.Rule.FieldErrors
import ServiceLoom.Schema.Validation

/-!
# Declared options

The options of a field are turned into texts when its rule is made, and a value
is turned into a text when it is checked.  The two texts of a scalar are the
same, but for one kind of number: a whole float below `9e15` is declared with
its fraction, as `5.0`, and read without one, as `5`
(`Json.optionText_eq_plainText_iff`).  Such an option cannot be chosen, unless
another one has the text that is read (`SchemaGraph.declared_option`).

A rule says one thing for each of its constraints, and only the options say that
a value must be one of some (`Constraint.message_ne_optionMessage`).  So the
message tells that the options were checked, and that nothing before them was
broken (`FieldRule.finding_eq_optionMessage_iff`).
-/

namespace ServiceLoom

/-! ## The report of the options -/

/-- Whether a constraint is that of the options. -/
def Constraint.isOptions : Constraint → Bool
  | options _ => true
  | _ => false

/-- What is said about a value that is none of the options. -/
def FieldRule.optionMessage (r : FieldRule) : String :=
  r.label ++ " must be one of: " ++ ", ".intercalate r.options

section Reports

variable {r : FieldRule} {src : Source} {slug : String} {mode : WriteMode}
    {value : Option Json}

/-- **Only the options say that a value must be one of some.** -/
theorem Constraint.message_ne_optionMessage {c : Constraint}
    (hc : c.isOptions = false) : c.message r value ≠ r.optionMessage := by
  cases c with
  | options values => cases hc
  | reference target =>
      rw [message]
      split <;> simp [FieldRule.optionMessage, ← String.toList_inj,
        String.append_assoc]
  | _ =>
      simp [message, FieldRule.optionMessage, ← String.toList_inj,
        String.append_assoc]

/-- A constraint other than the options does not report that a value must be one
of some. -/
theorem Constraint.finding_ne_optionMessage [Pattern.Engine] {c : Constraint}
    (hc : c.isOptions = false) :
    c.finding src r slug mode value ≠ .ok (some r.optionMessage) := by
  have hreport : ∀ rows, c.report? r mode value rows ≠
      some r.optionMessage := by
    intro rows
    rw [report?]
    split
    · simpa using message_ne_optionMessage hc
    · simp
  rw [finding]
  split
  · simpa using hreport []
  next collection _ =>
    cases src collection with
    | error f => simp [Except.map]
    | ok rows => simpa [Except.map] using hreport rows

/-- Neither does a list of such constraints. -/
theorem firstFinding_ne_optionMessage [Pattern.Engine] {cs : List Constraint}
    (hcs : ∀ c ∈ cs, c.isOptions = false) :
    firstFinding (cs.map fun c => c.finding src r slug mode value) ≠
      .ok (some r.optionMessage) := by
  intro hfound
  obtain ⟨before, after, hsplit, -⟩ := firstFinding_eq_some_iff.mp hfound
  obtain ⟨c, hc, hfinding⟩ :=
    List.mem_map.mp (hsplit ▸ List.mem_append_right before List.mem_cons_self)
  exact Constraint.finding_ne_optionMessage (hcs c hc) hfinding

namespace FieldRule

/-- The constraints before the options. -/
def earlierConstraints (r : FieldRule) : List Constraint :=
  (if r.required then [.required] else []) ++
    (r.textConstraints ++ r.numberConstraints)

/-- The constraints after the options. -/
def laterConstraints (r : FieldRule) : List Constraint :=
  (if r.unique then [.unique] else []) ++ (r.reference.map .reference).toList

theorem constraints_eq_append (h : r.options ≠ []) :
    r.constraints = r.earlierConstraints ++ .options r.options ::
      r.laterConstraints := by
  simp [constraints, localConstraints, earlierConstraints, laterConstraints, h]

theorem isOptions_of_mem_earlier {c : Constraint}
    (hc : c ∈ r.earlierConstraints) : c.isOptions = false := by
  cases c with
  | options values =>
      simp [earlierConstraints, textConstraints, numberConstraints] at hc
  | _ => rfl

theorem isOptions_of_mem_later {c : Constraint} (hc : c ∈ r.laterConstraints) :
    c.isOptions = false := by
  cases c with
  | options values => simp [laterConstraints] at hc
  | _ => rfl

theorem collection?_of_mem_earlier {c : Constraint}
    (hc : c ∈ r.earlierConstraints) : c.collection? r slug value = none := by
  cases c with
  | unique =>
      simp [earlierConstraints, textConstraints, numberConstraints] at hc
  | reference target =>
      simp [earlierConstraints, textConstraints, numberConstraints] at hc
  | _ => rfl

/-- **A rule reports that a value must be one of the options** exactly when it
is none of them and breaks nothing that is checked before. -/
theorem finding_eq_optionMessage_iff [Pattern.Engine] (h : r.options ≠ []) :
    r.finding src slug mode value = .ok (some r.optionMessage) ↔
      (∀ c ∈ r.earlierConstraints, c.isBroken r mode value [] = false) ∧
        (Constraint.options r.options).isBroken r mode value [] = true := by
  have hearlier := r.firstFinding_map src slug mode value fun c hc =>
      r.collection?_of_mem_earlier hc
  have hother : firstFinding (r.earlierConstraints.map fun c =>
      c.finding src r slug mode value) ≠
      .ok (some r.optionMessage) :=
        firstFinding_ne_optionMessage fun c => isOptions_of_mem_earlier
  rw [finding, constraints_eq_append h, List.map_append,
    List.map_cons, firstFinding_append]
  rw [hearlier] at hother ⊢
  -- a report of the earlier constraints is another message; without one the
  -- options are next
  cases hfirst : r.earlierConstraints.findSome? fun c =>
      c.report? r mode value [] with
  | some message =>
      rw [hfirst] at hother
      obtain ⟨c, hc, hreport⟩ := List.exists_of_findSome?_eq_some hfirst
      have hbroken : c.isBroken r mode value [] = true := by
        cases hbroken : c.isBroken r mode value [] with
        | true => rfl
        | false => simp [Constraint.report?, hbroken] at hreport
      refine iff_of_false hother fun hunbroken => ?_
      exact absurd hbroken (by simp [hunbroken.1 c hc])
  | none =>
      have hunbroken : ∀ c ∈ r.earlierConstraints,
          c.isBroken r mode value [] = false := by
        simpa [Constraint.report?] using hfirst
      have hlater : firstFinding (r.laterConstraints.map fun c =>
          c.finding src r slug mode value) ≠
          .ok (some r.optionMessage) :=
            firstFinding_ne_optionMessage fun c => isOptions_of_mem_later
      rw [and_iff_right hunbroken]
      show (firstFinding (.ok ((Constraint.options r.options).report?
          r mode value []) :: _)) = _ ↔ _
      rw [firstFinding, Constraint.report?]
      cases (Constraint.options r.options).isBroken r mode value [] with
      | true => exact iff_of_true rfl rfl
      | false => exact iff_of_false hlater Bool.false_ne_true

end FieldRule

end Reports

/-- What is said about a field that one rule is on is what that rule reports. -/
theorem RuleSet.error_single_iff [Pattern.Engine] {r : FieldRule} {src : Source}
    {slug : String} {data : Record} {mode : WriteMode} {message : String} :
    (∃ errors, (RuleSet.collectErrors ⟨[r]⟩ slug data mode).answerFrom src =
        some (.ok errors) ∧
        errors.get? r.field = some message) ↔
          r.report src slug data mode = .ok (some message) := by
  rw [collectErrors_answerFrom, verdicts, FieldRule.verdict_eq_report]
  cases r.report src slug data mode with
  | error f => simp [Except.bind]
  | ok found => cases found <;> simp [Except.bind, verdicts]

/-! ## The text of an option and of a value -/

/-- A text that is not blank, a truth value, or a number. -/
def Json.isScalar : Json → Bool
  | .string s => !Text.isBlank s
  | .bool _ => true
  | .number _ => true
  | _ => false

/-- A whole float that is read as an integer. -/
def Json.isShortened : Json → Bool
  | .number (.float x _) => Decimal.isWhole x && x.abs < 9.0e15
  | _ => false

/-- **A scalar has one text, as an option and as a value, unless it is a whole
float that is read as an integer.** -/
theorem Json.optionText_eq_plainText_iff {v : Json}
    (hscalar : v.isScalar = true) :
    Field.optionText v = v.plainText ↔ v.isShortened = false := by
  cases v with
  | null => cases hscalar
  | array items => cases hscalar
  | object members => cases hscalar
  | string s => exact iff_of_true rfl rfl
  | bool b => exact iff_of_true rfl rfl
  | number n =>
      cases n with
      | integer n hn => exact iff_of_true rfl rfl
      | float x hx =>
          show (Number.float x hx).text = numberText (.float x hx) ↔
              (Decimal.isWhole x && x.abs < 9.0e15) = false
          rw [numberText]
          split
          next hshort =>
            have hwhole : Decimal.isWhole x = true :=
              (Bool.and_eq_true_iff.mp hshort).1
            obtain ⟨q, hq⟩ := Decimal.exists_value? hx
            obtain ⟨n, rfl⟩ := (Decimal.isWhole_iff hq).mp hwhole
            rw [Decimal.nearestInt?_eq hq, hshort]
            exact iff_of_false (Decimal.write_ne_toString hx n) (by decide)
          next hlong => exact iff_of_true rfl (by simpa using hlong)

/-! ## Options that a field declares -/

namespace Field

variable {f : Field} {v : Json}

/-- A field declares a value as an option, by itself or as the value of an
object. -/
def Declares (f : Field) (v : Json) : Prop :=
  v ∈ f.options ∨ ∃ members, .object members ∈ f.options ∧
    Dict.get? members "value" = some v

/-- What a record holds of a value that is chosen: a list for a field that holds
lists. -/
def chosen (f : Field) (v : Json) : Json :=
  if f.isMultiple then .array [v] else v

/-- The text of a declared scalar is among the options. -/
theorem optionText_mem (hscalar : v.isScalar = true)
    (hdeclared : f.Declares v) : optionText v ∈ f.optionValues := by
  rcases hdeclared with hbare | ⟨members, hmem, hvalue⟩
  · refine List.mem_filterMap.mpr ⟨v, hbare, ?_⟩
    cases v with
    | null => cases hscalar
    | object members => cases hscalar
    | _ => rfl
  · refine List.mem_filterMap.mpr ⟨.object members, hmem, ?_⟩
    rw [optionValue?, hvalue]
    rfl

theorem isBlank_chosen (hscalar : v.isScalar = true) :
    isBlank (some (f.chosen v)) = false := by
  unfold chosen
  split
  · rfl
  · cases v with
    | string s => simpa [Json.isScalar, isBlank] using hscalar
    | null => cases hscalar
    | _ => rfl

theorem items_chosen (hscalar : v.isScalar = true) :
    (f.chosen v).items = [v] := by
  unfold chosen
  split
  · rfl
  · cases v with
    | array items => cases hscalar
    | _ => rfl

end Field

namespace SchemaGraph

variable (g : SchemaGraph) (source : String) {f : Field} {v : Json}

/-- A chosen scalar is not missing. -/
theorem isMissing_chosen [Pattern.Engine] (hscalar : v.isScalar = true) :
    (g.fieldRule source f).isMissing (some (f.chosen v)) = false := by
  have hblank := Field.isBlank_chosen (f := f) hscalar
  unfold FieldRule.isMissing
  split
  next hmultiple =>
    have hmultiple : f.isMultiple = true := hmultiple
    simp [Field.chosen, hmultiple]
  next =>
    split
    · cases hchosen : f.chosen v with
      | null => simp [hchosen, isBlank] at hblank
      | _ => rfl
    · exact hblank

/-- **A declared option can be chosen, unless it is a whole float that is read
as an integer.** The check that a value must be one of the options turns a
declared scalar away exactly when it is such a float, no other option has the
text of the integer, and the value breaks no constraint on its text or
number. -/
theorem declared_option [Pattern.Engine] (hscalar : v.isScalar = true)
    (hdeclared : f.Declares v) (src : Source) (slug : String) (mode : WriteMode)
    {data : Record} (hdata : data.get? f.name = some (f.chosen v)) :
    (Field.optionText v = v.plainText ↔ v.isShortened = false) ∧
      ((∃ errors,
          (RuleSet.collectErrors ⟨[g.fieldRule source f]⟩
            slug data mode).answerFrom src = some (.ok errors) ∧
          errors.get? f.name = some (f.displayLabel ++
            " must be one of: " ++ ", ".intercalate f.optionValues)) ↔
        v.isShortened = true ∧ v.plainText ∉ f.optionValues ∧
          ∀ c ∈ (g.fieldRule source f).textConstraints ++
            (g.fieldRule source f).numberConstraints,
            c.isBroken (g.fieldRule source f) mode (some (f.chosen v)) [] =
              false) := by
  have htext := Json.optionText_eq_plainText_iff hscalar
  have hmem : Field.optionText v ∈ f.optionValues :=
    Field.optionText_mem hscalar hdeclared
  have hoptions : (g.fieldRule source f).options ≠ [] := List.ne_nil_of_mem hmem
  have hbroken :
      (Constraint.options f.optionValues).isBroken
        (g.fieldRule source f) mode (some (f.chosen v)) [] = true ↔
        v.plainText ∉ f.optionValues := by
    simp [Constraint.isBroken, filledValue?, Field.isBlank_chosen hscalar,
      Field.items_chosen hscalar]
  have hreport : (g.fieldRule source f).report src slug data mode =
      (g.fieldRule source f).finding src slug mode (some (f.chosen v)) := by
    rw [FieldRule.report, ← hdata]
    rfl
  have hearlier : (∀ c ∈ (g.fieldRule source f).earlierConstraints,
        c.isBroken (g.fieldRule source f) mode (some (f.chosen v)) [] = false) ↔
      ∀ c ∈ (g.fieldRule source f).textConstraints ++
        (g.fieldRule source f).numberConstraints,
        c.isBroken (g.fieldRule source f) mode (some (f.chosen v))
            [] = false := by
    rw [FieldRule.earlierConstraints, List.forall_mem_append]
    refine and_iff_right fun c hc => ?_
    obtain rfl : c = .required := by
      split at hc
      · exact List.mem_singleton.mp hc
      · cases hc
    exact g.isMissing_chosen source hscalar
  have hshortened : v.plainText ∉ f.optionValues → v.isShortened = true := by
    intro hother
    -- any other scalar is read as it is declared, and so its text is among the
    -- options
    cases hshortened : v.isShortened with
    | true => rfl
    | false => exact absurd (htext.mpr hshortened ▸ hmem) hother
  refine ⟨htext, ?_⟩
  calc _ ↔ (g.fieldRule source f).report src slug data mode =
      .ok (some (g.fieldRule source f).optionMessage) :=
        RuleSet.error_single_iff
    _ ↔ _ := by
        rw [hreport, FieldRule.finding_eq_optionMessage_iff hoptions, hearlier]
        show _ ∧ (Constraint.options f.optionValues).isBroken _ _ _ _ = true ↔ _
        rw [hbroken]
        constructor
        · rintro ⟨hunbroken, hother⟩
          exact ⟨hshortened hother, hother, hunbroken⟩
        · rintro ⟨-, hother, hunbroken⟩
          exact ⟨hunbroken, hother⟩

end SchemaGraph

/-- Two and a half. -/
def halfRating : Json := .number (.float 2.5 rfl)

/-- Five, written as a float. -/
def wholeRating : Json := .number (.float 5 rfl)

/-- A rating is one of the two, or none. -/
def ratingField : Field :=
  { name := "rating",
    options := [halfRating, wholeRating, .object [("value", .string "none")]] }

/-- Reviews with a rating. -/
def reviewDocument : Document where
  projectName := "reviews"
  modules := []
  entities := [{ slug := "reviews", fields := [ratingField] }]

/-- The graph of the reviews. -/
def reviewGraph : SchemaGraph where
  projectName := "reviews"
  modules := ModuleConfig.ofSettings []
  entities :=
    [{ slug := "reviews", module := some defaultModule, fields := [ratingField] }]
  edges := []
  children := []
  warnings := []

/-- What is said about a rating that is not declared. -/
def ratingMessage : String := "Rating must be one of: 2.5, 5.0, none"

/-- The rating of two and a half can be chosen. -/
theorem reviewDocument_half_rating :
    reviewDocument.validate = .ok reviewGraph ∧ halfRating.isScalar = true ∧
    ratingField.Declares halfRating ∧
      ¬ ∃ errors, (RuleSet.collectErrors
          ⟨[reviewGraph.fieldRule "reviews" ratingField]⟩ "reviews"
          [("rating", halfRating)] .create).answerFrom (fun _ => .ok []) =
            some (.ok errors) ∧
        errors.get? "rating" = some ratingMessage := by
  have hdeclared : ratingField.Declares halfRating := .inl List.mem_cons_self
  refine ⟨rfl, rfl, hdeclared, fun hrejected => ?_⟩
  have hshortened := ((reviewGraph.declared_option
      "reviews" rfl hdeclared (fun _ => .ok []) "reviews" .create
    rfl).2.mp hrejected).1
  exact absurd hshortened (by decide)

/-- **The rating of five cannot be chosen**: it is declared as `5.0` and read as
`5`. -/
theorem reviewDocument_whole_rating :
    reviewDocument.validate = .ok reviewGraph ∧ wholeRating.isScalar = true ∧
    ratingField.Declares wholeRating ∧
      (RuleSet.collectErrors
          ⟨[reviewGraph.fieldRule "reviews" ratingField]⟩ "reviews"
          [("rating", wholeRating)] .create).answerFrom (fun _ => .ok []) =
        some (.ok [("rating", ratingMessage)]) :=
  ⟨rfl, rfl, .inl (List.mem_cons_of_mem _ List.mem_cons_self), by rfl⟩

end ServiceLoom
