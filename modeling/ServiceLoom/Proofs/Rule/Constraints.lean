import ServiceLoom.Proofs.Rule.Verdict

/-!
# The constraints of a rule

A rule is a list of constraints on the value of its field, in a fixed order.
Each constraint is broken or not by itself, whatever the others say: it has its
own reading of the value, and at most one collection that it looks into.  A rule
reports the first constraint that is broken; a collection that cannot be read
counts where a constraint that looks into it comes up before.

* `FieldRule.verdict_eq_finding` — the verdict of a rule is that report;
* `FieldRule.finding_eq_some_iff`, `FieldRule.finding_eq_none_iff` — what it
  reports, and when nothing.
-/

namespace ServiceLoom

/-! ## Readings of a value -/

/-- A value that is not blank. -/
def filledValue? (value : Option Json) : Option Json :=
  value.filter fun v => !isBlank (some v)

/-- A value that is neither blank nor a list. -/
def scalarValue? (value : Option Json) : Option Json :=
  (filledValue? value).filter fun v => !v.isArray

/-- The number that a scalar denotes. -/
def numberValue? (value : Option Json) : Option Float :=
  (scalarValue? value).bind Json.numeric?

/-- The items of a list. Any other value stands for itself. -/
def Json.items : Json → List Json
  | .array items => items
  | v => [v]

/-! ## Constraints -/

/-- A constraint on the value of a field. -/
inductive Constraint where
  | required
  | minLength (n : Nat)
  | maxLength (n : Nat)
  | pattern (source : String)
  | number
  | integer
  | min (bound : Float)
  | max (bound : Float)
  | options (values : List String)
  | unique
  | reference (target : String)

namespace Constraint

/-- Whether a value breaks a constraint, given the rows of the collection that
the constraint looks into. -/
def isBroken [Pattern.Engine] (r : FieldRule) (mode : WriteMode)
    (value : Option Json) (rows : List Record) : Constraint → Bool
  | required => r.isMissing value
  | minLength n => (scalarValue? value).any fun v => v.plainText.length < n
  | maxLength n => (scalarValue? value).any fun v => n < v.plainText.length
  | pattern source =>
      (scalarValue? value).any fun v => !Pattern.accepts source v.plainText
  | number => (scalarValue? value).any fun v => v.numeric?.isNone
  | integer => (numberValue? value).any fun x => !Decimal.isWhole x
  | min bound => (numberValue? value).any (· < bound)
  | max bound => (numberValue? value).any (bound < ·)
  | options values =>
      (filledValue? value).any fun v => v.items.any fun item =>
        !values.contains item.plainText
  | unique => (filledValue? value).any fun v => rows.any fun row =>
      !(mode.ownId.isSome && row.id? == mode.ownId) &&
        (row.get? r.field).map Json.plainText == some v.plainText
  | reference _ => (filledValue? value).any fun v =>
      if r.multiple then !v.isArray || v.items.any fun item =>
        !(idsOf rows).contains item.plainText
      else !(idsOf rows).contains v.plainText

/-- The collection that a constraint looks into: its own one, or that of the
references, for a value that can be looked up. -/
def collection? (r : FieldRule) (slug : String) (value : Option Json) :
    Constraint → Option String
  | unique => (filledValue? value).map fun _ => slug
  | reference target =>
      ((filledValue? value).filter fun v => !r.multiple || v.isArray).map
        fun _ => target
  | _ => none

/-- What is said about a value that breaks a constraint. -/
def message (r : FieldRule) (value : Option Json) : Constraint → String
  | required => r.label ++ " is required"
  | minLength n =>
      r.label ++ " must be at least " ++ toString n ++ " characters"
  | maxLength n => r.label ++ " must be at most " ++ toString n ++ " characters"
  | pattern _ => r.label ++ " is invalid"
  | number => r.label ++ " must be a number"
  | integer => r.label ++ " must be an integer"
  | min bound => r.label ++ " must be ≥ " ++ Decimal.boundText bound
  | max bound => r.label ++ " must be ≤ " ++ Decimal.boundText bound
  | options values => r.label ++ " must be one of: " ++ ", ".intercalate values
  | unique => r.label ++ " must be unique"
  | reference _ =>
    if r.multiple && !value.any Json.isArray then
      r.label ++ " must be a list of IDs"
    else r.label ++ " has an invalid reference"

/-- What is said about a value by a constraint alone. -/
def report? [Pattern.Engine] (r : FieldRule) (mode : WriteMode)
    (value : Option Json) (rows : List Record) (c : Constraint) :
    Option String :=
  if c.isBroken r mode value rows then some (c.message r value) else none

/-- What a constraint reports, where the rows that it needs are read from a
source. -/
def finding [Pattern.Engine] (src : Source) (r : FieldRule) (slug : String)
    (mode : WriteMode) (value : Option Json) (c : Constraint) :
    Except Failure (Option String) :=
  match c.collection? r slug value with
  | none => .ok (c.report? r mode value [])
  | some collection =>
      (src collection).map fun rows => c.report? r mode value rows

end Constraint

/-- The first finding that says something, or fails. -/
def firstFinding : List (Except Failure (Option String)) →
    Except Failure (Option String)
  | [] => .ok none
  | found :: rest => found.bind fun
    | some message => .ok (some message)
    | none => firstFinding rest

namespace FieldRule

/-- The constraints on the text of a value. -/
def textConstraints (r : FieldRule) : List Constraint :=
  (r.minLength.map .minLength).toList ++
    ((r.maxLength.map .maxLength).toList ++ (r.pattern.map .pattern).toList)

/-- The constraints on the number that a value denotes. -/
def numberConstraints (r : FieldRule) : List Constraint :=
  if r.numeric then
    .number :: ((if r.kind = .integer then [.integer] else []) ++
      ((r.min.map .min).toList ++ (r.max.map .max).toList))
  else []

/-- The constraints that need no rows. -/
def localConstraints (r : FieldRule) : List Constraint :=
  r.textConstraints ++ (r.numberConstraints ++ if r.options.isEmpty then []
    else [.options r.options])

/-- The constraints of a rule, in the order in which they are checked. -/
def constraints (r : FieldRule) : List Constraint :=
  (if r.required then [.required] else []) ++ (r.localConstraints ++
    ((if r.unique then [.unique] else []) ++ (r.reference.map .reference).toList))

/-- What a rule reports about a value: the first constraint that is broken, or
that cannot be checked. -/
def finding [Pattern.Engine] (r : FieldRule) (src : Source) (slug : String)
    (mode : WriteMode) (value : Option Json) : Except Failure (Option String) :=
  firstFinding (r.constraints.map fun c => c.finding src r slug mode value)

end FieldRule

/-! ## First findings -/

section FirstFinding

variable {xs ys : List (Except Failure (Option String))} {message : String}

@[simp] theorem firstFinding_singleton (x : Except Failure (Option String)) :
    firstFinding [x] = x := by
  cases x with
  | error f => rfl
  | ok found => cases found <;> rfl

theorem firstFinding_append (xs ys : List (Except Failure (Option String))) :
    firstFinding (xs ++ ys) = (firstFinding xs).bind fun
      | some message => .ok (some message)
      | none => firstFinding ys := by
  induction xs with
  | nil => rfl
  | cons x rest ih =>
      rw [List.cons_append, firstFinding, firstFinding, ih]
      cases x with
      | error f => rfl
      | ok found => cases found <;> rfl

/-- Nothing is found when all findings say nothing. -/
theorem firstFinding_eq_none_iff : firstFinding xs = .ok none ↔
    ∀ x ∈ xs, x = .ok none := by
  induction xs with
  | nil => simp [firstFinding]
  | cons x rest ih =>
      rw [firstFinding, List.forall_mem_cons, ← ih]
      cases x with
      | error f => simp [Except.bind]
      | ok found => cases found <;> simp [Except.bind]

/-- What is found is the first that is said; before it nothing is said and
nothing fails. -/
theorem firstFinding_eq_some_iff :
    firstFinding xs = .ok (some message) ↔
      ∃ before after, xs = before ++ .ok (some message) :: after ∧
        ∀ x ∈ before, x = .ok none := by
  induction xs with
  | nil => simp [firstFinding]
  | cons x rest ih =>
      rw [firstFinding]
      constructor
      · intro hfound
        cases x with
        | error f => cases hfound
        | ok found =>
            cases found with
            | some other =>
                cases hfound
                exact ⟨[], rest, rfl, nofun⟩
            | none =>
                obtain ⟨before, after, rfl, hbefore⟩ := ih.mp hfound
                exact ⟨.ok none :: before, after, rfl,
                  List.forall_mem_cons.mpr ⟨rfl, hbefore⟩⟩
      · rintro ⟨before, after, hsplit, hbefore⟩
        cases before with
        | nil =>
            obtain ⟨rfl, -⟩ := List.cons.inj hsplit
            rfl
        | cons y before =>
            obtain ⟨rfl, rfl⟩ := List.cons.inj hsplit
            rw [List.forall_mem_cons] at hbefore
            rw [hbefore.1]
            exact ih.mpr ⟨before, after, rfl, hbefore.2⟩

end FirstFinding

/-! ## The verdict of a rule -/

namespace FieldRule

variable (r : FieldRule) (src : Source) (slug : String) (mode : WriteMode)
    (value : Option Json)

/-- Constraints that look into no collection report by themselves. -/
theorem firstFinding_map [Pattern.Engine] {cs : List Constraint}
    (h : ∀ c ∈ cs, c.collection? r slug value = none) :
    firstFinding (cs.map fun c => c.finding src r slug mode value) =
      .ok (cs.findSome? fun c => c.report? r mode value []) := by
  induction cs with
  | nil => rfl
  | cons c rest ih =>
      rw [List.forall_mem_cons] at h
      rw [List.map_cons, firstFinding, List.findSome?_cons,
        ih h.2, Constraint.finding, h.1]
      cases c.report? r mode value [] <;> rfl

/-- A constraint with a bound reports before those that follow it, if there is a
bound and it is broken. -/
theorem findSome?_bound {α : Type} {report : Constraint → Option String}
    {make : α → Constraint} {broken : α → Bool} {message : α → String}
    (h : ∀ x, report (make x) = if broken x then some (message x) else none)
    (bound : Option α) (default : α) (rest : List Constraint) :
    ((bound.map make).toList ++ rest).findSome? report =
      if bound.any broken then some (message (bound.getD default))
      else rest.findSome? report := by
  cases bound with
  | none => rfl
  | some x =>
      simp only [Option.map_some, Option.toList_some, List.singleton_append,
        List.findSome?_cons, h, Option.any_some, Option.getD_some]
      cases broken x <;> rfl

/-- A constraint that a rule may have reports before those that follow it, if
the rule has it and it is broken. -/
theorem findSome?_optional {report : Constraint → Option String}
    {c : Constraint} {broken : Bool} {message : String}
    (h : report c = if broken then some message else none) (p : Prop)
    [Decidable p] (rest : List Constraint) :
    ((if p then [c] else []) ++ rest).findSome? report =
      if p ∧ broken then some message else rest.findSome? report := by
  by_cases hp : p
  · rw [if_pos hp, List.singleton_append, List.findSome?_cons, h]
    cases broken <;> simp [hp]
  · simp [hp]

/-- The constraints on texts report what a text violates. -/
theorem findSome?_textConstraints [Pattern.Engine] :
    (r.textConstraints.findSome? fun c => c.report? r mode value []) =
      (scalarValue? value).bind fun v => r.textViolation? v.plainText := by
  rw [textConstraints, findSome?_bound (fun _ => rfl) _ 0,
    findSome?_bound (fun _ => rfl) _ 0, ← List.append_nil (Option.toList _),
    findSome?_bound (fun _ => rfl) _ ""]
  cases hscalar : scalarValue? value with
  | none => simp [Constraint.isBroken, hscalar]
  | some v =>
      simp only [Constraint.isBroken, hscalar]
      rfl

/-- The constraints on numbers report what a number violates, if the value must
be one. -/
theorem findSome?_numberConstraints [Pattern.Engine] :
    (r.numberConstraints.findSome? fun c => c.report? r mode value []) =
      (scalarValue? value).bind fun v => if r.numeric then r.numberViolation? v
        else none := by
  unfold numberConstraints
  cases r.numeric with
  | false => cases scalarValue? value <;> rfl
  | true =>
      rw [if_pos rfl, List.findSome?_cons, findSome?_optional rfl,
        findSome?_bound (fun _ => rfl) _ 0, ← List.append_nil (Option.toList _),
        findSome?_bound (fun _ => rfl) _ 0, List.findSome?_nil]
      rcases (scalarValue? value).eq_none_or_eq_some with hscalar | ⟨v, hscalar⟩
      · simp [Constraint.report?, Constraint.isBroken, numberValue?, hscalar]
      · simp only [Constraint.report?, Constraint.isBroken, numberValue?,
          hscalar, Option.any_some, Option.bind_some, numberViolation?]
        rcases v.numeric?.eq_none_or_eq_some with hnumber | ⟨x, hnumber⟩ <;>
          simp [hnumber, Constraint.message]

/-- The options report a value that is none of them. -/
theorem findSome?_options [Pattern.Engine] :
    ((if r.options.isEmpty then [] else [Constraint.options r.options]).findSome?
      fun c => c.report? r mode value []) =
      (filledValue? value).bind r.optionViolation? := by
  rw [← ite_not, ← List.append_nil (ite _ _ _), findSome?_optional rfl,
    List.findSome?_nil]
  rcases (filledValue? value).eq_none_or_eq_some with hfilled | ⟨v, hfilled⟩
  · simp [Constraint.isBroken, hfilled]
  · rw [hfilled, Option.bind_some, optionViolation?]
    cases v <;> simp [Constraint.isBroken, Constraint.message,
      hfilled, inOptions, Json.items]

/-- The constraints that need no rows look into no collection. -/
theorem collection?_of_mem_localConstraints {c : Constraint}
    (hc : c ∈ r.localConstraints) : c.collection? r slug value = none := by
  cases c with
  | unique => simp [localConstraints, textConstraints, numberConstraints] at hc
  | reference target =>
      simp [localConstraints, textConstraints, numberConstraints] at hc
  | _ => rfl

/-- The constraints that need no rows report the violation that is seen without
a store. -/
theorem firstFinding_localConstraints [Pattern.Engine] :
    firstFinding (r.localConstraints.map fun c =>
      c.finding src r slug mode value) =
      .ok ((filledValue? value).bind r.localViolation?) := by
  rw [r.firstFinding_map src slug mode value fun c hc =>
      r.collection?_of_mem_localConstraints slug value hc, localConstraints,
    List.findSome?_append, List.findSome?_append, findSome?_textConstraints,
    findSome?_numberConstraints, findSome?_options]
  cases hfilled : filledValue? value with
  | none => simp [scalarValue?, hfilled]
  | some v => cases harray : v.isArray <;>
      simp [scalarValue?, hfilled, localViolation?,
        scalarViolation?, harray, Option.filter, Option.or_assoc]

/-- The requirement reports a missing value. -/
theorem firstFinding_required [Pattern.Engine] :
    firstFinding ((if r.required then [Constraint.required] else []).map
      fun c => c.finding src r slug mode value) =
      .ok (if r.required && r.isMissing value then
        some (r.label ++ " is required") else none) := by
  cases r.required with
  | false => rfl
  | true =>
      rw [if_pos rfl, List.map_singleton, firstFinding_singleton, Bool.true_and]
      rfl

/-- The uniqueness of a filled value reports a value that is taken. -/
theorem firstFinding_unique [Pattern.Engine] {v : Json}
    (hfilled : filledValue? value = some v) :
    firstFinding ((if r.unique then [Constraint.unique] else []).map fun c =>
      c.finding src r slug mode value) =
      r.uniqueVerdict src slug mode v := by
  unfold uniqueVerdict
  cases r.unique with
  | false => rfl
  | true =>
      rw [if_pos rfl, if_pos rfl, List.map_singleton, firstFinding_singleton,
        Constraint.finding, Constraint.collection?, hfilled]
      simp only [Option.map_some, Constraint.report?,
        Constraint.isBroken, hfilled, Option.any_some]
      rfl

/-- The reference of a filled value reports a value that cannot be looked up, or
identifiers that are not there. -/
theorem firstFinding_reference [Pattern.Engine] {v : Json}
    (hfilled : filledValue? value = some v) :
    firstFinding ((r.reference.map Constraint.reference).toList.map fun c =>
      c.finding src r slug mode value) =
      r.referenceVerdict src v := by
  obtain rfl : value = some v := (Option.filter_eq_some_iff.mp hfilled).1
  unfold referenceVerdict
  cases r.reference with
  | none => rfl
  | some target =>
      rw [Option.map_some, Option.toList_some, List.map_singleton,
        firstFinding_singleton, Constraint.finding, Constraint.collection?]
      simp only [Constraint.report?, Constraint.isBroken,
        hfilled, Option.any_some, Constraint.message]
      cases hmultiple : r.multiple with
      | false =>
          cases v <;> simp [Option.filter, referenceViolation?, hmultiple]
      | true =>
          cases v <;> simp [Option.filter, referenceViolation?,
            hmultiple, Json.isArray, Json.items]

/-- A value that is not filled breaks nothing but a requirement. -/
theorem finding_of_not_filled [Pattern.Engine] {c : Constraint}
    (hblank : filledValue? value = none) (hc : c ≠ .required) :
    c.finding src r slug mode value = .ok none := by
  cases c with
  | required => exact absurd rfl hc
  | _ => simp [Constraint.finding, Constraint.collection?, Constraint.report?,
    Constraint.isBroken, numberValue?, scalarValue?, hblank]

/-- The constraints that look into collections report what the reads for a
filled value show. -/
theorem firstFinding_lookups [Pattern.Engine] :
    firstFinding (((if r.unique then [Constraint.unique] else []) ++
        (r.reference.map Constraint.reference).toList).map fun c =>
          c.finding src r slug mode value) =
      match filledValue? value with
      | none => .ok none
      | some v => (r.uniqueVerdict src slug mode v).bind fun
        | some message => .ok (some message)
        | none => r.referenceVerdict src v := by
  cases hfilled : filledValue? value with
  | none =>
      rw [firstFinding_eq_none_iff, List.forall_mem_map]
      intro c hc
      refine r.finding_of_not_filled src slug mode value hfilled ?_
      rintro rfl
      simp at hc
  | some v =>
      rw [List.map_append,
        firstFinding_append, r.firstFinding_unique src slug mode value hfilled,
        r.firstFinding_reference src slug mode value hfilled]

/-- **The verdict of a rule is the report of its first broken constraint.** -/
theorem verdict_eq_finding [Pattern.Engine] :
    r.verdict src slug mode value = r.finding src slug mode value := by
  rw [finding, constraints, List.map_append, List.map_append, firstFinding_append,
    firstFinding_append, firstFinding_required, firstFinding_localConstraints,
    firstFinding_lookups, verdict, ← filledValue?]
  split
  next => rfl
  next =>
    -- the requirement is met; what follows is about a filled value only
    cases filledValue? value with
    | none => rfl
    | some v =>
      dsimp only [Option.bind_some]
      cases r.localViolation? v <;> rfl

/-- A rule reports nothing when no constraint does, and every collection that
one of them looks into can be read. -/
theorem finding_eq_none_iff [Pattern.Engine] :
    r.finding src slug mode value = .ok none ↔
      ∀ c ∈ r.constraints, c.finding src r slug mode value = .ok none := by
  rw [finding, firstFinding_eq_none_iff, List.forall_mem_map]

/-- What a rule reports is what its first broken constraint does; those before
it could be checked. -/
theorem finding_eq_some_iff [Pattern.Engine] {message : String} :
    r.finding src slug mode value = .ok (some message) ↔
      ∃ before c after, r.constraints = before ++ c :: after ∧
        c.finding src r slug mode value = .ok (some message) ∧
        ∀ c' ∈ before, c'.finding src r slug mode value = .ok none := by
  rw [finding, firstFinding_eq_some_iff]
  constructor
  · rintro ⟨before, after, hsplit, hbefore⟩
    obtain ⟨before, rest, hconstraints, rfl, hrest⟩ :=
      List.map_eq_append_iff.mp hsplit
    obtain ⟨c, after, rfl, hc, rfl⟩ := List.map_eq_cons_iff.mp hrest
    exact ⟨before, c, after, hconstraints, hc, List.forall_mem_map.mp hbefore⟩
  · rintro ⟨before, c, after, hsplit, hc, hbefore⟩
    refine ⟨before.map (Constraint.finding src r slug mode value),
      after.map (Constraint.finding src r slug mode value),
        ?_, List.forall_mem_map.mpr hbefore⟩
    rw [hsplit, List.map_append, List.map_cons, hc]

end FieldRule

end ServiceLoom
