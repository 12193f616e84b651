import ServiceLoom.Proofs.Store.Rows
import ServiceLoom.Proofs.Store.Runs
import ServiceLoom.Proofs.Store.Sources
import ServiceLoom.Rule.Check

/-!
# What a check of rules finds

A check reads a collection when a rule first needs it and keeps what it has
read.  A source answers every read of a collection alike, so what is kept is
what a new read would answer (`Lookups.Agrees`), and the check finds what a
check finds that reads anew for every rule.  That plain check is the verdict of
a rule, and it does not mention what was kept.

* `RuleSet.collectErrors_answerFrom` — a check finds the verdicts of its rules,
  whatever reads fail; and so it does on a store (`RuleSet.collectErrors_run`).
* `RuleSet.verdicts_eq_nil_iff` — it finds nothing exactly when no rule has a
  violation.
* `FieldRule.verdict_none_iff` — what a verdict without a violation says about
  the value.
-/

namespace ServiceLoom

namespace FieldRule

variable (r : FieldRule) (src : Source)

/-- The violation of uniqueness. -/
def uniqueVerdict (slug : String) (mode : WriteMode) (value : Json) :
    Except Failure (Option String) :=
  if r.unique then
    (src slug).map fun rows =>
      if r.isTaken mode value rows then
        some (r.label ++ " must be unique")
      else none
  else .ok none

/-- The violation of a reference. -/
def referenceVerdict (value : Json) : Except Failure (Option String) :=
  match r.reference with
  | none => .ok none
  | some target =>
    if r.multiple && !value.isArray then
      .ok (some (r.label ++ " must be a list of IDs"))
    else (src target).map fun rows => r.referenceViolation? value (idsOf rows)

/-- The first violation of a rule by a value, where every collection is read
anew. -/
def verdict [Pattern.Engine] (slug : String) (mode : WriteMode)
    (value : Option Json) : Except Failure (Option String) :=
  if r.required && r.isMissing value then .ok (some (r.label ++ " is required"))
  else
    match value.filter fun v => !isBlank (some v) with
    | none => .ok none
    | some v =>
      match r.localViolation? v with
      | some message => .ok (some message)
      | none => (r.uniqueVerdict src slug mode v).bind fun
        | some message => .ok (some message)
        | none => r.referenceVerdict src v

end FieldRule

namespace RuleSet

/-- The messages of the verdicts, added to those of earlier rules. -/
def verdicts [Pattern.Engine] (src : Source) (slug : String) (data : Record)
    (mode : WriteMode) :
    List FieldRule → Dict String → Except Failure (Dict String)
  | [], errors => .ok errors
  | r :: rest, errors =>
    (r.verdict src slug mode (data.get? r.field)).bind fun
      | some message =>
          verdicts src slug data mode rest (errors.insert r.field message)
      | none => verdicts src slug data mode rest errors

end RuleSet

/-! ## What is kept is what would be read -/

section Kept

variable (src : Source) (slug : String)

/-- What has been read is what a new read would answer. -/
structure Lookups.Agrees (l : Lookups) : Prop where
  own : ∀ rows, l.own = some rows → src slug = .ok rows
  ids : ∀ target ids, l.ids.get? target = some ids →
    ∃ rows, src target = .ok rows ∧ ids = idsOf rows

theorem Lookups.agrees_empty : Lookups.empty.Agrees src slug :=
  ⟨nofun, nofun⟩

/-- A procedure answers as expected, and keeps only what a new read would
answer. -/
def Answers {α : Type} (p : Access (α × Lookups)) : Except Failure α → Prop
  | .ok a => ∃ l, p.answerFrom src = some (.ok (a, l)) ∧ l.Agrees src slug
  | .error f => p.answerFrom src = some (.error f)

variable {src slug}

/-- Procedures that answer as expected one after the other do so together. -/
theorem Answers.bind {α β : Type} {p : Access (α × Lookups)}
    {k : α × Lookups → Access (β × Lookups)} {expected : Except Failure α}
    {next : α → Except Failure β} (hp : Answers src slug p expected)
    (hk : ∀ a l, l.Agrees src slug → Answers src slug (k (a, l)) (next a)) :
    Answers src slug (p >>= k) (expected.bind next) := by
  cases expected with
  | error f => exact Access.answerFrom_bind_error hp
  | ok a =>
      obtain ⟨l, hanswer, hl⟩ := hp
      have hnext := hk a l hl
      show Answers src slug (p >>= k) (next a)
      cases hres : next a with
      | error f =>
          rw [hres] at hnext
          exact (Access.answerFrom_bind_ok hanswer).trans hnext
      | ok b =>
          rw [hres] at hnext
          obtain ⟨l', hanswer', hl'⟩ := hnext
          exact ⟨l', (Access.answerFrom_bind_ok hanswer).trans hanswer', hl'⟩

/-- An answer without a call is as expected. -/
theorem Answers.done {α : Type} (a : α) {l : Lookups} (hl : l.Agrees src slug) :
    Answers src slug (.done (a, l)) (.ok a) := ⟨l, rfl, hl⟩

/-- What is computed from an answer is as expected. -/
theorem Answers.map {α β : Type} {p : Access (α × Lookups)}
    {expected : Except Failure α} (f : α → β)
    (hp : Answers src slug p expected) :
    Answers src slug (p >>= fun answer => pure (f answer.1, answer.2))
      (expected.map f) := by
  have heq : expected.map f = expected.bind fun a => .ok (f a) := by
    cases expected <;> rfl
  rw [heq]
  exact hp.bind fun a l hl => Answers.done (f a) hl

/-- The rows of the own collection are those of a new read. -/
theorem Lookups.rows_answers {l : Lookups} (hl : l.Agrees src slug) :
    Answers src slug (l.rows slug) (src slug) := by
  unfold Lookups.rows
  cases hown : l.own with
  | some rows =>
      rw [hl.own rows hown]
      exact Answers.done rows hl
  | none =>
      cases hread : src slug with
      | error f => simp [Answers, Access.answerFrom, hread]
      | ok rows =>
          refine ⟨{ l with own := some rows },
            by simp [Access.answerFrom, hread], ?_, hl.ids⟩
          intro other hother
          obtain rfl := Option.some.inj hother
          exact hread

/-- The identifiers of a collection are those of a new read. -/
theorem Lookups.identifiers_answers (target : String) {l : Lookups}
    (hl : l.Agrees src slug) :
    Answers src slug (l.identifiers target) ((src target).map idsOf) := by
  unfold Lookups.identifiers
  cases hids : l.ids.get? target with
  | some ids =>
      obtain ⟨rows, hread, rfl⟩ := hl.ids target ids hids
      rw [hread]
      exact Answers.done _ hl
  | none =>
      cases hread : src target with
      | error f => simp [Answers, Access.answerFrom, hread, Except.map]
      | ok rows =>
          refine ⟨{ l with ids := l.ids.insert target (idsOf rows) },
            by simp [Access.answerFrom, hread, idsOf], hl.own, ?_⟩
          intro other ids hother
          by_cases heq : other = target
          · subst heq
            rw [Dict.get?_insert_self] at hother
            exact ⟨rows, hread, (Option.some.inj hother).symm⟩
          · rw [Dict.get?_insert_of_ne _ _ heq] at hother
            exact hl.ids other ids hother

/-- **A rule answers with its verdict**, whatever has been read before. -/
theorem FieldRule.violation_answers [Pattern.Engine] (r : FieldRule)
    (mode : WriteMode) (value : Option Json) {l : Lookups}
    (hl : l.Agrees src slug) :
    Answers src slug (r.violation slug mode value l)
      (r.verdict src slug mode value) := by
  unfold FieldRule.violation FieldRule.verdict
  split
  · exact Answers.done _ hl
  · cases value.filter fun v => !isBlank (some v) with
    | none => exact Answers.done _ hl
    | some v =>
        dsimp only
        cases r.localViolation? v with
        | some message => exact Answers.done _ hl
        | none =>
            refine Answers.bind ?_ ?_
            · unfold FieldRule.uniqueViolation FieldRule.uniqueVerdict
              split
              · exact (Lookups.rows_answers hl).map _
              · exact Answers.done _ hl
            · intro found l hl
              cases found with
              | some message => exact Answers.done _ hl
              | none =>
                  unfold FieldRule.danglingViolation FieldRule.referenceVerdict
                  cases r.reference with
                  | none => exact Answers.done _ hl
                  | some target =>
                      dsimp only
                      split
                      · exact Answers.done _ hl
                      · have hids := (Lookups.identifiers_answers target hl).map
                            (r.referenceViolation? v)
                        cases hread : src target with
                        | error f => simpa [hread, Except.map] using hids
                        | ok rows => simpa [hread, Except.map] using hids

end Kept

namespace RuleSet

variable (src : Source) (slug : String) (data : Record) (mode : WriteMode)

/-- Rules that are checked one after the other find their verdicts. -/
theorem collect_answerFrom [Pattern.Engine] (rules : List FieldRule)
    (errors : Dict String) {l : Lookups} (hl : l.Agrees src slug) :
    (collect slug data mode rules errors l).answerFrom src =
      some (verdicts src slug data mode rules errors) := by
  induction rules generalizing errors l with
  | nil => rfl
  | cons r rest ih =>
      have hr := r.violation_answers mode (data.get? r.field) hl
      rw [collect, verdicts]
      cases hverdict : r.verdict src slug mode (data.get? r.field) with
      | error f =>
          rw [hverdict] at hr
          exact Access.answerFrom_bind_error hr
      | ok found =>
          rw [hverdict] at hr
          obtain ⟨l', hanswer, hl'⟩ := hr
          rw [Access.answerFrom_bind_ok hanswer]
          cases found with
          | some message => exact ih _ hl'
          | none => exact ih _ hl'

/-- **A check finds the verdicts of its rules.** -/
theorem collectErrors_answerFrom [Pattern.Engine] (rules : RuleSet) :
    (rules.collectErrors slug data mode).answerFrom src =
      some (verdicts src slug data mode rules.rules []) :=
  collect_answerFrom src slug data mode rules.rules
    [] (Lookups.agrees_empty src slug)

/-- A message stays. -/
theorem verdicts_ne_nil [Pattern.Engine] {rules : List FieldRule}
    {errors found : Dict String} (herrors : errors ≠ [])
    (hfound : verdicts src slug data mode rules errors = .ok found) :
    found ≠ [] := by
  induction rules generalizing errors with
  | nil =>
      cases hfound
      exact herrors
  | cons r rest ih =>
      rw [verdicts] at hfound
      cases hverdict : r.verdict src slug mode (data.get? r.field) with
      | error f =>
          rw [hverdict] at hfound
          cases hfound
      | ok answer =>
          rw [hverdict] at hfound
          cases answer with
          | none => exact ih herrors hfound
          | some message =>
              refine ih ?_ hfound
              intro hnil
              have hget := Dict.get?_insert_self errors r.field message
              rw [hnil] at hget
              cases hget

/-- Nothing is found exactly when no rule has a violation. -/
theorem verdicts_eq_nil_iff [Pattern.Engine] (rules : List FieldRule) :
    verdicts src slug data mode rules [] = .ok [] ↔
      ∀ r ∈ rules, r.verdict src slug mode (data.get? r.field) = .ok none := by
  induction rules with
  | nil => simp [verdicts]
  | cons r rest ih =>
      rw [verdicts, List.forall_mem_cons, ← ih]
      cases hverdict : r.verdict src slug mode (data.get? r.field) with
      | error f => simp [Except.bind]
      | ok answer =>
          cases answer with
          | none => simp [Except.bind]
          | some message =>
              have hne : Dict.insert [] r.field message ≠ [] := by
                simp [Dict.insert]
              constructor
              · intro hfound
                exact absurd rfl (verdicts_ne_nil src slug data mode hne hfound)
              · rintro ⟨hsome, -⟩
                cases hsome

/-- What is found refuses the record. -/
theorem validate_answerFrom [Pattern.Engine] (rules : RuleSet) :
    (rules.validate slug data mode).answerFrom src =
      some ((verdicts src slug data mode rules.rules []).bind fun found =>
        if found.isEmpty then .ok ()
        else .error (.refused (.validationFailed found))) := by
  have hfound := collectErrors_answerFrom src slug data mode rules
  rw [validate]
  cases hverdicts : verdicts src slug data mode rules.rules [] with
  | error f =>
      rw [hverdicts] at hfound
      exact Access.answerFrom_bind_error hfound
  | ok found =>
      rw [hverdicts] at hfound
      rw [Access.answerFrom_bind_ok hfound]
      show Access.answerFrom src (if found.isEmpty then _ else _) =
          some (if found.isEmpty then _ else _)
      split <;> rfl

/-! ### Checks on a store -/

variable (h : Host) (outage : Outage) (s : Store)

/-- **A check on a store finds the verdicts of its rules**, and leaves the
store. -/
theorem collectErrors_run [Pattern.Engine] (rules : RuleSet) :
    (rules.collectErrors slug data mode).run h outage s =
      (verdicts (s.read outage) slug data mode rules.rules [], s) :=
  Access.run_of_answerFrom (collectErrors_answerFrom _ slug data mode rules) h

/-- A record passes a check that finds nothing. -/
theorem validate_ok_iff [Pattern.Engine] (rules : RuleSet) :
    ((rules.validate slug data mode).run h outage s).1 = .ok () ↔
      verdicts (s.read outage) slug data mode rules.rules [] = .ok [] := by
  rw [Access.run_of_answerFrom (validate_answerFrom _ slug data mode rules) h]
  cases verdicts (s.read outage) slug data mode rules.rules [] with
  | error f => simp [Except.bind]
  | ok found => cases found <;> simp [Except.bind]

/-- A check leaves the store. -/
theorem validate_store [Pattern.Engine] (rules : RuleSet) :
    ((rules.validate slug data mode).run h outage s).2 = s := by
  rw [Access.run_of_answerFrom (validate_answerFrom _ slug data mode rules) h]

end RuleSet

/-! ## Verdicts without a violation -/

/-- No row other than the one that is written has the text of a filled value. -/
def Unshared (field : String) (mode : WriteMode) (value : Option Json)
    (rows : List Record) : Prop :=
  ∀ v, value = some v → isBlank value = false → ∀ row ∈ rows,
    (∃ id, mode.ownId = some id ∧ row.id? = some id) ∨
      ∀ w, row.get? field = some w → w.plainText ≠ v.plainText

/-- Two values do not have the same text, unless one of them is blank. -/
def Json.Apart (a b : Option Json) : Prop :=
  ∀ v ∈ a, ∀ w ∈ b, isBlank (some v) = false → isBlank (some w) = false →
    v.plainText ≠ w.plainText

instance (a b : Option Json) : Decidable (Json.Apart a b) :=
  inferInstanceAs (Decidable (∀ v ∈ a, ∀ w ∈ b, isBlank (some v) = false →
    isBlank (some w) = false →
    v.plainText ≠ w.plainText))

theorem Json.Apart.symm {a b : Option Json} (h : Json.Apart a b) :
    Json.Apart b a :=
  fun v hv w hw hfilled hfilled' heq => h w hw v hv hfilled' hfilled heq.symm

/-- A value is unshared when it is apart from those of the other rows. Blank
values do not matter: a blank text is never that of a filled value. -/
theorem unshared_iff_apart {field : String} {mode : WriteMode}
    {value : Option Json} {rows : List Record} :
    Unshared field mode value rows ↔ ∀ row ∈ rows,
      (∃ id, mode.ownId = some id ∧ row.id? = some id) ∨
        Json.Apart value (row.get? field) := by
  constructor
  · intro h row hrow
    by_cases hown : ∃ id, mode.ownId = some id ∧ row.id? = some id
    · exact Or.inl hown
    · refine Or.inr fun v hv w hw hfilled _ heq => ?_
      exact ((h v hv (hv ▸ hfilled) row hrow).resolve_left hown) w hw heq.symm
  · intro h v hv hfilled row hrow
    refine (h row hrow).imp_right fun hapart w hw heq => ?_
    rw [hv] at hfilled
    cases hblank : isBlank (some w) with
    | true => exact Json.plainText_ne_of_isBlank hfilled hblank heq.symm
    | false => exact hapart v hv w hw hfilled hblank heq.symm

namespace FieldRule

variable (r : FieldRule)

/-- The identifiers that a value refers to. -/
def referred (value : Json) : List String :=
  match value with
  | .array items =>
      if r.multiple then items.map (·.plainText) else [value.plainText]
  | _ => [value.plainText]

/-- What a rule asks of a value by itself. -/
structure Admits [Pattern.Engine] (value : Option Json) : Prop where
  present : r.required = true → r.isMissing value = false
  allowed : ∀ v, value = some v → isBlank value = false →
    r.localViolation? v = none
  listed : ∀ v, value = some v → isBlank value = false →
    r.reference.isSome = true →
    r.multiple = true → v.isArray = true

/-- A filled value refers to identifiers of the list only. -/
def Resolves (value : Option Json) (ids : List String) : Prop :=
  ∀ v, value = some v → isBlank value = false → ∀ id ∈ r.referred v, id ∈ ids

/-- A value is not taken when no other row has its text. -/
theorem isTaken_eq_false_iff (mode : WriteMode) (value : Json)
    (rows : List Record) :
    r.isTaken mode value rows = false ↔ ∀ row ∈ rows,
      (∃ id, mode.ownId = some id ∧ row.id? = some id) ∨
        ∀ w, row.get? r.field = some w → w.plainText ≠ value.plainText := by
  rw [isTaken, List.any_eq_false]
  refine forall_congr' fun row => imp_congr_right fun _ => ?_
  cases hmode : mode.ownId with
  | none => cases row.get? r.field <;> simp
  | some id =>
      by_cases hid : row.id? = some id
      · simp [hid]
      · cases row.get? r.field <;> simp [hid]

/-- A reference is valid when the collection has every identifier. -/
theorem referenceViolation?_eq_none_iff (value : Json) (ids : List String) :
    r.referenceViolation? value ids = none ↔
    ∀ id ∈ r.referred value, id ∈ ids := by
  cases value with
  | array items =>
      by_cases hm : r.multiple <;> simp [referenceViolation?, referred, hm]
  | _ => simp [referenceViolation?, referred]

/-- A blank value violates nothing but a requirement. -/
theorem verdict_of_isBlank [Pattern.Engine] {src : Source} {slug : String}
    {mode : WriteMode} {value : Option Json} (hblank : isBlank value = true) :
    r.verdict src slug mode value = .ok none ↔
    (r.required = true → r.isMissing value = false) := by
  have hfilter : (value.filter fun v => !isBlank (some v)) = none := by
    cases value with
    | none => rfl
    | some v => simp [Option.filter, hblank]
  rw [verdict, hfilter]
  cases r.required <;> cases r.isMissing value <;> simp

/-- A filled value is checked by itself, then for uniqueness, then as a
reference. -/
theorem verdict_of_filled [Pattern.Engine] {src : Source} {slug : String}
    {mode : WriteMode} {v : Json} (hfilled : isBlank (some v) = false) :
    r.verdict src slug mode (some v) = .ok none ↔
      (r.required = true → r.isMissing (some v) = false) ∧
        r.localViolation? v = none ∧
        r.uniqueVerdict src slug mode v = .ok none ∧
          r.referenceVerdict src v = .ok none := by
  have hfilter : ((some v).filter fun v => !isBlank (some v)) = some v := by
    simp [Option.filter, hfilled]
  rw [verdict, hfilter]
  dsimp only
  split
  next hmissing => simp_all
  next hpresent =>
    have hpresent : r.required = true → r.isMissing (some v) = false := by
      simpa using hpresent
    rw [and_iff_right hpresent]
    cases r.localViolation? v with
    | some message => simp
    | none =>
        cases r.uniqueVerdict src slug mode v with
        | error f => simp [Except.bind]
        | ok found => cases found <;> simp [Except.bind]

/-- A value is unique when it is not taken. -/
theorem uniqueVerdict_none_iff (s : Store) (slug : String) (mode : WriteMode)
    (v : Json) :
    r.uniqueVerdict (s.read Outage.none) slug mode v = .ok none ↔
      (r.unique = true → r.isTaken mode v (s.rows slug) = false) := by
  have hread : s.read Outage.none slug = .ok (s.rows slug) := rfl
  rw [uniqueVerdict, hread]
  cases r.unique <;> simp [Except.map]

/-- A reference is valid when it has the shape of the field and the collection
has its identifiers. -/
theorem referenceVerdict_none_iff (s : Store) (v : Json) :
    r.referenceVerdict (s.read Outage.none) v = .ok none ↔
      (r.reference.isSome = true → r.multiple = true → v.isArray = true) ∧
        ∀ target, r.reference = some target →
          r.referenceViolation? v (idsOf (s.rows target)) = none := by
  have hread : ∀ target, s.read Outage.none target = .ok (s.rows target) :=
    fun _ => rfl
  rw [referenceVerdict]
  cases r.reference with
  | none => simp
  | some target =>
      simp only [hread]
      cases r.multiple <;> cases v.isArray <;> simp [Except.map]

/-- **What a verdict without a violation says**, when all reads succeed. -/
theorem verdict_none_iff [Pattern.Engine] (s : Store) (slug : String)
    (mode : WriteMode) (value : Option Json) :
    r.verdict (s.read Outage.none) slug mode value = .ok none ↔
      r.Admits value ∧
        (r.unique = true → Unshared r.field mode value (s.rows slug)) ∧
        ∀ target, r.reference = some target →
          r.Resolves value (idsOf (s.rows target)) := by
  by_cases hblank : isBlank value = true
  · rw [r.verdict_of_isBlank hblank]
    constructor
    · intro hpresent
      refine ⟨⟨hpresent, ?_, ?_⟩, ?_, ?_⟩
      all_goals simp [Unshared, Resolves, hblank]
    · rintro ⟨hadmits, -⟩
      exact hadmits.present
  · rw [Bool.not_eq_true] at hblank
    obtain ⟨v, rfl⟩ : ∃ v, value = some v := by
      cases value with
      | none => cases hblank
      | some v => exact ⟨v, rfl⟩
    rw [r.verdict_of_filled hblank, uniqueVerdict_none_iff,
      referenceVerdict_none_iff]
    constructor
    · rintro ⟨hpresent, hallowed, hfree, hlisted, hresolved⟩
      refine ⟨⟨hpresent, ?_, ?_⟩, ?_, ?_⟩
      · intro w hw _
        exact Option.some.inj hw ▸ hallowed
      · intro w hw _
        exact Option.some.inj hw ▸ hlisted
      · intro hunique w hw _
        exact Option.some.inj hw ▸
          (r.isTaken_eq_false_iff mode v _).mp (hfree hunique)
      · intro target htarget w hw _
        exact Option.some.inj hw ▸
          (r.referenceViolation?_eq_none_iff v _).mp (hresolved target htarget)
    · rintro ⟨hadmits, hunshared, hresolves⟩
      refine ⟨hadmits.present, hadmits.allowed v rfl hblank,
        ?_, hadmits.listed v rfl hblank, ?_⟩
      · intro hunique
        exact (r.isTaken_eq_false_iff mode v _).mpr
          (hunshared hunique v rfl hblank)
      · intro target htarget
        exact (r.referenceViolation?_eq_none_iff v _).mpr
          (hresolves target htarget v rfl hblank)

end FieldRule

end ServiceLoom
