import ServiceLoom.Pattern.Builtin
import ServiceLoom.Proofs.Record.Order
import ServiceLoom.Proofs.Rule.Constraints

/-!
# The errors of a record

A check of a record reads a collection when a rule first needs it, and keeps
what it has read for the rules that follow.  The plain check takes rule after
rule and reads anew for every constraint that looks into a collection; it ends
at the first read that fails (`RuleSet.plainErrors`).

* `RuleSet.collectErrors_plain` — from any source the two find the same errors;
  a field has one exactly when one of its rules reports one, and the last of
  them has the word; a record is valid when no rule reports anything.
-/

namespace ServiceLoom

/-- What a rule reports about a record. -/
def FieldRule.report [Pattern.Engine] (r : FieldRule) (src : Source)
    (slug : String) (data : Record) (mode : WriteMode) :
    Except Failure (Option String) :=
  r.finding src slug mode (data.get? r.field)

theorem FieldRule.verdict_eq_report [Pattern.Engine] (r : FieldRule)
    (src : Source) (slug : String) (data : Record) (mode : WriteMode) :
    r.verdict src slug mode (data.get? r.field) = r.report src slug data mode :=
  r.verdict_eq_finding src slug mode (data.get? r.field)

namespace RuleSet

/-- The errors with what is reported about a field. -/
def note (field : String) (errors : Dict String) : Option String → Dict String
  | some message => errors.insert field message
  | none => errors

/-- The errors with what the rules report, one after the other. -/
def noteAll (report : FieldRule → Except Failure (Option String))
    (errors : Dict String) (rules : List FieldRule) :
    Except Failure (Dict String) :=
  rules.foldlM (fun errors r => (report r).map (note r.field errors)) errors

/-- The errors of a record, where every rule reads anew. -/
def plainErrors [Pattern.Engine] (rules : RuleSet) (src : Source)
    (slug : String) (data : Record) (mode : WriteMode) :
    Except Failure (Dict String) :=
  noteAll (fun r => r.report src slug data mode) [] rules.rules

/-- The last rule on a field that reports anything reports this. -/
def LastReport (report : FieldRule → Except Failure (Option String))
    (rules : List FieldRule) (field message : String) : Prop :=
  ∃ before r after, rules = before ++ r :: after ∧
    r.field = field ∧ report r = .ok (some message) ∧
    ∀ r' ∈ after, r'.field = field → report r' = .ok none

/-- The errors are those that the rules report. -/
structure Reported (report : FieldRule → Except Failure (Option String))
    (rules : List FieldRule) (errors : Dict String) : Prop where
  ordered : errors.Ordered
  checked : ∀ r ∈ rules, ∃ found, report r = .ok found
  contains_iff : ∀ field, errors.contains field = true ↔
    ∃ r ∈ rules, r.field = field ∧ ∃ message, report r = .ok (some message)
  get?_iff : ∀ field message, errors.get? field = some message ↔
    LastReport report rules field message

/-! ## Noting reports -/

section Notes

variable {report : FieldRule → Except Failure (Option String)} {r : FieldRule}
    {rules : List FieldRule}
  {errors found : Dict String} {field message : String}

/-- Reports are noted exactly when each of them is there, the first one
first. -/
theorem noteAll_cons_ok_iff :
    noteAll report errors (r :: rules) = .ok found ↔
      ∃ first, report r = .ok first ∧
        noteAll report (note r.field errors first) rules = .ok found := by
  rw [noteAll, List.foldlM_cons]
  cases report r with
  | error f => simp [Except.map, bind, Except.bind]
  | ok first => simp [Except.map, bind, Except.bind, noteAll]

theorem ordered_note (h : errors.Ordered) (field : String)
    (first : Option String) : (note field errors first).Ordered := by
  cases first with
  | none => exact h
  | some message => exact h.insert field message

/-- Noting keeps the order of the errors. -/
theorem ordered_noteAll (h : errors.Ordered)
    (hfound : noteAll report errors rules = .ok found) : found.Ordered := by
  induction rules generalizing errors with
  | nil => exact Except.ok.inj hfound ▸ h
  | cons r rest ih =>
      obtain ⟨first, -, hrest⟩ := noteAll_cons_ok_iff.mp hfound
      exact ih (ordered_note h r.field first) hrest

/-- Every report that was noted was there. -/
theorem checked_of_noteAll (hfound : noteAll report errors rules = .ok found) :
    ∀ r ∈ rules, ∃ first, report r = .ok first := by
  induction rules generalizing errors with
  | nil => exact List.forall_mem_nil _
  | cons r rest ih =>
      obtain ⟨first, hfirst, hrest⟩ := noteAll_cons_ok_iff.mp hfound
      exact List.forall_mem_cons.mpr ⟨⟨first, hfirst⟩, ih hrest⟩

/-- The last report is one of the later rules, or that of the first rule when
the later ones report nothing. -/
theorem lastReport_cons_iff :
    LastReport report (r :: rules) field message ↔
    LastReport report rules field message ∨
      (r.field = field ∧ report r = .ok (some message) ∧
        ∀ r' ∈ rules, r'.field = field → report r' = .ok none) := by
  constructor
  · rintro ⟨before, r', after, hsplit, hlast⟩
    cases before with
    | nil =>
        obtain ⟨rfl, rfl⟩ := List.cons.inj hsplit
        exact .inr hlast
    | cons first before =>
        obtain ⟨rfl, rfl⟩ := List.cons.inj hsplit
        exact .inl ⟨before, r', after, rfl, hlast⟩
  · rintro (⟨before, r', after, rfl, hlast⟩ | hlast)
    · exact ⟨r :: before, r', after, rfl, hlast⟩
    · exact ⟨[], r, rules, rfl, hlast⟩

/-- An error is the last report on its field; where no rule reports anything it
was there before. -/
theorem get?_noteAll_iff (hfound : noteAll report errors rules = .ok found) :
    found.get? field = some message ↔ LastReport report rules field message ∨
      (errors.get? field = some message ∧ ∀ r ∈ rules, r.field = field →
        report r = .ok none) := by
  induction rules generalizing errors with
  | nil =>
      obtain rfl := Except.ok.inj hfound
      simp [LastReport]
  | cons r rest ih =>
      obtain ⟨first, hfirst, hrest⟩ := noteAll_cons_ok_iff.mp hfound
      rw [ih hrest, lastReport_cons_iff, List.forall_mem_cons, or_assoc, hfirst]
      refine or_congr_right ?_
      -- no later rule has the word: what is there is the report of the first
      -- rule, or what was there before it
      cases first with
      | none => simp [note]
      | some reported =>
          rcases eq_or_ne field r.field with rfl | hne
          · simp [note]
          · simp [note, Dict.get?_insert_of_ne errors reported hne, hne.symm]

theorem contains_note (field other : String) (errors : Dict String)
    (first : Option String) :
    (note field errors first).contains other = true ↔
      errors.contains other = true ∨ (field = other ∧ first.isSome = true) := by
  cases first with
  | none => simp [note]
  | some message =>
      rcases eq_or_ne other field with rfl | hne
      · simp [note, Dict.contains]
      · simp [note, Dict.contains,
          Dict.get?_insert_of_ne errors message hne, hne.symm]

/-- **A field has an error when it had one before, or when a rule on it reports
one.** -/
theorem contains_noteAll_iff (hfound : noteAll report errors rules = .ok found) :
    found.contains field = true ↔ errors.contains field = true ∨
      ∃ r ∈ rules, r.field = field ∧
        ∃ message, report r = .ok (some message) := by
  induction rules generalizing errors with
  | nil =>
      obtain rfl := Except.ok.inj hfound
      simp
  | cons r rest ih =>
      obtain ⟨first, hfirst, hrest⟩ := noteAll_cons_ok_iff.mp hfound
      have hreports : (∃ message, report r = .ok (some message)) ↔
          first.isSome = true := by
        rw [hfirst]
        cases first <;> simp
      rw [ih hrest, contains_note, List.exists_mem_cons_iff, hreports, or_assoc]

/-- **Noted reports are the errors that the rules report.** -/
theorem reported_of_noteAll (hfound : noteAll report [] rules = .ok found) :
    Reported report rules found where
  ordered := ordered_noteAll .nil hfound
  checked := checked_of_noteAll hfound
  contains_iff field :=
    (contains_noteAll_iff hfound).trans (or_iff_right (by simp [Dict.contains]))
  get?_iff field message :=
    (get?_noteAll_iff hfound).trans (or_iff_left (by simp))

end Notes

/-! ## The check of a record -/

section Check

variable (rules : RuleSet) (src : Source) (slug : String) (data : Record)
    (mode : WriteMode)

/-- The verdicts of rules are noted reports. -/
theorem verdicts_eq_noteAll [Pattern.Engine] (rules : List FieldRule)
    (errors : Dict String) :
    verdicts src slug data mode rules errors =
      noteAll (fun r => r.report src slug data mode) errors rules := by
  induction rules generalizing errors with
  | nil => rfl
  | cons r rest ih =>
      rw [verdicts, noteAll, List.foldlM_cons, FieldRule.verdict_eq_report]
      cases r.report src slug data mode with
      | error f => rfl
      | ok found =>
          cases found with
          | none => exact ih errors
          | some message => exact ih (errors.insert r.field message)

/-- **A check that keeps what it reads is the plain check.** From any source it
finds the errors that the plain check finds, or fails as it does.  The errors
are those that the rules report, the last one on each field, and the record is
valid exactly when no rule reports any. -/
theorem collectErrors_plain [Pattern.Engine] :
    (rules.collectErrors slug data mode).answerFrom src =
      some (rules.plainErrors src slug data mode) ∧
      (∀ f, rules.plainErrors src slug data mode = .error f →
        (rules.validate slug data mode).answerFrom src = some (.error f)) ∧
      ∀ errors, rules.plainErrors src slug data mode = .ok errors →
        Reported (fun r => r.report src slug data mode) rules.rules errors ∧
        ((rules.validate slug data mode).answerFrom src = some (.ok ()) ↔
          ∀ r ∈ rules.rules, r.report src slug data mode = .ok none) := by
  have hplain : verdicts src slug data mode rules.rules [] =
      rules.plainErrors src slug data mode :=
    verdicts_eq_noteAll src slug data mode rules.rules []
  rw [collectErrors_answerFrom, validate_answerFrom, hplain]
  refine ⟨rfl, ?_, ?_⟩
  · intro f hfailed
    rw [hfailed]
    rfl
  · intro errors hfound
    refine ⟨reported_of_noteAll hfound, ?_⟩
    have hvalid := verdicts_eq_nil_iff src slug data mode rules.rules
    simp only [FieldRule.verdict_eq_report, hplain, hfound] at hvalid
    rw [← hvalid, hfound]
    cases errors <;> simp [Except.bind]

end Check

end RuleSet

/-- The code of an order is unique and short; its item and its parts are items,
and there may be a supplier. -/
def orderRules : RuleSet :=
  ⟨[{ field := "code", label := "Code", kind := .text, unique := true },
    { field := "item", label := "Item", kind := .text,
      reference := some "items" },
    { field := "parts", label := "Parts", kind := .text,
      multiple := true, reference := some "items" },
    { field := "code", label := "Code", kind := .text, maxLength := some 3 },
    { field := "supplier", label := "Supplier", kind := .text,
      reference := some "suppliers" }]⟩

/-- Orders and items can be read, and nothing else. -/
def orderSource : Source := fun slug =>
  if slug = "orders" then .ok [[("code", .string "AB-77"), ("id", .string "1")]]
  else if slug = "items" then .ok [[("id", .string "a")]]
  else .error (Call.findAll.failure slug)

/-- An order whose code is taken and too long, for an item that is not there. -/
def doubtfulOrder : Record :=
  [("code", .string "AB-77"), ("item", .string "b"),
    ("parts", .array [.string "a"])]

/-- The code has the error of the later of its two rules, and the item has its
own. With a supplier the check fails, since suppliers cannot be read. -/
theorem orderRules_errors :
    let errors : Dict String :=
      [("code", "Code must be at most 3 characters"),
        ("item", "Item has an invalid reference")]
    let supplied := Dict.insert doubtfulOrder "supplier" (.string "s")
    orderRules.plainErrors orderSource "orders" doubtfulOrder .create =
      .ok errors ∧
      (orderRules.collectErrors "orders" doubtfulOrder .create).answerFrom
        orderSource = some (.ok errors) ∧
      RuleSet.Reported (fun r => r.report orderSource
        "orders" doubtfulOrder .create) orderRules.rules errors ∧
      (orderRules.validate "orders" supplied .create).answerFrom orderSource =
        some (.error (Call.findAll.failure "suppliers")) := by
  intro errors supplied
  have hfound : orderRules.plainErrors orderSource
      "orders" doubtfulOrder .create = .ok errors := by rfl
  have hfailed : orderRules.plainErrors orderSource "orders" supplied .create =
      .error (Call.findAll.failure "suppliers") := by rfl
  obtain ⟨hanswer, -, hreported⟩ :=
    orderRules.collectErrors_plain orderSource "orders" doubtfulOrder .create
  obtain ⟨-, hrefused, -⟩ :=
    orderRules.collectErrors_plain orderSource "orders" supplied .create
  exact ⟨hfound, hfound ▸ hanswer, (hreported errors hfound).1,
    hrefused _ hfailed⟩

end ServiceLoom
