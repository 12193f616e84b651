import ServiceLoom.Decimal.Reader
import ServiceLoom.Pattern.Builtin
import ServiceLoom.Plan.Code
import ServiceLoom.Plan.Compiler
import ServiceLoom.Proofs.Decimal.Whole
import ServiceLoom.Proofs.Json.Numeral
import ServiceLoom.Proofs.Plan.CodeReader
import ServiceLoom.Schema.Validation

/-!
# The code of rules and guards denotes them

The running service uses the rules that its code builds, not the ones from which
the code was written.  A reader of that code, which performs the calls that it
reads, gets back the rule set (`readAll_fieldRules`) and the guard
(`readAll_deleteGuard`): no attribute is dropped or misread, and what no call
sets has the value with which a rule starts.  Whether a rule is numeric is never
written, and follows from its kind and its bounds
(`SchemaGraph.fieldRule_isBuilt`).
-/

namespace ServiceLoom

open CodeReader
open Text.Literal (encode)

/-! ## Lists in code -/

section Lists

variable {α : Type} {write : α → String} {item : Reader α}

theorem Code.commaList_singleton (a : String) : Code.commaList [a] = a := by
  rw [Code.commaList, String.intercalate_singleton]

theorem Code.commaList_cons_cons (a b : String) (rest : List String) :
    Code.commaList (a :: b :: rest) =
      a ++ ("," ++ (" " ++ Code.commaList (b :: rest))) := by
  rw [← String.toList_inj]
  simp [Code.commaList, String.toList_intercalate]

/-- Items on one line make a list. -/
theorem listText_commaList (xs : List α) :
    ListText write xs (Code.commaList (xs.map write) ++ "]") := by
  induction xs with
  | nil => exact .nil
  | cons x xs ih =>
      cases xs with
      | nil =>
          rw [List.map_singleton, Code.commaList_singleton]
          exact .last x
      | cons y xs =>
          rw [List.map_cons, List.map_cons, Code.commaList_cons_cons,
            ← List.map_cons, String.append_assoc, String.append_assoc,
            String.append_assoc]
          exact .cons x (.gap (by decide) ih)

/-- Items with one on a line make a list. -/
theorem listText_lines (xs : List α) : ListText write xs
    (String.join (xs.map fun x => Code.bodyIndent ++
      "    " ++ write x ++ ",\n") ++ (Code.bodyIndent ++ "]")) := by
  have hcomma : ",\n" = "," ++ "\n" := rfl
  induction xs with
  | nil =>
      rw [List.map_nil, String.join_nil, String.empty_append]
      exact .gap (by decide) .nil
  | cons x xs ih =>
      rw [List.map_cons, String.join_cons]
      rw [hcomma] at ih ⊢
      simp only [String.append_assoc] at ih ⊢
      exact .gap (by decide) (.gap (by decide) (.cons x (.gap (by decide) ih)))

/-- A list with one item on a line is read, as the argument of a function. -/
theorem reads_listed {function : String}
    {xs : List α} (hfunction : StartsWith (!isGap ·) function)
    (hitem : ∀ x ∈ xs, Reads Delimited item (write x) x)
    (hstart : ∀ x ∈ xs, StartsWith isItemStart (write x)) :
    Reads Anything (CodeReader.listed function item)
      (Code.listed function (xs.map write)) xs := by
  have htext : Code.listed function (xs.map write) =
      (function ++ "(") ++ ("vec![" ++ ("\n" ++
      ((String.join (xs.map fun x => Code.bodyIndent ++
        "    " ++ write x ++ ",\n") ++ (Code.bodyIndent ++ "]")) ++
        ")"))) := by
    have hopen : "(vec![\n" = "(" ++ ("vec![" ++ "\n") := rfl
    have hclose : "])" = "]" ++ ")" := rfl
    rw [Code.listed, hopen, hclose, List.map_map]
    simp only [String.append_assoc]
    rfl
  rw [htext]
  refine (reads_symbol (hfunction.append "(")).bind
    ((reads_symbol ⟨_, _, rfl, rfl⟩).bind (.gap (by decide) ?_))
  exact (reads_items (listText_lines xs) hitem hstart).bind
    ((reads_symbol ⟨_, _, rfl, rfl⟩).map rfl)

end Lists

/-- A text literal starts with its quote. -/
theorem encode_startsWith (s : String) {p : Char → Bool} (hp : p '"' = true) :
    StartsWith p (encode s) :=
  ⟨'"', _, rfl, hp⟩

/-- A slice of text literals is read. -/
theorem reads_slice (values : List String) :
    Reads Anything CodeReader.slice (Code.slice values) values := by
  rw [Code.slice, String.append_assoc]
  exact (reads_symbol ⟨_, _, rfl, rfl⟩).bind
    (reads_items (listText_commaList values)
    (fun s _ => (reads_literal s).delimited) fun s _ => encode_startsWith s rfl)

/-! ## Floating-point literals -/

section Float

open Decimal

variable {l : Layout}

/-- A numeral has characters of numbers only. -/
theorem isNumeral_of_json {cs : List Char} (h : Json.IsNumeral cs) :
    IsNumeral cs := by
  obtain ⟨hsign, ⟨hwhole, -⟩, hfraction, hexponent⟩ := h
  next sign whole fraction exponent =>
  have hdigits : ∀ {ds : List Char}, Json.IsDigits ds →
      ds.all isNumeralChar = true := fun hds =>
        List.all_eq_true.mpr fun c hc => by
          simp [isNumeralChar, Char.isAlphanum, hds.2 c hc]
  have hsign : sign.all isNumeralChar = true := by cases hsign <;> rfl
  have hfraction : fraction.all isNumeralChar = true := by
    cases hfraction with
    | none => rfl
    | point hds => rw [List.all_cons, hdigits hds]; rfl
  have hexponent : exponent.all isNumeralChar = true := by
    cases hexponent with
    | none => rfl
    | plain hds => rw [List.all_cons, hdigits hds]; rfl
    | plus hds | minus hds =>
        rw [List.all_cons, List.all_cons, hdigits hds]; rfl
  refine ⟨?_, ?_⟩
  · intro hnil
    exact hwhole.1
      (List.append_eq_nil_iff.mp (List.append_eq_nil_iff.mp hnil).2).1
  · rw [List.all_append, List.all_append, List.all_append,
      hsign, hdigits hwhole, hfraction, hexponent]
    rfl

/-- A float is written with characters of numbers. -/
theorem isNumeral_write (x : Float) : IsNumeral (l.write x).toList := by
  cases hreading : reading x with
  | finite b =>
      exact isNumeral_of_json (Layout.isNumeral_write
        (isFinite_of_value? (value?_of_reading hreading)) l)
  | notANumber =>
      rw [Layout.write, hreading]
      dsimp only
      exact ⟨by decide, by decide⟩
  | infinite negative =>
      rw [Layout.write, hreading]
      dsimp only
      split <;> exact ⟨by decide, by decide⟩

end Float

/-! ## Rules -/

/-- The name of the method that takes a step, and the text of its argument. -/
def RuleStep.call : RuleStep → String × String
  | required => ("required", "")
  | unique => ("unique", "")
  | multiple => ("multiple", "")
  | minLength n => ("min_length", toString n)
  | maxLength n => ("max_length", toString n)
  | pattern source => ("pattern", encode source)
  | min x => ("min", Code.float x)
  | max x => ("max", Code.float x)
  | options values => ("options", Code.slice values)
  | references slug => ("references", encode slug)

/-- The call that takes a step. -/
def RuleStep.code (s : RuleStep) : String :=
  "." ++ (s.call.1 ++ ("(" ++ (s.call.2 ++ ")")))

/-- The steps that lead to a rule. -/
def FieldRule.steps (r : FieldRule) : List RuleStep :=
  ((if r.required then [.required] else []) ++
      (if r.unique then [.unique] else []) ++
      (if r.multiple then [.multiple] else [])) ++
    ((r.minLength.map .minLength).toList ++ (r.maxLength.map .maxLength).toList ++
      (r.pattern.map .pattern).toList) ++
    ((r.min.map .min).toList ++ (r.max.map .max).toList) ++
    ((if r.options.isEmpty then [] else [.options r.options]) ++
      (r.reference.map .references).toList)

theorem Code.stepIf_eq {name : String} {s : RuleStep} (hs : s.call = (name, ""))
    (b : Bool) :
    Code.stepIf b name =
      String.join ((if b then [s] else []).map RuleStep.code) := by
  cases b with
  | false => rfl
  | true =>
      have hclose : "()" = "(" ++ ("" ++ ")") := rfl
      simp [Code.stepIf, RuleStep.code, hs, hclose, String.append_assoc]

theorem Code.stepWith_eq {α : Type} {name : String} {s : α → RuleStep}
    {write : α → String} (hs : ∀ x, (s x).call = (name, write x))
    (x : Option α) :
    Code.stepWith name write x =
      String.join ((x.map s).toList.map RuleStep.code) := by
  cases x with
  | none => rfl
  | some x =>
      simp [Code.stepWith, RuleStep.code, hs, Code.call,
        Code.commaList, String.append_assoc]

/-- The code of a rule: the call that makes one of its kind, and those that take
the steps. -/
theorem Code.rule_eq (r : FieldRule) : Code.rule r =
    Code.call "FieldRule::new" [encode r.field, encode r.label,
      Code.fieldKind r.kind] ++
      String.join (r.steps.map RuleStep.code) := by
  have hoptions : (if r.options.isEmpty then ""
      else "." ++ Code.call "options" [Code.slice r.options]) =
      String.join ((if r.options.isEmpty then []
          else [RuleStep.options r.options]).map RuleStep.code) := by
    split
    · rfl
    · rw [Code.call]
      simp only [Code.commaList, String.intercalate_singleton,
        List.map_singleton, RuleStep.code, RuleStep.call, String.append_assoc,
        String.join_cons, String.join_nil, String.append_empty]
  simp only [Code.rule, FieldRule.steps, List.map_append, String.join_append,
    String.append_assoc, hoptions, Code.stepIf_eq (s := .required) rfl,
    Code.stepIf_eq (s := .unique) rfl, Code.stepIf_eq (s := .multiple) rfl,
    Code.stepWith_eq (s := .minLength) fun _ => rfl,
    Code.stepWith_eq (s := .maxLength) fun _ => rfl,
    Code.stepWith_eq (s := .pattern) fun _ => rfl,
    Code.stepWith_eq (s := .min) fun _ => rfl,
    Code.stepWith_eq (s := .max) fun _ => rfl,
    Code.stepWith_eq (s := .references) fun _ => rfl]

/-- Whether a rule is numeric follows from its kind and its bounds. -/
def FieldRule.IsBuilt (r : FieldRule) : Prop :=
  r.numeric = (decide (r.kind = .integer ∨ r.kind = .number) ||
    r.min.isSome || r.max.isSome)

/-- The steps lead to the rule. -/
theorem FieldRule.IsBuilt.build_steps {r : FieldRule} (h : r.IsBuilt) :
    (FieldRule.ofKind r.field r.label r.kind).build r.steps = r := by
  have happend : ∀ (start : FieldRule) (flags texts bounds rest : List RuleStep),
      start.build (flags ++ texts ++ bounds ++ rest) =
        (((start.build flags).build texts).build bounds).build rest := by
    intro start flags texts bounds rest
    simp only [build, List.foldl_append]
  have hflags : ∀ start : FieldRule, start.required = false →
      start.unique = false → start.multiple = false →
      start.build ((if r.required then [.required] else []) ++
        (if r.unique then [.unique] else []) ++
        (if r.multiple then [.multiple] else [])) =
        { start with
          required := r.required, unique := r.unique,
          multiple := r.multiple } := by
    rintro ⟨⟩ rfl rfl rfl
    cases r.required <;> cases r.unique <;> cases r.multiple <;> rfl
  have htexts : ∀ start : FieldRule, start.minLength = none →
      start.maxLength = none → start.pattern = none →
      start.build ((r.minLength.map .minLength).toList ++
        (r.maxLength.map .maxLength).toList ++
        (r.pattern.map .pattern).toList) =
        { start with
          minLength := r.minLength, maxLength := r.maxLength,
          pattern := r.pattern } := by
    rintro ⟨⟩ rfl rfl rfl
    cases r.minLength <;> cases r.maxLength <;> cases r.pattern <;> rfl
  have hbounds : ∀ start : FieldRule, start.min = none → start.max = none →
      start.build ((r.min.map .min).toList ++ (r.max.map .max).toList) =
        { start with
          numeric := start.numeric || r.min.isSome || r.max.isSome,
          min := r.min, max := r.max } := by
    rintro ⟨⟩ rfl rfl
    cases r.min <;> cases r.max <;> simp [build, RuleStep.apply]
  have hrest : ∀ start : FieldRule, start.options = [] →
      start.reference = none →
      start.build ((if r.options.isEmpty then [] else [.options r.options]) ++
        (r.reference.map .references).toList) =
        { start with options := r.options, reference := r.reference } := by
    rintro ⟨⟩ rfl rfl
    cases r.options <;> cases r.reference <;> rfl
  rw [steps, happend, hflags _ rfl rfl rfl, htexts _ rfl rfl rfl,
    hbounds _ rfl rfl, hrest _ rfl rfl]
  obtain ⟨⟩ := r
  rw [IsBuilt] at h
  dsimp only at h
  rw [h]
  rfl

/-- Compiled rules are built by steps. -/
theorem SchemaGraph.fieldRule_isBuilt [Pattern.Engine] (g : SchemaGraph)
    (slug : String) (f : Field) : (g.fieldRule slug f).IsBuilt := by
  have hkind : f.type.isNumeric =
      decide (f.type.kind = .integer ∨ f.type.kind = .number) := by
    cases f.type with
    | other name => simp [FieldType.isNumeric, FieldType.kind]
    | _ => decide
  rw [FieldRule.IsBuilt, fieldRule, hkind]

section Read

variable {readFloat : String → Option Float}

/-- A step is read from the call that takes it, if its bound is read from its
literal. -/
theorem reads_step (s : RuleStep)
    (hfloat : ∀ x, s = .min x ∨ s = .max x → readFloat (Code.float x) = some x) :
    Reads Anything (methodCall (namedStep readFloat)) s.code s := by
  have hbound : ∀ x, s = .min x ∨ s = .max x →
      Reads Delimited (float readFloat) (Code.float x) x := by
    intro x hx
    exact reads_float (isNumeral_write x) (hfloat x hx)
  cases s with
  | required => exact reads_nullaryCall (reads_word rfl rfl rfl) rfl
  | unique => exact reads_nullaryCall (reads_word rfl rfl rfl) rfl
  | multiple => exact reads_nullaryCall (reads_word rfl rfl rfl) rfl
  | minLength n =>
      exact reads_unaryCall (reads_word rfl rfl rfl) rfl (reads_natural n)
  | maxLength n =>
      exact reads_unaryCall (reads_word rfl rfl rfl) rfl (reads_natural n)
  | pattern source =>
      exact reads_unaryCall (reads_word rfl rfl rfl)
        rfl (reads_literal source).delimited
  | min x =>
      exact reads_unaryCall (reads_word rfl rfl rfl) rfl (hbound x (.inl rfl))
  | max x =>
      exact reads_unaryCall (reads_word rfl rfl rfl) rfl (hbound x (.inr rfl))
  | options values =>
      exact reads_unaryCall (reads_word rfl rfl rfl)
        rfl (reads_slice values).delimited
  | references slug =>
      exact reads_unaryCall (reads_word rfl rfl rfl)
        rfl (reads_literal slug).delimited

theorem reads_fieldKind (k : FieldKind) :
    Reads Delimited CodeReader.fieldKind (Code.fieldKind k) k := by
  cases k with
  | text => exact (reads_word rfl rfl rfl).map rfl
  | integer => exact (reads_word rfl rfl rfl).map rfl
  | number => exact (reads_word rfl rfl rfl).map rfl
  | boolean => exact (reads_word rfl rfl rfl).map rfl

/-- The bounds among the steps to a rule are its bounds. -/
theorem FieldRule.bound_of_mem_steps {r : FieldRule} {s : RuleStep}
    (hs : s ∈ r.steps) {x : Float} (hx : s = .min x ∨ s = .max x) :
    r.min = some x ∨ r.max = some x := by
  rcases hx with rfl | rfl
  · left
    simpa [steps] using hs
  · right
    simpa [steps] using hs

/-- **A rule is read from its code**, if its bounds are read from their
literals. -/
theorem reads_rule {r : FieldRule} (hbuilt : r.IsBuilt)
    (hfloat : ∀ x, r.min = some x ∨ r.max = some x →
      readFloat (Code.float x) = some x) :
    Reads Delimited (CodeReader.rule readFloat) (Code.rule r) r := by
  have hsteps : Reads Delimited (chain (methodCall (namedStep readFloat)))
      (String.join (r.steps.map RuleStep.code)) r.steps :=
    reads_chain (fun s hs => reads_step s fun x hx =>
      hfloat x (FieldRule.bound_of_mem_steps hs hx))
      fun s _ => .append ⟨_, _, rfl, rfl⟩ _
  have htext : Code.rule r = "FieldRule::new(" ++
      (encode r.field ++ ("," ++ (" " ++ (encode r.label ++ ("," ++
      (" " ++ (Code.fieldKind r.kind ++
          (")" ++ String.join (r.steps.map RuleStep.code))))))))) := by
    have hopen : "FieldRule::new(" = "FieldRule::new" ++ "(" := rfl
    rw [Code.rule_eq, hopen]
    simp only [Code.call, Code.commaList_cons_cons,
      Code.commaList_singleton, String.append_assoc]
  rw [htext]
  refine (reads_symbol ⟨_, _, rfl, rfl⟩).bind
    ((reads_literal _).bind ((reads_symbol ⟨_, _, rfl, rfl⟩).bind ?_))
  refine .gap (by decide)
    ((reads_literal _).bind ((reads_symbol ⟨_, _, rfl, rfl⟩).bind ?_))
  refine .gap (by decide)
    ((reads_fieldKind _).bindDelimited (.append ⟨_, _, rfl, rfl⟩ _) ?_)
  refine (reads_symbol ⟨_, _, rfl, rfl⟩).bind (hsteps.map ?_)
  rw [hbuilt.build_steps]

/-- The code of a rule starts with a letter. -/
theorem rule_startsWith (r : FieldRule) :
    StartsWith isItemStart (Code.rule r) := by
  rw [Code.rule_eq]
  refine .append (.append (.append (.append ⟨_, _, rfl, ?_⟩ _) _) _) _
  decide

/-- **A rule set is read from its code.** -/
theorem reads_ruleSet {s : RuleSet} (hbuilt : ∀ r ∈ s.rules, r.IsBuilt)
    (hfloat : ∀ r ∈ s.rules, ∀ x, r.min = some x ∨ r.max = some x →
      readFloat (Code.float x) = some x) :
    Reads Anything (CodeReader.ruleSet readFloat) (Code.ruleSet s) s :=
  (reads_listed ⟨_, _, rfl, rfl⟩
    (fun r hr => reads_rule (hbuilt r hr) (hfloat r hr))
    fun r _ => rule_startsWith r).map rfl

end Read

/-! ## Guards -/

/-- The call that adds a field to a dependent. -/
def RefField.code (f : RefField) : String :=
  "." ++ Code.call (if f.multiple then "via_many" else "via") [encode f.name]

theorem reads_refField (f : RefField) :
    Reads Anything (methodCall namedField) f.code f := by
  obtain ⟨name, multiple⟩ := f
  have hname := (reads_literal name).delimited
  rw [RefField.code, Code.call, Code.commaList_singleton,
    String.append_assoc, String.append_assoc]
  cases multiple with
  | false =>
      exact reads_unaryCall (f := fun n => RefField.mk n false)
        (reads_word rfl rfl rfl) rfl hname
  | true =>
      exact reads_unaryCall (f := fun n => RefField.mk n true)
        (reads_word rfl rfl rfl) rfl hname

/-- **A dependent is read from its code.** -/
theorem reads_dependent (d : DependentSpec) :
    Reads Delimited CodeReader.dependent (Code.dependent d) d := by
  have hfields : Reads Delimited (chain (methodCall namedField))
      (String.join (d.fields.map RefField.code)) d.fields :=
    reads_chain (fun f _ => reads_refField f) fun f _ =>
      .append ⟨_, _, rfl, rfl⟩ _
  have hadded : ∀ (fields added : List RefField), added.foldl
      (fun (d : DependentSpec) f => { d with fields := d.fields ++ [f] })
        ⟨d.entity, d.displayField, fields⟩ =
        ⟨d.entity, d.displayField, fields ++ added⟩ := by
    intro fields added
    induction added generalizing fields with
    | nil => simp
    | cons f added ih => simp [ih]
  have htext : Code.dependent d = "DependentSpec::new(" ++
      (encode d.entity ++ ("," ++ (" " ++
      (encode d.displayField ++
          (")" ++ String.join (d.fields.map RefField.code)))))) := by
    have hopen : "DependentSpec::new(" = "DependentSpec::new" ++ "(" := rfl
    have hcall : Code.dependent d = Code.call "DependentSpec::new"
        [encode d.entity, encode d.displayField] ++
        String.join (d.fields.map RefField.code) := rfl
    rw [hcall, hopen]
    simp only [Code.call, Code.commaList_cons_cons,
      Code.commaList_singleton, String.append_assoc]
  rw [htext]
  refine (reads_symbol ⟨_, _, rfl, rfl⟩).bind
    ((reads_literal _).bind ((reads_symbol ⟨_, _, rfl, rfl⟩).bind ?_))
  refine .gap (by decide) ((reads_literal _).bind
    ((reads_symbol ⟨_, _, rfl, rfl⟩).bind (hfields.map ?_)))
  rw [hadded]
  rfl

/-- **A guard is read from its code.** -/
theorem reads_deleteGuard (g : DeleteGuard) :
    Reads Anything CodeReader.deleteGuard (Code.deleteGuard g) g :=
  (reads_listed ⟨_, _, rfl, rfl⟩ (fun d _ => reads_dependent d)
    fun d _ => .append
      (.append (.append (.append ⟨_, _, rfl, by decide⟩ _) _) _) _).map rfl

/-! ## Methods -/

/-- A whole text is read, whatever blanks stand behind it. -/
theorem readAll_eq {α : Type} {r : Reader α}
    {text : String} {x : α} (h : Reads Anything r text x) {blanks : String}
    (hblanks : blanks.toList.all isGap = true) :
    readAll r (text ++ blanks) = some x := by
  have hread := h [] blanks.toList rfl trivial
  rw [List.nil_append] at hread
  rw [readAll, String.toList_append, hread]
  exact if_pos hblanks

/-- The parts of a function. -/
theorem Code.function_eq (signature body : String) :
    Code.function signature body =
    ("\n" ++ (Code.itemIndent ++
      (signature ++ (" " ++ ("\x7b" ++ ("\n" ++ (Code.bodyIndent ++ (body ++
      ("\n" ++ (Code.itemIndent ++ "\x7d")))))))))) ++ "\n" := by
  have hopen : " \x7b\n" = " " ++ ("\x7b" ++ "\n") := rfl
  have hclose : "\x7d\n" = "\x7d" ++ "\n" := rfl
  rw [Code.function, hopen, hclose]
  simp only [String.append_assoc]

/-- **A rule set is read from its method.** -/
theorem readAll_fieldRules {s : RuleSet}
    {readFloat : String → Option Float} (hbuilt : ∀ r ∈ s.rules, r.IsBuilt)
    (hfloat : ∀ r ∈ s.rules, ∀ x, r.min = some x ∨ r.max = some x →
      readFloat (Code.float x) = some x) :
    readAll (fieldRulesMethod readFloat) (Code.method (.fieldRules s)) =
      some s := by
  have htext : Code.method (.fieldRules s) =
      ("\n" ++ (Code.itemIndent ++ ("fn field_rules() -> &'static RuleSet" ++
      (" " ++ ("\x7b" ++ ("\n" ++ (Code.bodyIndent ++
        ("static RULES: LazyLock<RuleSet> = LazyLock::new(||" ++
        (" " ++ (Code.ruleSet s ++ (");" ++
          ("\n" ++ (Code.bodyIndent ++ ("&RULES" ++ ("\n" ++ (Code.itemIndent ++
          "\x7d")))))))))))))))) ++ "\n" := by
    have hcell : "static RULES: LazyLock<RuleSet> = LazyLock::new(|| " =
        "static RULES: LazyLock<RuleSet> = LazyLock::new(||" ++ " " := rfl
    have hend : ");\n" = ");" ++ "\n" := rfl
    rw [Code.method, Code.function_eq, hcell, hend]
    simp only [String.append_assoc]
  rw [htext]
  refine readAll_eq (.gap (by decide) (.gap (by decide) ?_)) (by decide)
  refine (reads_symbol ⟨_, _, rfl, rfl⟩).bind
    (.gap (by decide) ((reads_symbol ⟨_, _, rfl, rfl⟩).bind ?_))
  refine .gap (by decide) (.gap (by decide)
    ((reads_symbol ⟨_, _, rfl, rfl⟩).bind (.gap (by decide) ?_)))
  refine (reads_ruleSet hbuilt hfloat).bind
    ((reads_symbol ⟨_, _, rfl, rfl⟩).bind ?_)
  refine .gap (by decide)
    (.gap (by decide) ((reads_symbol ⟨_, _, rfl, rfl⟩).bind ?_))
  exact .gap (by decide)
    (.gap (by decide) ((reads_symbol ⟨_, _, rfl, rfl⟩).map rfl))

/-- **A guard is read from its method.** -/
theorem readAll_deleteGuard (g : DeleteGuard) :
    readAll deleteGuardMethod (Code.method (.deleteGuard g)) = some g := by
  rw [Code.method, Code.function_eq]
  refine readAll_eq (.gap (by decide) (.gap (by decide) ?_)) (by decide)
  refine (reads_symbol ⟨_, _, rfl, rfl⟩).bind
    (.gap (by decide) ((reads_symbol ⟨_, _, rfl, rfl⟩).bind ?_))
  refine .gap (by decide) (.gap (by decide) ((reads_deleteGuard g).bind ?_))
  exact .gap (by decide)
    (.gap (by decide) ((reads_symbol ⟨_, _, rfl, rfl⟩).map rfl))

/-- **The code of the compiled rules and of the compiled guard denotes them**: a
reader that performs the calls in the methods gets them back, if it reads the
bounds from their literals. -/
theorem SchemaGraph.methods_denote [Pattern.Engine]
    {g : SchemaGraph} {e : Entity} {readFloat : String → Option Float}
    (hfloat : ∀ r ∈ (g.compile e).fieldRules.rules, ∀ x, r.min = some x ∨
      r.max = some x → readFloat (Code.float x) = some x) :
    readAll (fieldRulesMethod readFloat)
        (Code.method (.fieldRules (g.compile e).fieldRules)) =
        some (g.compile e).fieldRules ∧
      readAll deleteGuardMethod
        (Code.method (.deleteGuard (g.compile e).deleteGuard)) =
        some (g.compile e).deleteGuard := by
  refine ⟨readAll_fieldRules (fun r hr => ?_) hfloat, readAll_deleteGuard _⟩
  obtain ⟨f, -, rfl⟩ := List.mem_map.mp hr
  exact g.fieldRule_isBuilt e.slug f

/-- Tools with a price within bounds, a grade and a supplier, and orders that
list them. -/
def toolDocument : Document where
  projectName := "tools"
  modules := []
  entities := [{ slug := "suppliers" },
    { slug := "orders", fields := [{ name := "tool_ids" }] },
    { slug := "tools", fields := [
      { name := "price", type := .number, label := some "Net \"price\"",
        min := some 0.5, max := some 99.5 },
      { name := "grade", minLength := some 1,
        options := [.string "a\\b", .string "c\n"] },
      { name := "supplier_id", required := true }] }]

/-- The tools as they are served. -/
def tools : Entity :=
  { slug := "tools", module := some defaultModule, fields := [
      { name := "price", type := .number, label := some "Net \"price\"",
        min := some 0.5, max := some 99.5 },
      { name := "grade", minLength := some 1,
        options := [.string "a\\b", .string "c\n"] },
      { name := "supplier_id", required := true }] }

/-- The graph of the tools. -/
def toolGraph : SchemaGraph where
  projectName := "tools"
  modules := ModuleConfig.ofSettings []
  entities := [{ slug := "suppliers", module := some defaultModule },
    { slug := "orders", module := some defaultModule,
      fields := [{ name := "tool_ids" }] }, tools]
  edges := [⟨"orders", "tool_ids", "tools", false, true⟩,
    ⟨"tools", "supplier_id", "suppliers", false, false⟩]
  children := []
  warnings := []

/-- The bounds of the tools are read from their literals. -/
theorem tools_bounds : (toolGraph.compile tools).fieldRules.rules.all
      (fun r => (r.min.toList ++ r.max.toList).all
    fun x => decide (Decimal.read? (Code.float x) = some x)) = true := by decide

/-- The rules of the tools, with their bounds, and their guard are denoted by
their code. -/
theorem toolDocument_denoted : toolDocument.validate = .ok toolGraph ∧
    tools ∈ toolGraph.entities ∧
    (toolGraph.compile tools).fieldRules.rules.map
      (fun r => (r.min, r.max, r.numeric, r.reference)) =
      [(some 0.5, some 99.5, true, none), (none, none, false, none),
        (none, none, false, some "suppliers")] ∧
    (toolGraph.compile tools).deleteGuard =
      ⟨[⟨"orders", "tool_ids", [⟨"tool_ids", true⟩]⟩]⟩ ∧
    Decimal.read? (Code.float 0.5) = some 0.5 ∧
    Decimal.read? (Code.float 99.5) = some 99.5 ∧
    readAll (fieldRulesMethod Decimal.read?)
      (Code.method (.fieldRules (toolGraph.compile tools).fieldRules)) =
      some (toolGraph.compile tools).fieldRules ∧
    readAll deleteGuardMethod
      (Code.method (.deleteGuard (toolGraph.compile tools).deleteGuard)) =
      some (toolGraph.compile tools).deleteGuard := by
  refine ⟨rfl, ?_, rfl, by decide, by decide, by decide,
    SchemaGraph.methods_denote fun r hr x hx => ?_⟩
  · exact List.mem_cons_of_mem _
      (List.mem_cons_of_mem _ (List.mem_singleton_self _))
  · have hread := List.all_eq_true.mp (List.all_eq_true.mp tools_bounds r hr) x
    refine of_decide_eq_true (hread ?_)
    rcases hx with hx | hx <;> simp [hx]

end ServiceLoom
