import Mathlib.Data.List.Flatten
import Mathlib.Data.List.Perm.Subperm
import ServiceLoom.Pattern.Builtin
import ServiceLoom.Proofs.Generation.ServiceText
import ServiceLoom.Proofs.Plan.Selection
import ServiceLoom.Proofs.Service.Placement

/-!
# The methods of a service

A service has the methods of its skeleton, and those that its rules and bundles
contribute.  A bundle contributes methods of the same names under any
configuration, no two bundles use one name, and none uses a name of the skeleton
or of the rules.  Since no bundle is chosen twice, every method of a service has
a name of its own.

Statements call two of these methods, the one for the rules and the one for the
guard; every other statement calls the runtime library.  Each of the two is
contributed exactly when a statement that calls it is placed.

* `Bundle.methodNames_nodup` — the names in use;
* `Code.method_defines` — the name that the code of a method defines;
* `Fragment.callee_eq_iff` — what a statement calls;
* `SchemaGraph.methods_defined_once` — the methods of a service.
-/

namespace ServiceLoom

open Template

/-! ## Names of methods -/

/-- The name of the method that a line of a skeleton opens. -/
def Template.methodName? (line : List Char) : Option String :=
  ("    pub fn ".toList.isPrefixOf? line).map fun rest =>
    String.ofList (rest.takeWhile (· ≠ '('))

/-- The methods that every service has. -/
def Template.commonMethods : List String :=
  serviceLines.filterMap fun line => methodName? line.toList

theorem Template.commonMethods_eq :
    commonMethods = ["new", "list", "get", "create", "update", "delete"] := by
  have hspelled : ∃ chars :
      List (List Char), serviceLines = chars.map String.ofList ∧
      chars.filterMap methodName? = ["new", "list",
          "get", "create", "update", "delete"] := by
    unfold serviceLines
    dsimp only
    repeat refine exists_spelled_cons rfl ?_
    exact ⟨[], rfl, by decide⟩
  obtain ⟨chars, hchars, hnames⟩ := hspelled
  rw [commonMethods, hchars, List.filterMap_map, ← hnames]
  exact List.filterMap_congr fun cs _ =>
    congrArg methodName? String.toList_ofList

/-- A text that opens the definition of a method with a name. -/
def Code.Defines (text name : String) : Prop :=
  ∃ opening rest, opening ∈ ["fn ", "pub fn "] ∧
    text = "\n" ++ itemIndent ++ opening ++ name ++ "(" ++ rest

/-- The code of a method defines its name. -/
theorem Code.method_defines (m : Method) :
    Code.Defines (Code.method m) m.name := by
  have hopens : ∀ opening parameters answer body,
      Code.function (opening ++ (m.name ++ ("(" ++ parameters)) ++ answer) body =
        "\n" ++ itemIndent ++ opening ++ m.name ++
          "(" ++ (parameters ++ (answer ++ (" \x7b\n" ++ (bodyIndent ++
          (body ++ ("\n" ++ (itemIndent ++ "\x7d\n"))))))) := by
    intro opening parameters answer body
    simp only [Code.function, String.append_assoc]
  have hpublic : ∀ parameters answer body, ∃ rest,
      Code.function (signature m.name parameters answer) body =
      "\n" ++ itemIndent ++ "pub fn " ++ m.name ++ "(" ++ rest := by
    intro parameters answer body
    refine ⟨_,
      Eq.trans ?_ (hopens "pub fn " (commaList ("&self" :: parameters) ++ ")")
      (" -> Result<" ++ answer ++ ", ServiceError>") body)⟩
    simp only [signature, call, String.append_assoc]
  cases m with
  | fieldRules rules =>
      have hsignature : "fn field_rules() -> &'static RuleSet" =
          "fn " ++ ("field_rules" ++ ("(" ++ ")")) ++ " -> &'static RuleSet" :=
            rfl
      rw [method, hsignature]
      exact ⟨"fn ", _, by decide, hopens "fn " ")" " -> &'static RuleSet" _⟩
  | deleteGuard guard =>
      have hsignature : "fn delete_guard() -> DeleteGuard" =
          "fn " ++ ("delete_guard" ++ ("(" ++ ")")) ++ " -> DeleteGuard" := rfl
      rw [method, hsignature]
      exact ⟨"fn ", _, by decide, hopens "fn " ")" " -> DeleteGuard" _⟩
  | adjustStock | findBy | expired | moveStock =>
      obtain ⟨rest, hrest⟩ := hpublic _ _ _
      exact ⟨"pub fn ", rest, by decide, hrest⟩

/-- The names of the methods that a set contributes. -/
def FragmentSet.methodNames (s : FragmentSet) : List String :=
  s.methods.map Method.name

/-- The names of the methods that a plan contributes, in weaving order. -/
def EntityPlan.methodNames (p : EntityPlan) : List String :=
  p.fragmentSets.flatMap (·.methodNames)

/-- The method of the rules and the method of the guard. -/
def helperNames : List String := ["field_rules", "delete_guard"]

/-- The names of the methods that a bundle contributes. -/
def Bundle.methodNames : Bundle → List String
  | inventory => ["adjust_stock"]
  | batchTracking => ["find_by_batch", "expired_items"]
  | location => ["move_stock"]
  | _ => []

namespace Bundle

/-- The names do not depend on the configuration. -/
theorem methodNames_fragments (c : BundleConfig) (b : Bundle) :
    (b.fragments c).methodNames = b.methodNames := by
  cases b with
  | _ => rfl

theorem mem_all (b : Bundle) : b ∈ all := by
  cases b with
  | _ => decide

/-- **All names are different**: those of the skeleton, of the rules and of the
bundles. -/
theorem methodNames_nodup :
    (commonMethods ++ (helperNames ++ all.flatMap methodNames)).Nodup := by
  rw [commonMethods_eq]
  decide

end Bundle

/-- The rules and the guard contribute one method each, unless they are
empty. -/
theorem CompiledRules.methodNames_eq (c : CompiledRules) :
    c.fragments.methodNames =
      (if c.fieldRules.rules.isEmpty then [] else ["field_rules"]) ++
      if c.deleteGuard.dependents.isEmpty then [] else ["delete_guard"] := by
  unfold fragments FragmentSet.methodNames
  dsimp only
  split <;> split <;> rfl

theorem CompiledRules.methodNames_sublist (c : CompiledRules) :
    c.fragments.methodNames.Sublist helperNames := by
  rw [methodNames_eq]
  split <;> split <;> decide

namespace EntityPlan

variable {p : EntityPlan}

theorem methodNames_eq (p : EntityPlan) :
    p.methodNames = p.rules.fragments.methodNames ++
      p.selection.chosen.flatMap Bundle.methodNames := by
  rw [methodNames, fragmentSets, List.flatMap_cons,
    List.flatMap_map, Selection.chosen, List.flatMap_map]
  exact congrArg _ (List.flatMap_congr fun e _ =>
    Bundle.methodNames_fragments e.2 e.1)

/-- **No two methods have one name**, if no bundle is chosen twice. -/
theorem nodup_methodNames (h : p.selection.chosen.Nodup) :
    (commonMethods ++ p.methodNames).Nodup := by
  obtain ⟨some, hperm, hsome⟩ :=
    List.subperm_of_subset h fun b _ => Bundle.mem_all b
  have hsub : (commonMethods ++ (p.rules.fragments.methodNames ++
      some.flatMap Bundle.methodNames)).Sublist
      (commonMethods ++ (helperNames ++ Bundle.all.flatMap Bundle.methodNames)) :=
    (List.Sublist.refl _).append
      (p.rules.methodNames_sublist.append (hsome.flatMap _))
  have hnames : (commonMethods ++
      (p.rules.fragments.methodNames ++ some.flatMap Bundle.methodNames)).Perm
      (commonMethods ++ p.methodNames) := by
    rw [methodNames_eq]
    exact ((hperm.flatMap_right _).append_left _).append_left _
  exact hnames.nodup_iff.mp (Bundle.methodNames_nodup.sublist hsub)

end EntityPlan

/-! ## What statements call -/

/-- The method of the service that the statement of a fragment calls, if it does
not call the runtime library. -/
def Fragment.helper? : Fragment → Option String
  | fieldRules => some "field_rules"
  | deleteGuard => some "delete_guard"
  | _ => none

/-- What the statement of a fragment calls: its text up to the first argument
list. -/
def Fragment.callee (h : Hook) (φ : Fragment) : String :=
  String.ofList ((Code.statement h φ).toList.takeWhile (· ≠ '('))

namespace Fragment

variable {h : Hook} {φ : Fragment} {function : String} {arguments : List String}

/-- What stands before the first argument list is called. -/
theorem callee_eq (rest : String)
    (hstatement : Code.statement h φ = function ++ ("(" ++ rest))
    (hname : '(' ∉ function.toList) : φ.callee h = function := by
  have hkeep : ∀ c ∈ function.toList, decide (c ≠ '(') = true :=
    fun c hc => decide_eq_true fun heq => hname (heq ▸ hc)
  have htake : (function ++ ("(" ++ rest)).toList.takeWhile (· ≠ '(') =
      function.toList := by
    rw [String.toList_append, String.toList_append,
      List.takeWhile_append_of_pos hkeep]
    exact List.append_nil _
  rw [callee, hstatement, htake, String.ofList_toList]

/-- What is called is a function of the runtime library. -/
def IsLibraryFunction (function : String) : Prop :=
  '(' ∉ function.toList ∧ "ops::".toList <+: function.toList

instance (function : String) : Decidable (IsLibraryFunction function) :=
  inferInstanceAs
    (Decidable ('(' ∉ function.toList ∧ "ops::".toList <+: function.toList))

theorem library_attempt
    (hstatement : Code.statement h φ = Code.attempt function arguments)
    (hfunction : IsLibraryFunction function) :
    IsLibraryFunction (φ.callee h) := by
  have hcallee : φ.callee h = function :=
    callee_eq (Code.commaList arguments ++ (")" ++ "?;"))
      (by simp only [hstatement, Code.attempt, Code.call, String.append_assoc])
        hfunction.1
  rwa [hcallee]

theorem library_perform
    (hstatement : Code.statement h φ = Code.perform function arguments)
    (hfunction : IsLibraryFunction function) :
    IsLibraryFunction (φ.callee h) := by
  have hcallee : φ.callee h = function :=
    callee_eq (Code.commaList arguments ++ (")" ++ ";"))
      (by simp only [hstatement, Code.perform, Code.call, String.append_assoc])
        hfunction.1
  rwa [hcallee]

/-- A fragment without a helper calls the runtime library. -/
theorem callee_library (h : Hook) (hφ : φ.helper? = none) :
    IsLibraryFunction (φ.callee h) := by
  cases φ with
  | fieldRules | deleteGuard => cases hφ
  | defaultValue | forceValue | normalize | normalizeDate | dueDate =>
      exact library_perform rfl (by decide)
  | invoiceTotals taxRate onlyIfTouched =>
      cases onlyIfTouched <;> exact library_perform rfl (by decide)
  | _ => exact library_attempt rfl (by decide)

theorem callee_fieldRules (h : Hook) :
    fieldRules.callee h = "Self::field_rules" := by
  refine callee_eq (").validate(" ++
    (Code.commaList ["repo", "Self::SLUG", Code.subject h,
    if h.action = .update then "WriteMode::Update(id)"
    else "WriteMode::Create"] ++ (")" ++ "?;"))) ?_ (by decide)
  have hopen : "Self::field_rules().validate" ++ "(" =
      "Self::field_rules" ++ ("(" ++ ").validate(") := rfl
  rw [Code.statement, Code.attempt, Code.call, hopen]
  simp only [String.append_assoc]

theorem callee_deleteGuard (h : Hook) :
    deleteGuard.callee h = "Self::delete_guard" := by
  refine callee_eq (").check(" ++
    (Code.commaList ["repo", "id"] ++ (")" ++ "?;"))) ?_ (by decide)
  have hopen : "Self::delete_guard().check" ++ "(" =
      "Self::delete_guard" ++ ("(" ++ ").check(") := rfl
  rw [Code.statement, Code.attempt, Code.call, hopen]
  simp only [String.append_assoc]

/-- **A fragment with a helper calls it**, and no other fragment calls a method
of the service. -/
theorem callee_eq_iff (h : Hook) (φ : Fragment) (name : String) :
    φ.callee h = "Self::" ++ name ↔ φ.helper? = some name := by
  cases hφ : φ.helper? with
  | none =>
      refine iff_of_false (fun hcallee => ?_) nofun
      obtain ⟨-, hlibrary⟩ := callee_library h hφ
      rw [hcallee, String.toList_append] at hlibrary
      obtain ⟨rest, hrest⟩ := hlibrary
      cases hrest
  | some helper =>
      have hcallee : φ.callee h = "Self::" ++ helper := by
        cases φ with
        | fieldRules =>
            cases hφ
            exact callee_fieldRules h
        | deleteGuard =>
            cases hφ
            exact callee_deleteGuard h
        | _ => cases hφ
      rw [hcallee, Option.some.injEq, String.append_right_inj]

theorem helper?_eq_fieldRules_iff : φ.helper? = some "field_rules" ↔
    φ = fieldRules := by
  cases φ with
  | _ => simp [helper?]

theorem helper?_eq_deleteGuard_iff : φ.helper? = some "delete_guard" ↔
    φ = deleteGuard := by
  cases φ with
  | _ => simp [helper?]

end Fragment

/-! ## Helpers and the statements that call them -/

/-- The rules and the guard contribute what their statements call. -/
theorem CompiledRules.mem_methodNames_iff (c : CompiledRules) (name : String) :
    name ∈ c.fragments.methodNames ↔
    ∃ e ∈ c.fragments.hooks, e.2.helper? = some name := by
  rw [methodNames_eq]
  unfold fragments
  dsimp only
  split <;> split <;> simp [Fragment.helper?, eq_comm]

/-- No statement of a bundle calls a method of the service. -/
theorem Bundle.helper?_eq_none {c : BundleConfig} {b : Bundle}
    {e : Hook × Fragment} (h : e ∈ (b.fragments c).hooks) :
    e.2.helper? = none := by
  -- the rules and the guard have hooks of their own, where bundles place other
  -- fragments
  have hall :
      (b.fragments c).hooks.all (fun e => e.2.helper?.isNone) = true := by
    cases b with
    | batchTracking =>
        show (batchTrackingSet c).hooks.all _ = true
        unfold batchTrackingSet
        dsimp only
        split <;> rfl
    | location =>
        show (locationSet c).hooks.all _ = true
        unfold locationSet
        dsimp only
        split <;> rfl
    | _ => rfl
  exact Option.isNone_iff_eq_none.mp (List.all_eq_true.mp hall e h)

namespace EntityPlan

/-- **A helper is contributed exactly when a statement that calls it is
placed.** -/
theorem mem_methodNames_iff (p : EntityPlan) (slug : String) {name : String}
    (h : name ∈ helperNames) :
    name ∈ p.methodNames ↔
    ∃ e ∈ (p.service slug).woven, e.2.helper? = some name := by
  have hbundles : name ∉ p.selection.chosen.flatMap Bundle.methodNames := by
    intro hmem
    obtain ⟨b, -, hb⟩ := List.mem_flatMap.mp hmem
    have hall : name ∈ Bundle.all.flatMap Bundle.methodNames :=
      List.mem_flatMap.mpr ⟨b, Bundle.mem_all b, hb⟩
    exact List.disjoint_of_nodup_append
      (List.nodup_append.mp Bundle.methodNames_nodup).2.1 h hall
  rw [methodNames_eq, List.mem_append, or_iff_left hbundles,
    CompiledRules.mem_methodNames_iff, service, fragmentSets]
  simp only [List.flatMap_cons, List.mem_append]
  constructor
  · rintro ⟨e, he, hhelper⟩
    exact ⟨e, Or.inl he, hhelper⟩
  · rintro ⟨e, he | he, hhelper⟩
    · exact ⟨e, he, hhelper⟩
    · obtain ⟨set, hset, he⟩ := List.mem_flatMap.mp he
      obtain ⟨⟨b, c⟩, -, rfl⟩ := List.mem_map.mp hset
      rw [Bundle.helper?_eq_none he] at hhelper
      cases hhelper

end EntityPlan

/-- **The methods of a service have names of their own, and every method that a
statement calls is there once.** The method for the rules is contributed exactly
when a check of the rules is placed, and the method for the guard when a check
of the guard is.  The names are those that the code of the methods defines. -/
theorem SchemaGraph.methods_defined_once [Pattern.Engine] (g : SchemaGraph)
    (l : BundleLibrary) (e : Entity) :
    (commonMethods ++ (EntityPlan.ofEntity l g e).methodNames).Nodup ∧
      ("field_rules" ∈ (EntityPlan.ofEntity l g e).methodNames ↔
        ∃ h, (h, .fieldRules) ∈ (g.serviceOf l e).woven) ∧
      ("delete_guard" ∈ (EntityPlan.ofEntity l g e).methodNames ↔
        ∃ h, (h, .deleteGuard) ∈ (g.serviceOf l e).woven) ∧
      (∀ h φ name, (h, φ) ∈ (g.serviceOf l e).woven →
        φ.callee h = "Self::" ++ name →
          (EntityPlan.ofEntity l g e).methodNames.count name = 1) ∧
      ∀ s ∈ (EntityPlan.ofEntity l g e).fragmentSets, ∀ m ∈ s.methods,
        Code.Defines (Code.method m) m.name := by
  have hnodup := EntityPlan.nodup_methodNames
    (p := EntityPlan.ofEntity l g e) (Selection.chosen_nodup l g.modules e)
  have hplaced : ∀ name ∈ helperNames,
      (name ∈ (EntityPlan.ofEntity l g e).methodNames ↔
      ∃ h φ, (h, φ) ∈ (g.serviceOf l e).woven ∧ φ.helper? = some name) := by
    intro name hname
    rw [EntityPlan.mem_methodNames_iff _ e.slug hname]
    exact Prod.exists.trans (exists_congr fun h => exists_congr fun φ => Iff.rfl)
  refine ⟨hnodup, ?_, ?_, ?_, fun _ _ m _ => Code.method_defines m⟩
  · rw [hplaced _ (by decide)]
    simp only [Fragment.helper?_eq_fieldRules_iff, exists_eq_right]
  · rw [hplaced _ (by decide)]
    simp only [Fragment.helper?_eq_deleteGuard_iff, exists_eq_right]
  · intro h φ name hmem hcallee
    have hhelper := (φ.callee_eq_iff h name).mp hcallee
    have hname : name ∈ helperNames := by
      cases φ with
      | fieldRules | deleteGuard =>
          cases hhelper
          decide
      | _ => cases hhelper
    refine List.count_eq_one_of_mem hnodup.of_append_right ?_
    exact (hplaced name hname).mpr ⟨h, φ, hmem, hhelper⟩

/-- Racks with stock in batches at locations, which are asked for twice, and
pallets that stand in them. -/
def rackDocument : Document where
  projectName := "racks"
  modules := []
  entities := [
    { slug := "racks", fields := [{ name := "quantity", required := true }],
      mixins := [.named "LocationMixin", .named "stock"],
      features := [("batch_tracking", .bool true), ("inventory", .bool true)] },
    { slug := "pallets", fields := [{ name := "rack_id" }] }]

/-- The racks as they are served. -/
def racks : Entity :=
  { slug := "racks", module := some defaultModule,
    fields := [{ name := "quantity", required := true }],
    mixins := [.named "LocationMixin", .named "stock"],
    features := [("batch_tracking", .bool true), ("inventory", .bool true)] }

/-- The graph of the racks. -/
def rackGraph : SchemaGraph where
  projectName := "racks"
  modules := ModuleConfig.ofSettings []
  entities := [racks,
    { slug := "pallets", module := some defaultModule,
      fields := [{ name := "rack_id" }] }]
  edges := [⟨"pallets", "rack_id", "racks", false, false⟩]
  children := []
  warnings := []

/-- Racks have six methods beside the common ones, and both helpers are among
them, as their statements call them. -/
theorem rackDocument_methods :
    rackDocument.validate = .ok rackGraph ∧ racks ∈ rackGraph.servedEntities ∧
      let names := (EntityPlan.ofEntity .builtin rackGraph racks).methodNames
      let woven := (rackGraph.serviceOf .builtin racks).woven
      names = ["field_rules", "delete_guard", "adjust_stock",
        "find_by_batch", "expired_items", "move_stock"] ∧
        (.beforeCreateValidation, .fieldRules) ∈ woven ∧
        Fragment.fieldRules.callee .beforeCreateValidation =
          "Self::field_rules" ∧ names.count "field_rules" = 1 ∧
        (.beforeDeleteValidation, .deleteGuard) ∈ woven ∧
        Fragment.deleteGuard.callee .beforeDeleteValidation =
            "Self::delete_guard" ∧ names.count "delete_guard" = 1 := by
  have hrules := Fragment.callee_fieldRules .beforeCreateValidation
  have hguard := Fragment.callee_deleteGuard .beforeDeleteValidation
  have hplacedRules : (Hook.beforeCreateValidation, Fragment.fieldRules) ∈
      (rackGraph.serviceOf .builtin racks).woven :=
    List.mem_cons_self
  have hplacedGuard : (Hook.beforeDeleteValidation, Fragment.deleteGuard) ∈
      (rackGraph.serviceOf .builtin racks).woven :=
    List.mem_of_getElem? (i := 2) rfl
  obtain ⟨-, -, -, honce, -⟩ := rackGraph.methods_defined_once .builtin racks
  exact ⟨rfl, List.mem_cons_self, by decide +kernel,
    hplacedRules, hrules, honce _ _ "field_rules" hplacedRules hrules,
    hplacedGuard, hguard, honce _ _ "delete_guard" hplacedGuard hguard⟩

end ServiceLoom
