import ServiceLoom.Proofs.Service.Frame

/-!
# Where fragments stand

Every fragment of a plan stands at a hook where what it uses is in scope: checks
and changes of the incoming record before a write, the guard before a removal,
numbering before an insertion, and what writes other rows after the write.  The
rules come first at their hooks, because they are woven before all bundles.
-/

namespace ServiceLoom

/-- Whether a hook stands before a creation or an update. -/
def Hook.preparesWrite : Hook → Bool
  | .beforeCreateValidation | .beforeCreateTransformation
  | .beforeUpdateValidation =>
      true
  | _ => false

/-- Whether a hook stands after a write. -/
def Hook.followsWrite : Hook → Bool
  | .afterCreateLogging | .afterUpdateLogging | .afterDeleteLogging => true
  | _ => false

/-- Whether a fragment may stand at a hook. -/
def Fragment.mayStandAt (h : Hook) : Fragment → Bool
  | .fieldRules => h = .beforeCreateValidation ∨ h = .beforeUpdateValidation
  | .deleteGuard => h = .beforeDeleteValidation
  | .sequence _ _ _ _ => h = .beforeCreateTransformation
  | .recalculateParent _ _ _ | .audit => h.followsWrite
  | _ => h.preparesWrite

/-- Every fragment of a bundle stands where it may. -/
theorem Bundle.all_mayStandAt (c : BundleConfig) (b : Bundle) :
    (b.fragments c).hooks.all (fun e => e.2.mayStandAt e.1) = true := by
  cases b with
  | batchTracking =>
      show (batchTrackingSet c).hooks.all _ = true
      unfold batchTrackingSet
      dsimp only
      split <;> rfl
  | location =>
      show (locationSet c).hooks.all _ = true
      unfold locationSet
      dsimp only
      split <;> rfl
  | _ => rfl

/-- What rules and guards can place at most. -/
def CompiledRules.placements : List (Hook × Fragment) :=
  [(.beforeCreateValidation, .fieldRules), (.beforeUpdateValidation, .fieldRules),
    (.beforeDeleteValidation, .deleteGuard)]

/-- What holds of all that rules and guards can place holds of what they
place. -/
theorem CompiledRules.all_fragments (c : CompiledRules)
    {P : Hook × Fragment → Bool} (h : placements.all P = true) :
    c.fragments.hooks.all P = true := by
  have hsub : c.fragments.hooks ⊆ placements := by
    unfold fragments placements
    dsimp only
    split <;> split <;> simp
  exact List.all_eq_true.mpr fun e he => List.all_eq_true.mp h e (hsub he)

/-- Every fragment of the rules stands where it may. -/
theorem CompiledRules.all_mayStandAt (c : CompiledRules) :
    c.fragments.hooks.all (fun e => e.2.mayStandAt e.1) = true :=
  c.all_fragments rfl

/-- What holds of every fragment of the rules and of the bundles holds of every
fragment of a plan. -/
theorem EntityPlan.of_mem_woven (p : EntityPlan)
    (slug : String) {P : Hook × Fragment → Bool}
    (hrules : ∀ c : CompiledRules, c.fragments.hooks.all P = true)
    (hbundles : ∀ (c : BundleConfig) (b : Bundle),
      (b.fragments c).hooks.all P = true) {e : Hook × Fragment}
    (hmem : e ∈ (p.service slug).woven) : P e = true := by
  obtain ⟨set, hset, hmem⟩ := List.mem_flatMap.mp hmem
  rcases List.mem_cons.mp hset with rfl | hset
  · exact List.all_eq_true.mp (hrules _) e hmem
  · obtain ⟨⟨b, c⟩, -, rfl⟩ := List.mem_map.mp hset
    exact List.all_eq_true.mp (hbundles c b) e hmem

/-- **Every fragment of a plan stands where it may.** -/
theorem EntityPlan.mayStandAt (p : EntityPlan) (slug : String) {h : Hook}
    {φ : Fragment} (hmem : (h, φ) ∈ (p.service slug).woven) :
    φ.mayStandAt h = true :=
  p.of_mem_woven slug CompiledRules.all_mayStandAt Bundle.all_mayStandAt hmem

/-- A service whose fragments all stand where they may. -/
def Service.Placed (sv : Service) : Prop :=
  ∀ h φ, (h, φ) ∈ sv.woven → φ.mayStandAt h = true

/-- What a set places at a hook. -/
def FragmentSet.fragmentsAt (set : FragmentSet) (h : Hook) : List Fragment :=
  set.hooks.filterMap fun (hook, φ) => if hook = h then some φ else none

/-- Placed fragments, taken at one hook. -/
theorem Fragment.mem_filterMap_iff {hooks : List (Hook × Fragment)} {h : Hook}
    {φ : Fragment} :
    (φ ∈ hooks.filterMap fun (hook, φ) => if hook = h then some φ else none) ↔
      (h, φ) ∈ hooks := by
  rw [List.mem_filterMap]
  constructor
  · rintro ⟨⟨hook, ψ⟩, hmem, hsome⟩
    dsimp only at hsome
    split at hsome
    next heq =>
      cases hsome
      exact heq ▸ hmem
    · cases hsome
  · intro hmem
    exact ⟨(h, φ), hmem, if_pos rfl⟩

theorem FragmentSet.mem_fragmentsAt_iff {set : FragmentSet} {h : Hook}
    {φ : Fragment} :
    φ ∈ set.fragmentsAt h ↔ (h, φ) ∈ set.hooks := Fragment.mem_filterMap_iff

namespace Service

variable {sv : Service} {h : Hook} {φ : Fragment}

theorem mem_fragmentsAt_iff : φ ∈ sv.fragmentsAt h ↔ (h, φ) ∈ sv.woven :=
  Fragment.mem_filterMap_iff

/-- What stands before a write does not write, and what stands after it does. -/
theorem Placed.precedesWrite_eq (hsv : sv.Placed)
    (hmem : φ ∈ sv.fragmentsAt h) : φ.precedesWrite = !h.followsWrite := by
  have hstands := hsv h φ (mem_fragmentsAt_iff.mp hmem)
  cases φ <;> cases h <;> first | rfl | cases hstands

theorem Placed.precedesWrite (hsv : sv.Placed) (hh : h.followsWrite = false) :
    ∀ φ ∈ sv.fragmentsAt h, φ.precedesWrite = true := by
  intro φ hφ
  rw [hsv.precedesWrite_eq hφ, hh]
  rfl

end Service

namespace EntityPlan

variable {p : EntityPlan}

/-- The fragments of a hook are those of the rules, then those of the
bundles. -/
theorem fragmentsAt_eq_append (p : EntityPlan) (slug : String) (h : Hook) :
    (p.service slug).fragmentsAt h = p.rules.fragments.fragmentsAt h ++
      p.selection.bundles.flatMap fun (b, c) =>
        (b.fragments c).fragmentsAt h := by
  rw [Service.fragmentsAt, service, fragmentSets, List.flatMap_cons,
    List.filterMap_append, List.flatMap_map, List.filterMap_flatMap]
  rfl

/-- What a chosen bundle places at a hook stands there without a gap. -/
theorem exists_fragmentsAt_eq {b : Bundle} {c : BundleConfig}
    (hc : (b, c) ∈ p.selection.bundles) (slug : String) (h : Hook) :
    ∃ before after,
      (p.service slug).fragmentsAt h = before ++
        ((b.fragments c).fragmentsAt h ++ after) := by
  obtain ⟨before, after, hsplit⟩ := List.append_of_mem hc
  rw [fragmentsAt_eq_append, hsplit, List.flatMap_append,
    List.flatMap_cons, ← List.append_assoc]
  exact ⟨_, _, rfl⟩

end EntityPlan

/-- **The rules come first** at the hooks where writes are checked, if there are
any. -/
theorem EntityPlan.fragmentsAt_eq_cons (p : EntityPlan)
    (slug : String) {h : Hook} (hrules : p.rules.fieldRules.rules ≠ [])
    (hh : h = .beforeCreateValidation ∨ h = .beforeUpdateValidation) :
    ∃ rest, (p.service slug).fragmentsAt h = .fieldRules :: rest := by
  have hempty : p.rules.fieldRules.rules.isEmpty = false := by
    simpa using hrules
  unfold Service.fragmentsAt EntityPlan.service EntityPlan.fragmentSets
    CompiledRules.fragments
  rcases hh with rfl | rfl
  · exact ⟨_, by simp [hempty]; rfl⟩
  · exact ⟨_, by simp [hempty]; rfl⟩

end ServiceLoom
