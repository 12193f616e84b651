import ServiceLoom.Proofs.Operation.DateOrder
import ServiceLoom.Proofs.Plan.Selection
import ServiceLoom.Proofs.Service.Columns
import ServiceLoom.Schema.Validation

/-!
# What bundles do to the fields of others

What a bundle places at a hook stands there without a gap, among fragments of
the rules and of other bundles (`Service.Places`).  So a run of the hook has
three parts, and of the first and the last only that is needed which every such
fragment does (`Service.Places.exists_run`).

Most fields belong to one bundle.  The others leave such a field alone, except
that two of them have settings that name a field of any kind: stock keeping may
count it, and a leave may date it.  What can become of a value so is its drift
(`Drifts`, `Bundle.driftsAt`).
-/

namespace ServiceLoom

/-! ## Fragments of one bundle among others -/

/-- Steps that are each related to what comes before them are so together, for
any preorder of records. -/
theorem Service.runFragments_relates [Pattern.Engine]
    {sv : Service} {h : Hook} {R : Record → Record → Prop} (hrefl : ∀ r, R r r)
    (htrans : ∀ {a b c}, R a b → R b c → R a c) {fragments : List Fragment}
    (hstep : ∀ φ ∈ fragments, ∀ x, (φ.call sv h x).Reads fun data =>
      R x.data data) (x : Scope) :
    (sv.runFragments h fragments x).Reads fun data => R x.data data := by
  induction fragments generalizing x with
  | nil => exact Access.Reads.done (hrefl x.data)
  | cons φ rest ih =>
      have hrest := fun data =>
          ih (fun φ hφ => hstep φ (List.mem_cons_of_mem _ hφ)) { x with data }
      exact (hstep φ List.mem_cons_self x).bind fun data hdata =>
        (hrest data).imp fun _ hafter => htrans hdata hafter

/-- Two things that a reading procedure says of its answer. -/
theorem Access.Reads.and {α : Type} {P Q : α → Prop} {p : Access α}
    (hp : p.Reads P) (hq : p.Reads Q) : p.Reads fun a => P a ∧ Q a :=
  ⟨hp.store, fun host outage s a ha =>
    ⟨hp.answer host outage s a ha, hq.answer host outage s a ha⟩⟩

/-- At a hook some fragments stand without a gap, among others of a kind. -/
def Service.Places (sv : Service) (h : Hook) (own : List Fragment)
    (P : Fragment → Prop) : Prop :=
  ∃ before after, sv.fragmentsAt h = before ++ (own ++ after) ∧
    ∀ φ ∈ before ++ after, P φ

/-- **A hook runs in three parts**, the middle one being the fragments that
stand without a gap. -/
theorem Service.Places.exists_run [Pattern.Engine] {sv : Service} {h : Hook}
    {own : List Fragment} {P : Fragment → Prop} (hplaces : sv.Places h own P)
    (hsv : sv.Placed) (hh : h.followsWrite = false) {R : Record → Record → Prop}
    (hrefl : ∀ r, R r r) (htrans : ∀ {a b c}, R a b → R b c → R a c)
    (hstep : ∀ φ, P φ → φ.precedesWrite = true →
      ∀ x, (φ.call sv h x).Reads fun data => R x.data data)
    {host : Host} {s : Store} {x : Scope} {data : Record}
    (hrun : ((sv.runHook h x).run host Outage.none s).1 = .ok data) :
    ∃ first second, R x.data first ∧
      ((sv.runFragments h own { x with data := first }).run
        host Outage.none s).1 = .ok second ∧ R second data := by
  obtain ⟨before, after, hsplit, hothers⟩ := hplaces
  have hprecedes : ∀ φ ∈ before ++ (own ++ after), φ.precedesWrite = true :=
    hsplit ▸ hsv.precedesWrite hh
  have hbefore : ∀ φ ∈ before, φ.precedesWrite = true :=
    fun φ hφ => hprecedes φ (List.mem_append_left _ hφ)
  have hown : ∀ φ ∈ own, φ.precedesWrite = true :=
    fun φ hφ => hprecedes φ (List.mem_append_right _ (List.mem_append_left _ hφ))
  have hafter : ∀ φ ∈ after, φ.precedesWrite = true :=
    fun φ hφ =>
      hprecedes φ (List.mem_append_right _ (List.mem_append_right _ hφ))
  rw [runHook, hsplit] at hrun
  obtain ⟨first, hfirst, hrest⟩ := exists_of_runFragments_append hbefore hrun
  obtain ⟨second, hsecond, hlast⟩ := exists_of_runFragments_append hown hrest
  have hfront : (sv.runFragments h before x).Reads fun data => R x.data data :=
    runFragments_relates hrefl htrans
      (fun φ hφ =>
        hstep φ (hothers φ (List.mem_append_left _ hφ)) (hbefore φ hφ)) x
  have hback : (sv.runFragments h after { x with data := second }).Reads
      fun data => R second data :=
    runFragments_relates hrefl htrans
      (fun φ hφ => hstep φ (hothers φ (List.mem_append_right _ hφ))
        (hafter φ hφ)) { x with data := second }
  exact ⟨first, second, hfront.answer host Outage.none s first hfirst, hsecond,
    hback.answer host Outage.none s data hlast⟩

/-- Fragments that are followed by others leave to them what they have made of
the record. -/
theorem Service.exists_of_runFragments_cons [Pattern.Engine] {sv : Service}
    {h : Hook} {φ : Fragment} {rest : List Fragment} (hφ : φ.precedesWrite = true)
    {host : Host} {s : Store} {x : Scope} {data : Record}
    (hrun : ((sv.runFragments h (φ :: rest) x).run host Outage.none s).1 =
      .ok data) :
    ∃ next, ((φ.call sv h x).run host Outage.none s).1 = .ok next ∧
      ((sv.runFragments h rest { x with data := next }).run
        host Outage.none s).1 = .ok data :=
  (φ.call_frame sv h x hφ).exists_of_bind_ok hrun

/-- A check that passes leaves the record. -/
theorem Access.eq_of_run_check {check : Except ServiceError Unit}
    {r data : Record} {host : Host} {s : Store}
    (hrun : ((ofExcept check >>= fun _ =>
      (pure r : Access Record)).run host Outage.none s).1 = .ok data) :
    check = .ok () ∧ data = r := by
  obtain ⟨_, hcheck, hreturn⟩ :=
    (Access.Reads.ofExcept (P := fun _ => True)
      fun _ _ => trivial).exists_of_bind_ok hrun
  cases hreturn
  exact ⟨Access.eq_ok_of_run_ofExcept _ _ _ hcheck, rfl⟩

/-- **A chosen bundle places its fragments among those of the rules and of other
bundles.** -/
theorem EntityPlan.places {p : EntityPlan} (hnodup : p.selection.chosen.Nodup)
    {b : Bundle} {c : BundleConfig}
    (hc : (b, c) ∈ p.selection.bundles) (slug : String) (h : Hook)
    {P : Fragment → Prop} (hrules : ∀ φ ∈ p.rules.fragments.fragmentsAt h, P φ)
    (hothers : ∀ e ∈ p.selection.bundles, e.1 ≠ b →
      ∀ φ ∈ (e.1.fragments e.2).fragmentsAt h, P φ) :
    (p.service slug).Places h ((b.fragments c).fragmentsAt h) P := by
  obtain ⟨front, back, hsplit⟩ := List.append_of_mem hc
  have hne : ∀ e ∈ front ++ back, e.1 ≠ b := by
    intro e he heq
    rw [Selection.chosen, hsplit, List.map_append,
      List.map_cons, List.nodup_middle, ← List.map_append] at hnodup
    exact (List.nodup_cons.mp hnodup).1 (List.mem_map.mpr ⟨e, he, heq⟩)
  have hmem : ∀ e ∈ front ++ back, e ∈ p.selection.bundles := by
    intro e he
    rw [hsplit]
    rcases List.mem_append.mp he with he | he
    · exact List.mem_append_left _ he
    · exact List.mem_append_right _ (List.mem_cons_of_mem _ he)
  have hplaced : ∀ part ⊆ front ++ back,
      ∀ φ ∈ part.flatMap fun e => (e.1.fragments e.2).fragmentsAt h, P φ := by
    intro part hpart φ hφ
    obtain ⟨e, he, hφ⟩ := List.mem_flatMap.mp hφ
    exact hothers e (hmem e (hpart he)) (hne e (hpart he)) φ hφ
  refine ⟨p.rules.fragments.fragmentsAt h ++ front.flatMap fun e =>
    (e.1.fragments e.2).fragmentsAt h,
    back.flatMap fun e => (e.1.fragments e.2).fragmentsAt h, ?_, ?_⟩
  · rw [fragmentsAt_eq_append, hsplit, List.flatMap_append,
      List.flatMap_cons, List.append_assoc]
  · intro φ hφ
    rcases List.mem_append.mp hφ with hφ | hφ
    · rcases List.mem_append.mp hφ with hφ | hφ
      · exact hrules φ hφ
      · exact hplaced front (List.subset_append_left _ _) φ hφ
    · exact hplaced back (List.subset_append_right _ _) φ hφ

/-- What the rules place changes nothing. -/
theorem CompiledRules.targets_eq_nil (c : CompiledRules) {h : Hook}
    {φ : Fragment} (hφ : φ ∈ c.fragments.fragmentsAt h) : φ.targets = [] := by
  have hall : c.fragments.hooks.all (fun e => e.2.targets.isEmpty) = true :=
    c.all_fragments rfl
  exact List.isEmpty_iff.mp
    (List.all_eq_true.mp hall _ (FragmentSet.mem_fragmentsAt_iff.mp hφ))

/-! ## Fields that one bundle writes -/

/-- Whether a fragment writes a field, before the write or after it. -/
def Fragment.writes (slug field : String) (φ : Fragment) : Bool :=
  φ.targets.contains field || φ.recomputes slug field

/-- No chosen bundle but the given one writes a field. -/
def Selection.WritesAlone (s : Selection) (b : Bundle)
    (slug field : String) : Prop :=
  ∀ e ∈ s.bundles, e.1 ≠ b →
    ∀ f ∈ (e.1.fragments e.2).hooks, f.2.writes slug field = false

/-- What does not write a field does not have it among its targets. -/
theorem Fragment.notMem_targets {slug field : String} {φ : Fragment}
    (h : φ.writes slug field = false) : field ∉ φ.targets := by
  simp [writes] at h
  exact h.1

/-- A bundle places its fragments among others that leave the fields it writes
alone. -/
theorem EntityPlan.places_alone {p : EntityPlan}
    (hnodup : p.selection.chosen.Nodup) {b : Bundle} {c : BundleConfig}
    (hc : (b, c) ∈ p.selection.bundles) {slug : String} {fields : List String}
    (halone : ∀ f ∈ fields, p.selection.WritesAlone b slug f) (h : Hook) :
    (p.service slug).Places h ((b.fragments c).fragmentsAt h) fun φ =>
      ∀ f ∈ fields, f ∉ φ.targets := by
  refine p.places hnodup hc slug h ?_ ?_
  · intro φ hφ f _
    rw [p.rules.targets_eq_nil hφ]
    exact List.not_mem_nil
  · intro e he hne φ hφ f hf
    exact Fragment.notMem_targets
      (halone f hf e he hne _ (FragmentSet.mem_fragmentsAt_iff.mp hφ))

/-- Only the fields for totals are recomputed. -/
theorem Fragment.recomputes_of_notMem {slug field : String}
    (hfield : field ∉ Record.totalFields) (φ : Fragment) :
    φ.recomputes slug field = false := by
  cases φ with
  | recalculateParent foreignKey parentSlug taxRate => simp [recomputes, hfield]
  | _ => rfl

/-- No bundle but that for items recomputes anything. -/
theorem Bundle.all_recomputes (c : BundleConfig) (slug field : String)
    {b : Bundle} (hb : b ≠ .invoiceItems) :
    (b.fragments c).hooks.all (fun e => !e.2.recomputes slug field) = true := by
  cases b with
  | invoiceItems => exact absurd rfl hb
  | batchTracking =>
      show (batchTrackingSet c).hooks.all _ = true
      unfold batchTrackingSet
      dsimp only
      split <;> rfl
  | location =>
      show (locationSet c).hooks.all _ = true
      unfold locationSet
      dsimp only
      split <;> rfl
  | _ => rfl

/-- A field that one bundle writes alone is not recomputed. -/
theorem EntityPlan.recomputes_eq_false {p : EntityPlan} {b : Bundle}
    {slug field : String} (halone : p.selection.WritesAlone b slug field)
    (hb : b ≠ .invoiceItems) {h : Hook} {φ : Fragment}
    (hmem : (h, φ) ∈ (p.service slug).woven) :
    φ.recomputes slug field = false := by
  obtain ⟨set, hset, hmem⟩ := List.mem_flatMap.mp hmem
  rcases List.mem_cons.mp hset with rfl | hset
  · have hrules : p.rules.fragments.hooks.all
        (fun e => !e.2.recomputes slug field) = true :=
      p.rules.all_fragments rfl
    simpa using List.all_eq_true.mp hrules _ hmem
  · obtain ⟨⟨other, c⟩, hother, rfl⟩ := List.mem_map.mp hset
    by_cases hne : other = b
    · have hown := Bundle.all_recomputes c slug field (hne ▸ hb)
      simpa using List.all_eq_true.mp hown _ hmem
    · have hwrites := halone _ hother hne _ hmem
      rw [Fragment.writes, Bool.or_eq_false_iff] at hwrites
      exact hwrites.2

/-- **Around the fragments of a bundle that writes fields alone** these fields
stay as they are. -/
theorem Service.Places.exists_run_sameAt [Pattern.Engine]
    {sv : Service} {h : Hook} {own : List Fragment} {fields : List String}
    (hplaces : sv.Places h own fun φ => ∀ f ∈ fields, f ∉ φ.targets)
    (hsv : sv.Placed) (hh : h.followsWrite = false)
    {host : Host} {s : Store} {x : Scope} {data : Record}
    (hrun : ((sv.runHook h x).run host Outage.none s).1 = .ok data) :
    ∃ first second, (∀ f ∈ fields, Dict.SameAt f x.data first) ∧
      ((sv.runFragments h own { x with data := first }).run
        host Outage.none s).1 = .ok second ∧
      ∀ f ∈ fields, Dict.SameAt f second data := by
  refine hplaces.exists_run hsv hh
    (R := fun r r' => ∀ f ∈ fields, Dict.SameAt f r r') ?_ ?_ ?_ hrun
  · exact fun r f _ => Dict.SameAt.refl f r
  · exact fun hab hbc f hf => (hab f hf).trans (hbc f hf)
  · exact fun φ hφ hprecedes x => (φ.call_frame sv h x hprecedes).imp
      fun data hdata f hf => hdata f (hφ f hf)

/-! ## Drift -/

/-- What can become of a value: where the field is counted, a number is zero at
first, and what denotes a number is replaced by it; and a date is written
anew. -/
inductive Drifts (counted : Bool) (h : Hook) (v : Option Json) :
    Option Json → Prop
  | refl : Drifts counted h v v
  | zero {w : Option Json} (hcounted : counted = true)
      (hh : h = .beforeCreateTransformation)
      (hw : isAbsent w = true) : Drifts counted h v w →
        Drifts counted h v (some (.ofNat 0))
  | number {w : Json} {x : Float} (hcounted : counted = true)
      (hw : w.numeric? = some x) :
      Drifts counted h v (some w) → Drifts counted h v (some (.ofFloat x))
  | date {w : Json} {t : Calendar.Instant} (hw : w.instant? = some t) :
      Drifts counted h v (some w) → Drifts counted h v (some (.string t.text))

namespace Drifts

variable {counted : Bool} {h : Hook} {u v w : Option Json}

theorem trans (huv : Drifts counted h u v) (hvw : Drifts counted h v w) :
    Drifts counted h u w := by
  induction hvw with
  | refl => exact huv
  | zero hcounted hh habsent _ ih => exact ih.zero hcounted hh habsent
  | number hcounted hx _ ih => exact ih.number hcounted hx
  | date ht _ ih => exact ih.date ht

/-- What is there stays there. -/
theorem isSome (hd : Drifts counted h v w) (hv : v.isSome = true) :
    w.isSome = true := by
  cases hd with
  | refl => exact hv
  | _ => rfl

/-- **A date is kept or lost.** -/
theorem instant? (hd : Drifts counted h v w) :
    w.bind Json.instant? = v.bind Json.instant? ∨
    w.bind Json.instant? = none := by
  induction hd with
  | refl => exact Or.inl rfl
  | zero _ _ _ _ _ => exact Or.inr rfl
  | @number w x _ _ _ _ =>
      rcases Json.ofFloat_cases x with ⟨_, hnumber⟩ | ⟨-, hnull⟩
      · rw [hnumber]
        exact Or.inr rfl
      · rw [hnull]
        exact Or.inr rfl
  | @date w t ht _ ih =>
      rw [Option.bind_some, ht] at ih
      rw [Option.bind_some]
      rcases Json.instant?_text ht with hkept | hlost
      · rw [hkept]
        exact Or.inl (ih.resolve_right nofun)
      · exact Or.inr hlost

end Drifts

/-- A fragment that leaves a field, or makes it drift. -/
inductive Fragment.DriftsAt (counted : Bool) (h : Hook) (field : String) :
    Fragment → Prop
  | away {φ : Fragment} (hφ : field ∉ φ.targets) : DriftsAt counted h field φ
  | zero (hcounted : counted = true) (hh : h = .beforeCreateTransformation) :
      DriftsAt counted h field (.defaultValue field (.ofNat 0))
  | number (hcounted : counted = true) (message : String) :
      DriftsAt counted h field (.coerceNumber field message)
  | date : DriftsAt counted h field (.normalizeDate field)

namespace Record

variable {counted : Bool} {h : Hook} {r r' : Record} {field message : String}

theorem drifts_setDefault (hcounted : counted = true)
    (hh : h = .beforeCreateTransformation) (r : Record) (field : String) :
    Drifts counted h (r.get? field)
      ((r.setDefault field (.ofNat 0)).get? field) := by
  unfold setDefault
  split
  · exact .refl
  next hnone =>
    rw [Dict.get?_insert_self]
    exact .zero hcounted hh (present?_eq_none_iff.mp (by simpa using hnone)) .refl

theorem drifts_coerceNumber (hcounted : counted = true)
    (hrun : r.coerceNumber field message = .ok r') :
    Drifts counted h (r.get? field) (r'.get? field) := by
  unfold coerceNumber at hrun
  split at hrun
  · cases hrun
    exact .refl
  next v hpresent =>
    obtain ⟨hget, -⟩ := Option.filter_eq_some_iff.mp hpresent
    split at hrun
    · cases hrun
    next x hx =>
      cases hrun
      rw [Dict.get?_insert_self, hget]
      exact .number hcounted hx .refl

theorem drifts_normalizeDate (r : Record) (field : String) :
    Drifts counted h (r.get? field) ((r.normalizeDate field).get? field) := by
  unfold normalizeDate
  split
  · exact .refl
  next t ht =>
    obtain ⟨v, hget, hv⟩ := Option.bind_eq_some_iff.mp ht
    rw [Dict.get?_insert_self, hget]
    exact .date hv .refl

end Record

/-- **A fragment that makes a field drift.** -/
theorem Fragment.DriftsAt.call_drifts [Pattern.Engine] {counted : Bool}
    {h : Hook} {field : String} {φ : Fragment} (hφ : φ.DriftsAt counted h field)
    (hprecedes : φ.precedesWrite = true) (sv : Service) (x : Scope) :
    (φ.call sv h x).Reads fun data =>
      Drifts counted h (x.data.get? field) (data.get? field) := by
  cases hφ with
  | away hφ =>
      refine (φ.call_frame sv h x hprecedes).imp fun data hdata => ?_
      rw [(hdata field hφ).get?_eq]
      exact .refl
  | zero hcounted hh =>
      exact Access.Reads.done (x.data.drifts_setDefault hcounted hh field)
  | number hcounted message =>
      exact Access.Reads.ofExcept fun data hdata =>
        Record.drifts_coerceNumber hcounted hdata
  | date => exact Access.Reads.done (x.data.drifts_normalizeDate field)

namespace Bundle

/-- The fields that a bundle writes whatever its settings are. -/
def ownFields : Bundle → List String
  | batchTracking => ["batch_number", "expiry_date"]
  | serialTracking => ["quantity"]
  | invoice =>
      ["status", "invoice_number", "issue_date",
        "due_date"] ++ Record.totalFields
  | invoiceItems => ["line_total"]
  | hrEmployee => employeeNames ++ ["email", "hire_date"]
  | hrDepartment => ["name", "location"]
  | inventory | audit | location | hrLeave => []

/-- **Different bundles have no own field in common.** -/
theorem notMem_ownFields {b other : Bundle} {field : String} (hne : other ≠ b)
    (hfield : field ∈ b.ownFields) : field ∉ other.ownFields := by
  have hmem : ∀ b, b ∈ all := by
    intro b
    cases b <;> decide
  have hapart : ∀ b ∈ all, ∀ other ∈ all, other ≠ b →
      ∀ f ∈ b.ownFields, f ∉ other.ownFields := by
    decide +kernel
  exact hapart b (hmem b) other (hmem other) hne field hfield

/-- Whether a bundle counts a field. -/
def counts (c : BundleConfig) (field : String) (b : Bundle) : Bool :=
  b = inventory ∧ c.text ["quantity_field", "quantityField"] "quantity" = field

/-- Bundles other than those for stock and leave write fields of their own
only. -/
theorem all_targets (c : BundleConfig) {b : Bundle} (hstock : b ≠ inventory)
    (hleave : b ≠ hrLeave) :
    (b.fragments c).hooks.all (fun e => e.2.targets.all b.ownFields.contains) =
      true := by
  cases b with
  | inventory => exact absurd rfl hstock
  | hrLeave => exact absurd rfl hleave
  | batchTracking =>
      show (batchTrackingSet c).hooks.all _ = true
      unfold batchTrackingSet
      dsimp only
      split <;> rfl
  | location =>
      show (locationSet c).hooks.all _ = true
      unfold locationSet
      dsimp only
      split <;> rfl
  | invoice =>
      show (invoiceSet c).hooks.all _ = true
      unfold invoiceSet
      dsimp only
      cases (c.texts ["statuses"] ["Draft", "Sent",
        "Paid", "Overdue"]).head? <;> rfl
  | _ => rfl

variable {counted : Bool} {c : BundleConfig} {field : String} {h : Hook}
    {φ : Fragment}

/-- Stock keeping sets a first number and replaces what denotes one, in the
field that it counts. -/
theorem driftsAt_inventory
    (hcounts : inventory.counts c field = true → counted = true)
    (hφ : (h, φ) ∈ (inventorySet c).hooks) : φ.DriftsAt counted h field := by
  unfold inventorySet at hφ
  by_cases hfield : c.text ["quantity_field",
    "quantityField"] "quantity" = field
  · have hcounted : counted = true := hcounts (by simp [counts, hfield])
    rw [hfield] at hφ
    simp only [List.mem_cons, Prod.mk.injEq, List.not_mem_nil, or_false] at hφ
    rcases hφ with ⟨hh, rfl⟩ | ⟨-, rfl⟩ | ⟨-, rfl⟩ | ⟨-, rfl⟩
    · exact .zero hcounted hh
    · exact .number hcounted _
    · exact .number hcounted _
    · exact .away List.not_mem_nil
  · have hne : field ∉ [c.text ["quantity_field", "quantityField"] "quantity"] :=
      fun hmem => hfield (List.mem_singleton.mp hmem).symm
    simp only [List.mem_cons, Prod.mk.injEq, List.not_mem_nil, or_false] at hφ
    rcases hφ with ⟨-, rfl⟩ | ⟨-, rfl⟩ | ⟨-, rfl⟩ | ⟨-, rfl⟩
    · exact .away hne
    · exact .away hne
    · exact .away hne
    · exact .away List.not_mem_nil

/-- The bundle for leave writes dates anew. -/
theorem driftsAt_hrLeave (hφ : (h, φ) ∈ (hrLeaveSet c).hooks) :
    φ.DriftsAt counted h field := by
  have hcases : φ.targets = [] ∨ ∃ f, φ = .normalizeDate f := by
    have hall : (hrLeaveSet c).hooks.all (fun e =>
        e.2.targets.isEmpty || e.2 matches .normalizeDate _) = true := rfl
    have hkind := List.all_eq_true.mp hall _ hφ
    rw [Bool.or_eq_true, List.isEmpty_iff] at hkind
    refine hkind.imp_right fun hdate => ?_
    cases φ with
    | normalizeDate f => exact ⟨f, rfl⟩
    | _ => cases hdate
  rcases hcases with hnone | ⟨f, rfl⟩
  · refine .away ?_
    rw [hnone]
    exact List.not_mem_nil
  · by_cases hf : f = field
    · rw [hf]
      exact .date
    · exact .away fun hmem => hf (List.mem_singleton.mp hmem).symm

/-- **A field that is none of a bundle's own drifts**, and numbers come into it
only if the bundle counts it. -/
theorem driftsAt {b : Bundle} (hfield : field ∉ b.ownFields)
    (hcounts : b.counts c field = true → counted = true)
    (hφ : φ ∈ (b.fragments c).fragmentsAt h) : φ.DriftsAt counted h field := by
  rw [FragmentSet.mem_fragmentsAt_iff] at hφ
  by_cases hstock : b = inventory
  · subst hstock
    exact driftsAt_inventory hcounts hφ
  · by_cases hleave : b = hrLeave
    · subst hleave
      exact driftsAt_hrLeave hφ
    · refine .away fun hmem => hfield ?_
      have htargets := List.all_eq_true.mp (all_targets c hstock hleave) _ hφ
      simpa using List.all_eq_true.mp htargets field hmem

end Bundle

/-- **Around the fragments of a bundle its own fields drift.** -/
theorem EntityPlan.places_drifting {p : EntityPlan}
    (hnodup : p.selection.chosen.Nodup)
    {b : Bundle} {c : BundleConfig} (hc : (b, c) ∈ p.selection.bundles)
    {field : String} (hfield : field ∈ b.ownFields) {counted : Bool}
    (hcounts : ∀ e ∈ p.selection.bundles, e.1.counts e.2 field = true →
      counted = true) (slug : String) (h : Hook) :
    (p.service slug).Places h ((b.fragments c).fragmentsAt h)
      (Fragment.DriftsAt counted h field) := by
  refine p.places hnodup hc slug h ?_ ?_
  · intro φ hφ
    refine .away ?_
    rw [p.rules.targets_eq_nil hφ]
    exact List.not_mem_nil
  · exact fun e he hne φ hφ =>
      Bundle.driftsAt (Bundle.notMem_ownFields hne hfield) (hcounts e he) hφ

/-- A hook around whose middle part a field drifts. -/
theorem Service.Places.exists_run_drifts [Pattern.Engine] {sv : Service}
    {h : Hook} {own : List Fragment} {counted : Bool} {field : String}
    (hplaces : sv.Places h own (Fragment.DriftsAt counted h field))
    (hsv : sv.Placed) (hh : h.followsWrite = false)
    {host : Host} {s : Store} {x : Scope} {data : Record}
    (hrun : ((sv.runHook h x).run host Outage.none s).1 = .ok data) :
    ∃ first second, Drifts counted h (x.data.get? field) (first.get? field) ∧
      ((sv.runFragments h own { x with data := first }).run
        host Outage.none s).1 = .ok second ∧
      Drifts counted h (second.get? field) (data.get? field) := by
  refine hplaces.exists_run hsv hh
    (R := fun r r' => Drifts counted h (r.get? field) (r'.get? field))
    ?_ ?_ ?_ hrun
  · exact fun r => .refl
  · exact fun hab hbc => hab.trans hbc
  · exact fun φ hφ hprecedes x => hφ.call_drifts hprecedes sv x

end ServiceLoom
