import ServiceLoom.Pattern.Builtin
import ServiceLoom.Proofs.Rule.CheckedWrites
import ServiceLoom.Proofs.Service.Columns
import ServiceLoom.Proofs.Service.NumberedRows
import ServiceLoom.Schema.Validation

/-!
# Unique fields

The rules check that no other row has the text of a unique field, and they come
before all bundles.  What a bundle then makes of the field is not checked again,
unless it is a number in a sequence that has not come to its end.  So a service
keeps the values of a unique field apart exactly as long as the values that it
stores are those that were checked, or happen to be unshared themselves.

* `Service.Stable.distinct_after_iff` — what one request does to rows whose
  values are apart.
* `Service.ChecksUnique.stored_unshared` — without a fragment that rewrites the
  field every stored value is unshared, as long as numbers last.
* `SchemaGraph.unique_field` — both, for every unique field of a schema and
  every run of its service.
-/

namespace ServiceLoom

/-- No two rows of a collection share the text of a filled field. -/
def Store.Distinct (s : Store) (slug field : String) : Prop :=
  (s.rows slug).Pairwise (Record.Apart field)

instance (field : String) : DecidableRel (Record.Apart field) :=
  fun a b =>
    inferInstanceAs (Decidable (Json.Apart (a.get? field) (b.get? field)))

instance (s : Store) (slug field : String) :
    Decidable (s.Distinct slug field) :=
  inferInstanceAs (Decidable ((s.rows slug).Pairwise (Record.Apart field)))

namespace Store

variable {s s' : Store} {slug field : String}

/-- With distinct identifiers, rows are apart when values under different
identifiers are. -/
theorem distinct_iff_column (h : Identified (s.rows slug)) :
    s.Distinct slug field ↔
      ∀ a ∈ s.column slug field, ∀ b ∈ s.column slug field, a.1 ≠ b.1 →
        Json.Apart a.2 b.2 := by
  have hpairwise :
      (s.column slug field).Pairwise (fun a b => Json.Apart a.2 b.2) ↔
      s.Distinct slug field := List.pairwise_map
  rw [← hpairwise]
  constructor
  · intro hapart
    refine List.Pairwise.forall_of_forall_of_flip
      (fun e _ hne => absurd rfl hne) ?_ ?_
    · exact hapart.imp fun {a b} (hab : Json.Apart a.2 b.2) (_ : a.1 ≠ b.1) =>
        hab
    · exact hapart.imp fun {a b} (hab : Json.Apart a.2 b.2) (_ : b.1 ≠ a.1) =>
        hab.symm
  · intro hapart
    have hnodup := List.pairwise_map.mp ((identified_iff_column field).mp h).2
    exact hnodup.imp_of_mem fun ha hb hne => hapart _ ha _ hb hne

/-- **Writing one value keeps a column apart exactly when the value is apart
from the others.** -/
theorem distinct_write_iff
    {id : String} {value : Option Json} (h : Identified (s.rows slug))
    (h' : Identified (s'.rows slug)) (hdistinct : s.Distinct slug field)
    (hmem : ∀ e, e ∈ s'.column slug field ↔
      e = (some id, value) ∨ e ∈ s.column slug field ∧ e.1 ≠ some id) :
    s'.Distinct slug field ↔ ∀ e ∈ s.column slug field, e.1 ≠ some id →
      Json.Apart value e.2 := by
  rw [distinct_iff_column h']
  rw [distinct_iff_column h] at hdistinct
  constructor
  · intro hapart e he hne
    exact hapart _ ((hmem _).mpr (Or.inl rfl)) e
      ((hmem e).mpr (Or.inr ⟨he, hne⟩)) hne.symm
  · intro hapart a ha b hb hne
    rcases (hmem a).mp ha with rfl | ⟨ha, hane⟩
    · rcases (hmem b).mp hb with rfl | ⟨hb, hbne⟩
      · exact absurd rfl hne
      · exact hapart b hb hbne
    · rcases (hmem b).mp hb with rfl | ⟨hb, hbne⟩
      · exact (hapart a ha hane).symm
      · exact hdistinct a ha b hb hne

/-- A value is unshared when it is apart from those under other identifiers. -/
theorem unshared_iff_column {mode : WriteMode} {id : String} {value : Option Json}
    (hown : ∀ row ∈ s.rows slug,
      (∃ own, mode.ownId = some own ∧ row.id? = some own) ↔ row.id? = some id) :
    Unshared field mode value (s.rows slug) ↔
      ∀ e ∈ s.column slug field, e.1 ≠ some id → Json.Apart value e.2 := by
  rw [unshared_iff_apart, column, List.forall_mem_map]
  refine forall_congr' fun row => imp_congr_right fun hrow => ?_
  rw [hown row hrow]
  exact Classical.or_iff_not_imp_left

end Store

/-! ## Fragments -/

/-- Whether a fragment rewrites a field, other than by numbering it. -/
def Fragment.rewrites (slug field : String) : Fragment → Bool
  | sequence _ _ _ _ => false
  | φ => φ.targets.contains field || φ.recomputes slug field

/-- Whether a fragment numbers a field. -/
def Fragment.numbers (field : String) : Fragment → Bool
  | sequence numbered _ _ _ => numbered == field
  | _ => false

/-- The last number is not in use, if a fragment numbers a field of a
collection. -/
def Fragment.NumbersLast (slug field : String) (s : Store) : Fragment → Prop
  | sequence numbered label width message => numbered = field →
      Numbering.Open ⟨slug, numbered, label, width, message⟩ s
  | _ => True

/-- What numbers no such field needs no number. -/
theorem Fragment.numbersLast_of_numbers_eq_false {slug field : String}
    {s : Store} {φ : Fragment} (hφ : φ.numbers field = false) :
    φ.NumbersLast slug field s := by
  cases φ with
  | sequence numbered label width message =>
      exact fun heq => absurd heq (by simpa [numbers] using hφ)
  | _ => trivial

/-- What does not rewrite a field does not recompute it either. -/
theorem Fragment.recomputes_eq_false {slug field : String} {φ : Fragment}
    (hφ : φ.rewrites slug field = false) : φ.recomputes slug field = false := by
  cases φ with
  | recalculateParent foreignKey parentSlug taxRate =>
      simpa [rewrites, targets] using hφ
  | _ => rfl

/-- A fragment that does not rewrite a field leaves its value unshared, as long
as numbers last. -/
theorem Fragment.call_unshared [Pattern.Engine] {sv : Service} {h : Hook}
    {x : Scope} {φ : Fragment} {field : String} {host : Host} {s : Store}
    {data : Record} (hprecedes : φ.precedesWrite = true)
    (hφ : φ.rewrites sv.slug field = false)
    (hlast : φ.NumbersLast sv.slug field s)
    (hvalue : Unshared field .create (x.data.get? field) (s.rows sv.slug))
    (hrun : ((φ.call sv h x).run host Outage.none s).1 = .ok data) :
    Unshared field .create (data.get? field) (s.rows sv.slug) := by
  by_cases hfield : field ∈ φ.targets
  · cases φ with
    | sequence numbered label width message =>
        obtain rfl : field = numbered := List.mem_singleton.mp hfield
        have hopen : Numbering.Open ⟨sv.slug, field, label, width, message⟩ s :=
          hlast rfl
        exact nextSequence_unshared
          (fun _ => (Numbering.open_iff _).mp hopen) hrun
    | _ => simp [rewrites, hfield] at hφ
  · have hsame := (φ.call_frame sv h x hprecedes).answer
        host Outage.none s data hrun field hfield
    rwa [← hsame.get?_eq]

namespace Service

variable {sv : Service} {field : String} {host : Host} {s : Store}

/-- Fragments that do not rewrite a field leave its value unshared, as long as
numbers last. -/
theorem runFragments_unshared [Pattern.Engine]
    {h : Hook} {fragments : List Fragment} {x : Scope}
    {data : Record} (hprecedes : ∀ φ ∈ fragments, φ.precedesWrite = true)
    (hkeep : ∀ φ ∈ fragments, φ.rewrites sv.slug field = false)
    (hlast : ∀ φ ∈ fragments, φ.NumbersLast sv.slug field s)
    (hvalue : Unshared field .create (x.data.get? field) (s.rows sv.slug))
    (hrun :
      ((sv.runFragments h fragments x).run host Outage.none s).1 = .ok data) :
    Unshared field .create (data.get? field) (s.rows sv.slug) := by
  induction fragments generalizing x with
  | nil =>
      cases hrun
      exact hvalue
  | cons φ rest ih =>
      have hφ := hprecedes φ List.mem_cons_self
      obtain ⟨next, hcall, hrest⟩ :=
        (φ.call_frame sv h x hφ).exists_of_bind_ok hrun
      have hnext := φ.call_unshared hφ (hkeep φ List.mem_cons_self)
        (hlast φ List.mem_cons_self) hvalue hcall
      exact ih (fun φ hφ => hprecedes φ (List.mem_cons_of_mem _ hφ))
        (fun φ hφ => hkeep φ (List.mem_cons_of_mem _ hφ))
        (fun φ hφ => hlast φ (List.mem_cons_of_mem _ hφ)) hnext hrest

/-- A service whose rules check a field for uniqueness before anything else
happens at a write. -/
structure ChecksUnique (sv : Service) (field : String) : Prop where
  rule : ∃ r ∈ sv.rules.rules, r.field = field ∧ r.unique = true
  first : ∀ h, h = .beforeCreateValidation ∨ h = .beforeUpdateValidation →
    ∃ rest, sv.fragmentsAt h = .fieldRules :: rest

/-- What passes the rules is unshared as it was checked. -/
theorem ChecksUnique.runHook_unshared [Pattern.Engine]
    (hsv : sv.ChecksUnique field) {h : Hook} {x : Scope} {data : Record}
    (hh : h = .beforeCreateValidation ∨ h = .beforeUpdateValidation)
    (hrun : ((sv.runHook h x).run host Outage.none s).1 = .ok data) :
    Unshared field (x.mode h) ((x.checked h).get? field) (s.rows sv.slug) := by
  obtain ⟨rest, hrest⟩ := hsv.first h hh
  obtain ⟨r, hr, rfl, hunique⟩ := hsv.rule
  rw [runHook, hrest, runFragments] at hrun
  obtain ⟨_, hcall, -⟩ :=
    (Fragment.fieldRules.call_frame sv h x rfl).exists_of_bind_ok hrun
  obtain ⟨_, hvalidate, -⟩ :=
    (sv.rules.validate_reads _ _ _).exists_of_bind_ok hcall
  rcases sv.rules.validate_run host with ⟨hfits, -⟩ | ⟨f, herror⟩
  · exact (hfits r hr).2.1 hunique
  · rw [herror] at hvalidate
    cases hvalidate

/-- The rules have found the checked value unshared. -/
theorem ChecksUnique.checked_unshared [Pattern.Engine]
    (hsv : sv.ChecksUnique field) (hplaced : sv.Placed) {q : Request}
    {checked stored : Record} {mode : WriteMode}
    (h : sv.Stores host s q checked stored mode) :
    Unshared field mode (checked.get? field) (s.rows sv.slug) := by
  cases h with
  | create hprepared _ =>
      obtain ⟨_, hvalidation, -⟩ :=
        (hplaced.runHook_frame rfl _).exists_of_bind_ok hprepared
      exact hsv.runHook_unshared (Or.inl rfl) hvalidation
  | update _ hprepared => exact hsv.runHook_unshared (Or.inr rfl) hprepared

/-- The last number is not in use in any sequence in which a service numbers a
field. -/
def NumbersLast (sv : Service) (field : String) (s : Store) : Prop :=
  ∀ h φ, (h, φ) ∈ sv.woven → φ.NumbersLast sv.slug field s

/-- **Without a fragment that rewrites the field every stored value is
unshared**, as long as numbers last. A creation may still number it; an update
stores the value that was checked. -/
theorem ChecksUnique.stored_unshared [Pattern.Engine]
    (hsv : sv.ChecksUnique field) (hplaced : sv.Placed)
    (hkeep : ∀ h φ, (h, φ) ∈ sv.woven → φ.rewrites sv.slug field = false)
    (hlast : sv.NumbersLast field s) {q : Request} {checked stored : Record}
    {mode : WriteMode} (h : sv.Stores host s q checked stored mode) :
    Unshared field mode (stored.get? field) (s.rows sv.slug) := by
  have hchecked := hsv.checked_unshared hplaced h
  cases h with
  | create hprepared _ =>
      obtain ⟨data, hvalidation, htransformation⟩ :=
        (hplaced.runHook_frame rfl _).exists_of_bind_ok hprepared
      have hvalidated :
          Unshared field .create (data.get? field) (s.rows sv.slug) :=
        runFragments_unshared (hplaced.precedesWrite rfl)
          (fun φ hφ => hkeep _ φ (mem_fragmentsAt_iff.mp hφ))
          (fun φ hφ => hlast _ φ (mem_fragmentsAt_iff.mp hφ)) hchecked
          hvalidation
      exact runFragments_unshared (hplaced.precedesWrite rfl)
        (fun φ hφ => hkeep _ φ (mem_fragmentsAt_iff.mp hφ))
        (fun φ hφ => hlast _ φ (mem_fragmentsAt_iff.mp hφ)) hvalidated
        htransformation
  | update _ hprepared =>
      have hsame := (hplaced.runHook_frame rfl _).answer
          host Outage.none s _ hprepared field ?_
      · rw [← hsame.get?_merge_eq]
        exact hchecked
      · intro φ hφ hfield
        have hstands := hplaced _ φ (mem_fragmentsAt_iff.mp hφ)
        have hrewrites := hkeep _ φ (mem_fragmentsAt_iff.mp hφ)
        cases φ with
        | sequence numbered label width message => cases hstands
        | _ => simp [Fragment.rewrites, hfield] at hrewrites

/-! ## Requests -/

theorem Stores.forall_unshared_iff [Pattern.Engine] {q : Request}
    {checked stored : Record} {mode : WriteMode}
    (h : sv.Stores host s q checked stored mode) :
    (∀ checked stored mode, sv.Stores host s q checked stored mode →
        Unshared field mode (stored.get? field) (s.rows sv.slug)) ↔
      Unshared field mode (stored.get? field) (s.rows sv.slug) := by
  constructor
  · intro hall
    exact hall _ _ _ h
  · intro hunshared checked' stored' mode' h'
    obtain ⟨-, rfl, rfl⟩ := h.unique h'
    exact hunshared

/-- **A request keeps values apart exactly when the value that it stores is
unshared.** -/
theorem Stable.distinct_after_iff [Pattern.Engine] (hsv : sv.Stable field)
    (h : Identified (s.rows sv.slug)) (hdistinct : s.Distinct sv.slug field)
    (q : Request) :
    (sv.after host s q).Distinct sv.slug field ↔
      ∀ checked stored mode, sv.Stores host s q checked stored mode →
        Unshared field mode (stored.get? field) (s.rows sv.slug) := by
  have h' : Identified ((sv.after host s q).rows sv.slug) :=
    hsv.identified_after h q
  rcases hsv.after_cases host h q with
      ⟨hnone, hsub⟩ | ⟨id, checked, stored, mode, hwrites⟩
  · refine iff_of_true ?_ fun checked stored mode hstores =>
      absurd ⟨checked, stored, mode, hstores⟩ hnone
    rw [Store.distinct_iff_column h']
    intro a ha b hb
    exact (Store.distinct_iff_column h).mp hdistinct
      a (hsub.subset ha) b (hsub.subset hb)
  · rw [Store.distinct_write_iff h h' hdistinct hwrites.mem_iff,
      hwrites.stores.forall_unshared_iff]
    exact (Store.unshared_iff_column hwrites.own_iff).symm

/-! ## Runs -/

/-- A request stores a value that was checked, or another one that no other row
has. -/
def StoresUnshared [Pattern.Engine] (sv : Service) (host : Host) (s : Store)
    (q : Request) (field : String) : Prop :=
  ∀ checked stored mode, sv.Stores host s q checked stored mode →
    stored.get? field = checked.get? field ∨
      Unshared field mode (stored.get? field) (s.rows sv.slug)

/-- What was checked is unshared, so it does not matter whether it is stored as
it is. -/
theorem ChecksUnique.storesUnshared_iff [Pattern.Engine]
    (hsv : sv.ChecksUnique field) (hplaced : sv.Placed) (q : Request) :
    sv.StoresUnshared host s q field ↔
    ∀ checked stored mode, sv.Stores host s q checked stored mode →
      Unshared field mode (stored.get? field) (s.rows sv.slug) := by
  refine forall₃_congr fun checked stored mode =>
    imp_congr_right fun hstores => ?_
  refine or_iff_right_of_imp fun hsame => ?_
  rw [hsame]
  exact hsv.checked_unshared hplaced hstores

end Service

/-- The stores that requests lead to from an empty one while a condition holds
at each request. -/
inductive Service.ReachedWhile [Pattern.Engine] (sv : Service)
    (p : Store → Prop) : Store → Prop
  | empty : ReachedWhile sv p Store.empty
  | serve {s : Store} (host : Host) (q : Service.Request) :
      ReachedWhile sv p s → p s → ReachedWhile sv p (sv.after host s q)

/-- What can be reached at all is reached while a condition holds that always
does. -/
theorem Service.Reachable.reachedWhile [Pattern.Engine] {sv : Service}
    {p : Store → Prop} {s : Store} (hs : sv.Reachable s) (hp : ∀ s, p s) :
    sv.ReachedWhile p s := by
  induction hs with
  | empty => exact .empty
  | serve host q _ ih => exact .serve host q ih (hp _)

/-- What is reached while a condition holds can be reached. -/
theorem Service.ReachedWhile.reachable [Pattern.Engine] {sv : Service}
    {p : Store → Prop} {s : Store} (hs : sv.ReachedWhile p s) :
    sv.Reachable s := by
  induction hs with
  | empty => exact .empty
  | serve host q _ _ ih => exact .serve host q ih

namespace Service

variable {sv : Service} {field : String} {s : Store}

/-- **A request keeps the values of a checked field apart exactly when it stores
the value that was checked**, or another one that no other row has. -/
theorem ChecksUnique.keepsDistinct_iff [Pattern.Engine]
    (hsv : sv.ChecksUnique field) (hstable : sv.Stable field)
    (hs : sv.Reachable s) (hdistinct : s.Distinct sv.slug field) (host : Host)
    (q : Request) :
    (sv.after host s q).Distinct sv.slug field ↔
      sv.StoresUnshared host s q field := by
  rw [hsv.storesUnshared_iff hstable.placed]
  exact hstable.distinct_after_iff (hstable.identified hs) hdistinct q

/-- Values that no fragment rewrites stay apart while numbers last. -/
theorem ChecksUnique.distinct_of_reachedWhile [Pattern.Engine]
    (hsv : sv.ChecksUnique field) (hstable : sv.Stable field)
    (hkeep : ∀ h φ, (h, φ) ∈ sv.woven → φ.rewrites sv.slug field = false)
    (hs : sv.ReachedWhile (sv.NumbersLast field) s) :
    s.Distinct sv.slug field := by
  induction hs with
  | empty => exact List.Pairwise.nil
  | serve host q hs hlast ih =>
      refine (hsv.keepsDistinct_iff hstable hs.reachable ih host q).mpr ?_
      intro checked stored mode hstores
      exact Or.inr (hsv.stored_unshared hstable.placed hkeep hlast hstores)

/-- **Values stay apart for good exactly when every request keeps them so.** -/
theorem ChecksUnique.forall_distinct_iff [Pattern.Engine]
    (hsv : sv.ChecksUnique field) (hstable : sv.Stable field) :
    (∀ s, sv.Reachable s → s.Distinct sv.slug field) ↔
      ∀ s host q, sv.Reachable s → sv.StoresUnshared host s q field := by
  constructor
  · intro hall s host q hs
    exact (hsv.keepsDistinct_iff hstable hs (hall s hs) host q).mp
      (hall _ (.serve host q hs))
  · intro hstores s hs
    induction hs with
    | empty => exact List.Pairwise.nil
    | serve host q hs ih =>
        exact (hsv.keepsDistinct_iff hstable hs ih host q).mpr
          (hstores _ host q hs)

end Service

/-! ## Services of a schema -/

namespace SchemaGraph

variable (g : SchemaGraph) (l : BundleLibrary) {e : Entity} {f : Field}

/-- The rules check a unique field first. -/
theorem serviceOf_checksUnique [Pattern.Engine] (hf : f ∈ e.fields)
    (hunique : f.unique = true) (huser : f.name ∉ Record.systemFields) :
    (g.serviceOf l e).ChecksUnique f.name := by
  have hruled : f ∈ ruledFields e :=
    List.mem_filter.mpr ⟨hf, by simpa using huser⟩
  have hrule : g.fieldRule e.slug f ∈ (g.fieldRules e).rules :=
    List.mem_map_of_mem hruled
  exact {
    rule := ⟨_, hrule, rfl, hunique⟩
    first := fun h hh =>
      EntityPlan.fragmentsAt_eq_cons _ e.slug (List.ne_nil_of_mem hrule) hh }

/-- **When the rows of a service share the text of a unique field.** Never, if
no fragment rewrites or numbers the field; not while numbers last, if none
rewrites it.  Otherwise, if none recomputes it after the write, a request brings
such rows about exactly when it stores another value than the one that was
checked, and that value is shared. -/
theorem unique_field [Pattern.Engine]
    (he : e ∈ g.servedEntities) (hf : f ∈ e.fields) (hunique : f.unique = true)
    (huser : f.name ∉ Record.systemFields) :
    let sv := g.serviceOf l e
    ((∀ h φ, (h, φ) ∈ sv.woven → φ.rewrites e.slug f.name = false) →
        (∀ s, sv.ReachedWhile (sv.NumbersLast f.name) s →
          s.Distinct e.slug f.name) ∧
        ((∀ h φ, (h, φ) ∈ sv.woven → φ.numbers f.name = false) →
          ∀ s, sv.Reachable s → s.Distinct e.slug f.name)) ∧
      ((∀ h φ, (h, φ) ∈ sv.woven → φ.recomputes e.slug f.name = false) →
        (∀ s host q, sv.Reachable s → s.Distinct e.slug f.name →
          ((sv.after host s q).Distinct e.slug f.name ↔
            sv.StoresUnshared host s q f.name)) ∧
        ((∀ s, sv.Reachable s → s.Distinct e.slug f.name) ↔
          ∀ s host q, sv.Reachable s → sv.StoresUnshared host s q f.name)) := by
  intro sv
  have hchecks : sv.ChecksUnique f.name :=
    g.serviceOf_checksUnique l hf hunique huser
  refine ⟨fun hkeep => ?_, fun hkeep => ?_⟩
  · have hstable : sv.Stable f.name := g.serviceOf_stable l he huser
      fun h φ hmem => Fragment.recomputes_eq_false (hkeep h φ hmem)
    refine ⟨fun s hs => hchecks.distinct_of_reachedWhile hstable hkeep hs, ?_⟩
    intro hunnumbered s hs
    refine hchecks.distinct_of_reachedWhile hstable hkeep (hs.reachedWhile ?_)
    exact fun _ h φ hmem =>
      Fragment.numbersLast_of_numbers_eq_false (hunnumbered h φ hmem)
  · have hstable : sv.Stable f.name := g.serviceOf_stable l he huser hkeep
    exact ⟨fun s host q hs hdistinct =>
        hchecks.keepsDistinct_iff hstable hs hdistinct host q,
      hchecks.forall_distinct_iff hstable⟩

end SchemaGraph

/-- Lots with two unique fields. A bundle writes batch numbers in capitals. -/
def lotDocument : Document where
  projectName := "lots"
  modules := []
  entities := [
    { slug := "lots", mixins := [.named "batch_tracking"]
      fields := [{ name := "batch_number", unique := true },
        { name := "code", unique := true }] }]

/-- The lots as they are served. -/
def lots : Entity :=
  { slug := "lots", module := some defaultModule,
    mixins := [.named "batch_tracking"]
    fields := [{ name := "batch_number", unique := true },
      { name := "code", unique := true }] }

/-- The graph of the lots. -/
def lotGraph : SchemaGraph where
  projectName := "lots"
  modules := ModuleConfig.ofSettings []
  entities := [lots]
  edges := []
  children := []
  warnings := []

/-- The creation of a lot. -/
def createLot (id batch code : String) : Service.Request :=
  .create [("batch_number", .string batch), ("code", .string code),
    ("id", .string id)]

def noon : Host := ⟨Calendar.Instant.ofDay 0, fun _ => ""⟩

/-- Codes stay apart. A second lot with the batch number `a1` passes the rules,
but stores a shared one. -/
theorem lotDocument_unique :
    lotDocument.validate = .ok lotGraph ∧ lots ∈ lotGraph.servedEntities ∧
      let sv := lotGraph.serviceOf .builtin lots
      let s := sv.after noon Store.empty (createLot "x" "a1" "1")
      (∀ s, sv.Reachable s → s.Distinct "lots" "code") ∧
        sv.Reachable s ∧ s.Distinct "lots" "batch_number" ∧
        ¬ sv.StoresUnshared noon s (createLot "y" "a1" "2") "batch_number" := by
  have hserved : lots ∈ lotGraph.servedEntities := List.mem_cons_self
  refine ⟨rfl, hserved, ?_⟩
  intro sv s
  have hcode := lotGraph.unique_field .builtin hserved
    (f := { name := "code", unique := true })
    (List.mem_cons_of_mem _ List.mem_cons_self) rfl (by decide)
  have hbatch := lotGraph.unique_field .builtin hserved
    (f := { name := "batch_number", unique := true })
    List.mem_cons_self rfl (by decide)
  have hkeep :
      sv.woven.all (fun e => !e.2.rewrites lots.slug "code") = true := by
    decide +kernel
  have hunnumbered : sv.woven.all (fun e => !e.2.numbers "code") = true := by
    decide +kernel
  have hrecompute : sv.woven.all
      (fun e => !e.2.recomputes lots.slug "batch_number") = true := by
    decide +kernel
  have hs : sv.Reachable s := .serve noon _ .empty
  have hdistinct : s.Distinct "lots" "batch_number" := by decide +kernel
  have hclash : ¬ (sv.after noon s (createLot "y" "a1" "2")).Distinct
      "lots" "batch_number" := by
    decide +kernel
  have hstep := (hbatch.2 fun h φ hmem =>
      by simpa using List.all_eq_true.mp hrecompute _ hmem).1
    s noon (createLot "y" "a1" "2") hs hdistinct
  have hcodes := (hcode.1
    fun h φ hmem => by simpa using List.all_eq_true.mp hkeep _ hmem).2
    fun h φ hmem => by simpa using List.all_eq_true.mp hunnumbered _ hmem
  exact ⟨hcodes, hs, hdistinct, fun hstores => hclash (hstep.mpr hstores)⟩

/-- **Batch numbers of lots are not unique**, although they are declared so: two
creations with the same batch number lead to two rows with its capitals. -/
theorem lotDocument_clash :
    lotDocument.validate = .ok lotGraph ∧
    ∃ e ∈ lotGraph.servedEntities, ∃ f ∈ e.fields,
      f.unique = true ∧ f.name ∉ Record.systemFields ∧
        ∃ s, (lotGraph.serviceOf .builtin e).Reachable s ∧
          ¬ s.Distinct e.slug f.name := by
  refine ⟨rfl, lots, List.mem_cons_self,
    { name := "batch_number", unique := true }, List.mem_cons_self,
    rfl, by decide, ?_⟩
  refine ⟨_, .serve noon (createLot "y" "a1" "2")
    (.serve noon (createLot "x" "a1" "1") .empty), ?_⟩
  decide +kernel

end ServiceLoom
