import ServiceLoom.Pattern.Builtin
import ServiceLoom.Proofs.Operation.Quantities
import ServiceLoom.Proofs.Plan.Selection
import ServiceLoom.Proofs.Record.Order
import ServiceLoom.Proofs.Service.Columns
import ServiceLoom.Schema.Validation

/-!
# Stock

The bundle for stock reads a quantity as a number before it is written.  On
update it then refuses what is below zero, and so does an adjustment; a creation
has no such bound.  So rows have a negative quantity exactly when a creation
stores one, and a creation stores none that it is not given.

* `Fragment.call_noDeficit` — what one fragment may do to a quantity;
* `Service.Stocks.create_amount`, `Service.Stocks.update_amount` — what is
  stored;
* `Service.Stocks.inStock_after_iff` — one request, in terms of what it stores;
* `SchemaGraph.stock` — all runs of requests and adjustments.

Records that come in list each field once (`Dict.Ordered`); of a field that is
listed twice an update would check one value and store the other.
-/

namespace ServiceLoom

/-- Every row of a collection has a quantity that is zero or above. -/
def Store.InStock (s : Store) (slug field : String) : Prop :=
  ∀ row ∈ s.rows slug, 0 ≤ row.amount field

instance (s : Store) (slug field : String) : Decidable (s.InStock slug field) :=
  inferInstanceAs (Decidable (∀ row ∈ s.rows slug, 0 ≤ row.amount field))

/-- Stock is a matter of one column. -/
theorem Store.inStock_iff_column {s : Store} {slug field : String} :
    s.InStock slug field ↔ ∀ e ∈ s.column slug field, 0 ≤ quantityOf e.2 := by
  rw [column, List.forall_mem_map]
  rfl

/-! ## Fragments -/

/-- Whether a fragment sets a quantity only to a default that is not negative,
or to what it denotes. -/
def Fragment.keepsStock (field : String) : Fragment → Bool
  | defaultValue f v | forceValue f v =>
      decide (f ≠ field ∨ 0 ≤ quantityOf (some v))
  | coerceNumber _ _ | normalizeDate _ => true
  | φ => !φ.targets.contains field

/-- **A fragment before a write makes no deficit.** -/
theorem Fragment.call_noDeficit [Pattern.Engine]
    {sv : Service} {h : Hook} {x : Scope} {φ : Fragment} {field : String}
    {host : Host} {s : Store} {data : Record}
    (hprecedes : φ.precedesWrite = true) (hφ : φ.keepsStock field = true)
    (hrun : ((φ.call sv h x).run host Outage.none s).1 = .ok data) :
    NoDeficit (x.data.amount field) (data.amount field) := by
  by_cases hfield : field ∈ φ.targets
  · cases φ with
    | defaultValue f v =>
        obtain rfl : field = f := List.mem_singleton.mp hfield
        cases hrun
        exact x.data.noDeficit_setDefault field (by simpa [keepsStock] using hφ)
    | forceValue f v =>
        obtain rfl : field = f := List.mem_singleton.mp hfield
        cases hrun
        exact x.data.noDeficit_insert field (by simpa [keepsStock] using hφ)
    | coerceNumber f message =>
        obtain rfl : field = f := List.mem_singleton.mp hfield
        exact (Record.amount_coerceNumber
          (Access.eq_ok_of_run_ofExcept _ _ _ hrun)).1
    | normalizeDate f =>
        obtain rfl : field = f := List.mem_singleton.mp hfield
        cases hrun
        exact x.data.noDeficit_normalizeDate field
    | _ => simp [keepsStock, hfield] at hφ
  · have hsame := (φ.call_frame sv h x hprecedes).answer
        host Outage.none s data hrun field hfield
    rw [Record.amount_eq, Record.amount_eq, hsame.get?_eq]
    exact NoDeficit.refl _

namespace Service

variable {sv : Service} {field : String} {host : Host} {s : Store}

/-- Fragments before a write make no deficit, one after the other. -/
theorem runFragments_noDeficit [Pattern.Engine] {h : Hook}
    {fragments : List Fragment} {x : Scope}
    {data : Record} (hprecedes : ∀ φ ∈ fragments, φ.precedesWrite = true)
    (hkeep : ∀ φ ∈ fragments, φ.keepsStock field = true)
    (hrun :
      ((sv.runFragments h fragments x).run host Outage.none s).1 = .ok data) :
    NoDeficit (x.data.amount field) (data.amount field) := by
  induction fragments generalizing x with
  | nil =>
      cases hrun
      exact NoDeficit.refl _
  | cons φ rest ih =>
      have hφ := hprecedes φ List.mem_cons_self
      obtain ⟨next, hcall, hrest⟩ :=
        (φ.call_frame sv h x hφ).exists_of_bind_ok hrun
      exact (Fragment.call_noDeficit hφ (hkeep φ List.mem_cons_self) hcall).trans
        (ih (fun φ hφ => hprecedes φ (List.mem_cons_of_mem _ hφ))
          (fun φ hφ => hkeep φ (List.mem_cons_of_mem _ hφ)) hrest)

/-! ## Requests -/

/-- A service that reads a quantity as a number before it is written, and on
update checks that it is not below zero. -/
structure Stocks (sv : Service) (field : String) : Prop
    extends sv.Stable field where
  keeps : ∀ h φ, (h, φ) ∈ sv.woven → φ.keepsStock field = true
  onCreate : ∃ before message after,
    sv.fragmentsAt .beforeCreateTransformation =
      before ++ .coerceNumber field message :: after
  onUpdate : ∃ before message bound after,
    sv.fragmentsAt .beforeUpdateValidation =
    before ++ .coerceNumber field message :: .atLeast field 0 bound :: after

/-- Fragments of a hook before a write make no deficit. -/
theorem Stocks.noDeficit [Pattern.Engine] (hsv : sv.Stocks field)
    {h : Hook} (hh : h.followsWrite = false) {fragments : List Fragment}
    (hfragments : ∀ φ ∈ fragments, φ ∈ sv.fragmentsAt h)
    {x : Scope} {data : Record}
    (hrun :
      ((sv.runFragments h fragments x).run host Outage.none s).1 = .ok data) :
    NoDeficit (x.data.amount field) (data.amount field) :=
  runFragments_noDeficit
    (fun φ hφ => hsv.placed.precedesWrite hh φ (hfragments φ hφ))
    (fun φ hφ => hsv.keeps h φ (mem_fragmentsAt_iff.mp (hfragments φ hφ))) hrun

/-- **Where a quantity is read as a number** among the fragments of a hook: no
deficit arises before or after that, and the number is comparable with zero. -/
theorem Stocks.exists_coerced [Pattern.Engine] (hsv : sv.Stocks field)
    {h : Hook} (hh : h.followsWrite = false)
    {before after : List Fragment} {message : String}
    (hsplit : sv.fragmentsAt h = before ++ .coerceNumber field message :: after)
    {x : Scope} {data : Record}
    (hrun : ((sv.runHook h x).run host Outage.none s).1 = .ok data) :
    ∃ number : Record, NoDeficit (x.data.amount field) (number.amount field) ∧
      (number.amount field < 0 ∨ 0 ≤ number.amount field) ∧
      ((sv.runFragments h after { x with data := number }).run
        host Outage.none s).1 = .ok data := by
  have hmem : ∀ φ ∈ before, φ ∈ sv.fragmentsAt h :=
    fun φ hφ => hsplit ▸ List.mem_append_left _ hφ
  rw [runHook, hsplit] at hrun
  obtain ⟨middle, hbefore, hrest⟩ := exists_of_runFragments_append
    (fun φ hφ => hsv.placed.precedesWrite hh φ (hmem φ hφ)) hrun
  obtain ⟨number, hcoerce, hafter⟩ :=
    (Fragment.call_frame sv h { x with data := middle }
      (φ := .coerceNumber field message) rfl).exists_of_bind_ok
      hrest
  obtain ⟨hdeficit, hcompare⟩ :=
    Record.amount_coerceNumber (Access.eq_ok_of_run_ofExcept _ _ _ hcoerce)
  exact ⟨number, (hsv.noDeficit hh hmem hbefore).trans hdeficit, hcompare, hafter⟩

/-- **A creation** stores what is comparable with zero, and a deficit only if it
is posted. -/
theorem Stocks.create_amount
    [Pattern.Engine] (hsv : sv.Stocks field) {body data : Record}
    (hrun : ((sv.prepareCreate body).run host Outage.none s).1 = .ok data) :
    NoDeficit (body.amount field) (data.amount field) ∧
    (data.amount field < 0 ∨ 0 ≤ data.amount field) := by
  obtain ⟨valid, hvalid, htransform⟩ :=
    (hsv.placed.runHook_frame rfl _).exists_of_bind_ok hrun
  obtain ⟨before, message, after, hsplit⟩ := hsv.onCreate
  obtain ⟨number, hnumber, hcompare, hafter⟩ :=
    hsv.exists_coerced rfl hsplit htransform
  have hlast : NoDeficit (number.amount field) (data.amount field) :=
    hsv.noDeficit rfl (fun φ hφ =>
      hsplit ▸ List.mem_append_right _ (List.mem_cons_of_mem _ hφ)) hafter
  have hfirst : NoDeficit (body.amount field) (valid.amount field) :=
    hsv.noDeficit rfl (fun _ hφ => hφ) hvalid
  refine ⟨(hfirst.trans hnumber).trans hlast, ?_⟩
  rcases hlast with hsame | hge
  · rwa [hsame]
  · exact Or.inr hge

/-- **An update** changes a quantity only to what is not negative. -/
theorem Stocks.update_amount [Pattern.Engine]
    (hsv : sv.Stocks field) {id : String} {existing body data : Record}
    (hrun : ((sv.prepareUpdate id existing body).run host Outage.none s).1 =
      .ok data) : 0 ≤ data.amount field := by
  obtain ⟨before, message, bound, after, hsplit⟩ := hsv.onUpdate
  obtain ⟨number, -, hcompare, hrest⟩ := hsv.exists_coerced rfl hsplit hrun
  obtain ⟨checked, hcheck, hafter⟩ :=
    (Fragment.call_frame sv .beforeUpdateValidation
      { data := number, id, existing }
        (φ := .atLeast field 0 bound) rfl).exists_of_bind_ok hrest
  obtain ⟨_, hbound, hreturn⟩ :=
    (Access.Reads.ofExcept (P := fun _ => True)
      fun _ _ => trivial).exists_of_bind_ok hcheck
  cases hreturn
  have hge : 0 ≤ number.amount field :=
    hcompare.resolve_left (Record.not_amount_lt_of_atLeast
      (Access.eq_ok_of_run_ofExcept _ _ _ hbound))
  refine NoDeficit.zero_le (hsv.noDeficit rfl (fun φ hφ => ?_) hafter) hge
  exact hsplit ▸ List.mem_append_right _
    (List.mem_cons_of_mem _ (List.mem_cons_of_mem _ hφ))

/-- The row after an update has the changed quantity, or the one that it had. -/
theorem Stocks.stored_amount [Pattern.Engine]
    (hsv : sv.Stocks field) (hstock : s.InStock sv.slug field) {id : String}
    {body checked stored : Record} {mode : WriteMode} (hbody : Dict.Ordered body)
    (hstores : sv.Stores host s (.update id body) checked stored mode) :
    0 ≤ stored.amount field := by
  cases hstores with
  | @update _ _ existing data hfound hprepared =>
      have hordered : Dict.Ordered data :=
        hsv.placed.ordered_prepareUpdate hbody hprepared
      have hchanged : 0 ≤ quantityOf (data.get? field) :=
        hsv.update_amount hprepared
      rw [Record.amount_eq, Dict.get?_merge hordered]
      cases hget : data.get? field with
      | none => exact hstock existing (s.find?_some hfound).1
      | some v => rwa [hget] at hchanged

/-- A creation with a negative quantity. -/
def Request.PostsDeficit (field : String) : Request → Prop
  | create body => Record.amount body field < 0
  | _ => False

/-- A request creates a row with a negative quantity. -/
def StoresDeficit [Pattern.Engine] (sv : Service) (host : Host) (s : Store)
    (q : Request) (field : String) : Prop :=
  ∃ body data, sv.Stores host s q body data .create ∧ data.amount field < 0

/-- After a write to a collection without negative quantities, only the stored
row can have one. -/
theorem Writes.inStock_iff [Pattern.Engine]
    {q : Request} {id : String} {checked stored : Record} {mode : WriteMode}
    (hwrites : sv.Writes host s q field id checked stored mode)
    (hstock : s.InStock sv.slug field) :
    (sv.after host s q).InStock sv.slug field ↔ 0 ≤ stored.amount field := by
  rw [Store.inStock_iff_column] at hstock ⊢
  constructor
  · intro hall
    exact hall (some id, stored.get? field)
      ((hwrites.mem_iff _).mpr (Or.inl rfl))
  · intro hge e he
    rcases (hwrites.mem_iff e).mp he with rfl | ⟨hold, -⟩
    · exact hge
    · exact hstock e hold

/-- **A request keeps quantities from being negative exactly when it creates no
row with a negative one.** -/
theorem Stocks.inStock_after_iff [Pattern.Engine]
    (hsv : sv.Stocks field) (host : Host) (h : Identified (s.rows sv.slug))
    (hstock : s.InStock sv.slug field) {q : Request} (hq : q.Ordered) :
    (sv.after host s q).InStock sv.slug field ↔
      ¬ sv.StoresDeficit host s q field := by
  rcases hsv.after_cases host h q with
      ⟨hnone, hsub⟩ | ⟨id, checked, stored, mode, hwrites⟩
  · have hkept : (sv.after host s q).InStock sv.slug field := by
      rw [Store.inStock_iff_column] at hstock ⊢
      exact fun e he => hstock e (hsub.subset he)
    refine iff_of_true hkept ?_
    rintro ⟨body, data, hstores, -⟩
    exact hnone ⟨body, data, _, hstores⟩
  · rw [hwrites.inStock_iff hstock]
    have hstores := hwrites.stores
    cases q with
    | create body =>
        constructor
        · rintro hge ⟨body', data, hstores', hlt⟩
          obtain ⟨-, rfl, -⟩ := hstores.unique hstores'
          exact Decimal.not_lt_of_le hge hlt
        · intro hnone
          cases hstores with
          | create hprepared hinserted =>
              refine (hsv.create_amount hprepared).2.resolve_left fun hlt => ?_
              exact hnone ⟨_, _, .create hprepared hinserted, hlt⟩
    | update id body =>
        refine iff_of_true (hsv.stored_amount hstock hq hstores) ?_
        rintro ⟨body', data, hstores', -⟩
        cases hstores'
    | delete id => cases hstores

/-! ## Runs -/

/-- The stores that requests of a kind and adjustments lead to from an empty
one, in any order. -/
inductive StockRun [Pattern.Engine] (sv : Service) (field : String)
    (admits : Request → Prop) : Store → Prop
  | empty : StockRun sv field admits Store.empty
  | serve {s : Store} (host : Host) {q : Request} (hordered : q.Ordered)
      (hq : admits q) :
      StockRun sv field admits s → StockRun sv field admits (sv.after host s q)
  | adjust {s : Store} (host : Host) (id : String) (delta : Float) :
      StockRun sv field admits s →
      StockRun sv field admits
        ((adjustStock sv.slug id field delta).run host Outage.none s).2

/-- Rows stay identified when stock is adjusted. -/
theorem identified_adjustStock {slug : String} (h : Identified (s.rows slug))
    (host : Host) (id : String) (delta : Float) :
    Identified (((adjustStock slug id field delta).run
      host Outage.none s).2.rows slug) := by
  rcases adjustStock_cases host s slug id field delta with
      hsame | ⟨next, -, hpatched⟩
  · rwa [hsame]
  · rw [hpatched]
    exact Store.identified_update h h host id _

variable {admits : Request → Prop}

theorem Stocks.identified [Pattern.Engine] (hsv : sv.Stocks field)
    (hs : sv.StockRun field admits s) : Identified (s.rows sv.slug) := by
  induction hs with
  | empty => exact Identified.nil
  | serve host _ _ _ ih => exact hsv.identified_after ih _
  | adjust host id delta _ ih => exact identified_adjustStock ih host id delta

/-- An adjustment makes no deficit. -/
theorem Stocks.inStock_adjust (hsv : sv.Stocks field)
    (hstock : s.InStock sv.slug field) (host : Host) (id : String)
    (delta : Float) :
    ((adjustStock sv.slug id field delta).run host Outage.none s).2.InStock
      sv.slug field := by
  intro row hrow
  rcases amount_of_mem_adjustStock hsv.user_field hrow with hold | hge
  · exact hstock row hold
  · exact hge

/-- **Runs that create no row with a negative quantity** lead to none. -/
theorem Stocks.inStock [Pattern.Engine] (hsv : sv.Stocks field)
    (hcreate : ∀ s host q, sv.StockRun field admits s →
      q.Ordered → admits q → ¬ sv.StoresDeficit host s q field)
    (hs : sv.StockRun field admits s) : s.InStock sv.slug field := by
  induction hs with
  | empty => exact nofun
  | serve host hordered hq hs ih =>
      exact (hsv.inStock_after_iff host (hsv.identified hs) ih hordered).mpr
        (hcreate _ host _ hs hordered hq)
  | adjust host id delta _ ih => exact hsv.inStock_adjust ih host id delta

/-- A negative quantity that is stored has been posted. -/
theorem Stocks.postsDeficit [Pattern.Engine] (hsv : sv.Stocks field)
    {q : Request} (h : sv.StoresDeficit host s q field) :
    q.PostsDeficit field := by
  obtain ⟨body, data, hstores, hlt⟩ := h
  cases hstores with
  | create hprepared _ =>
      rcases (hsv.create_amount hprepared).1 with hsame | hge
      · rw [hsame] at hlt
        exact hlt
      · exact absurd hlt (Decimal.not_lt_of_le hge)

end Service

/-! ## Services with the bundle for stock -/

/-- What a bundle places makes no deficit. -/
theorem Bundle.all_keepsStock (c : BundleConfig) (b : Bundle) :
    (b.fragments c).hooks.all (fun e => e.2.keepsStock "quantity") = true := by
  cases b with
  | inventory =>
      have hzero : 0 ≤ quantityOf (some (.ofNat 0)) := by decide
      simp [fragments, inventorySet, Fragment.keepsStock,
        Fragment.targets, hzero]
  | serialTracking =>
      have hone : 0 ≤ quantityOf (some (.ofNat 1)) := by decide
      simp [fragments, serialTrackingSet, Fragment.keepsStock,
        Fragment.targets, hone]
  | batchTracking =>
      show (batchTrackingSet c).hooks.all _ = true
      unfold batchTrackingSet
      dsimp only
      split <;> rfl
  | location =>
      show (locationSet c).hooks.all _ = true
      unfold locationSet
      dsimp only
      split <;> rfl
  | invoice =>
      show (invoiceSet c).hooks.all _ = true
      unfold invoiceSet
      dsimp only
      cases (c.texts ["statuses"] ["Draft", "Sent",
        "Paid", "Overdue"]).head? <;> rfl
  | _ => rfl

/-- What the rules place makes no deficit. -/
theorem CompiledRules.all_keepsStock (c : CompiledRules) :
    c.fragments.hooks.all (fun e => e.2.keepsStock "quantity") = true :=
  c.all_fragments rfl

namespace SchemaGraph

variable (g : SchemaGraph) (l : BundleLibrary) {e : Entity} {c : BundleConfig}

/-- **The bundle for stock** under its default name of the field. -/
theorem serviceOf_stocks [Pattern.Engine] (he : e ∈ g.servedEntities)
    (hc : (.inventory, c) ∈ (Selection.ofEntity l g.modules e).bundles)
    (hfield :
      c.text ["quantity_field", "quantityField"] "quantity" = "quantity") :
    (g.serviceOf l e).Stocks "quantity" where
  placed := fun _ _ hmem => EntityPlan.mayStandAt _ e.slug hmem
  slug_ne := g.slug_ne_auditSlug he
  user_field := by decide
  recomputes := by
    intro h φ _
    cases φ with
    | recalculateParent foreignKey parentSlug taxRate =>
        simp [Fragment.recomputes, Record.totalFields]
    | _ => rfl
  keeps := fun _ _ hmem =>
    EntityPlan.of_mem_woven _ e.slug CompiledRules.all_keepsStock
      Bundle.all_keepsStock hmem
  onCreate := by
    obtain ⟨before, after, hsplit⟩ := EntityPlan.exists_fragmentsAt_eq
      (p := EntityPlan.ofEntity l g e) hc e.slug .beforeCreateTransformation
    refine ⟨before ++ [.defaultValue "quantity" (.ofNat 0)],
      "Quantity must be a number", after,
      hsplit.trans ?_⟩
    rw [List.append_assoc, ← hfield]
    rfl
  onUpdate := by
    obtain ⟨before, after, hsplit⟩ :=
      EntityPlan.exists_fragmentsAt_eq
        (p := EntityPlan.ofEntity l g e) hc e.slug .beforeUpdateValidation
    refine ⟨before, "Quantity must be a number", "Stock cannot be negative",
      after, hsplit.trans ?_⟩
    rw [← hfield]
    rfl

/-- **When the rows of a service have a negative quantity.** Neither adjustments
nor updates bring one about, nor creations that post none; so runs without such
a creation lead to none.  A creation that stores a negative quantity does, and
it is the only request that can. -/
theorem stock [Pattern.Engine] (he : e ∈ g.servedEntities)
    (hc : (.inventory, c) ∈ (Selection.ofEntity l g.modules e).bundles)
    (hfield :
      c.text ["quantity_field", "quantityField"] "quantity" = "quantity") :
    let sv := g.serviceOf l e
    let Run := sv.StockRun "quantity" fun _ => True
    (∀ s, sv.StockRun "quantity" (fun q => ¬ q.PostsDeficit "quantity") s →
      s.InStock e.slug "quantity") ∧
      (∀ s host q, Run s → q.Ordered → s.InStock e.slug "quantity" →
        ((sv.after host s q).InStock e.slug "quantity" ↔
          ¬ sv.StoresDeficit host s q "quantity")) ∧
      ((∀ s, Run s → s.InStock e.slug "quantity") ↔
        ∀ s host q, Run s → q.Ordered →
            ¬ sv.StoresDeficit host s q "quantity") := by
  intro sv Run
  have hsv : sv.Stocks "quantity" := g.serviceOf_stocks l he hc hfield
  have hstep : ∀ s host q, Run s → q.Ordered → s.InStock e.slug "quantity" →
      ((sv.after host s q).InStock e.slug "quantity" ↔
          ¬ sv.StoresDeficit host s q "quantity") :=
    fun s host q hs hq hstock =>
      hsv.inStock_after_iff host (hsv.identified hs) hstock hq
  refine ⟨fun s hs => ?_, hstep, ?_, ?_⟩
  · exact hsv.inStock (fun s host q _ _ hposts hstores =>
      hposts (hsv.postsDeficit hstores)) hs
  · intro hall s host q hs hq
    exact (hstep s host q hs hq (hall s hs)).mp
      (hall _ (.serve host hq trivial hs))
  · intro hnone s hs
    exact hsv.inStock (fun s host q hs hq _ => hnone s host q hs hq) hs

end SchemaGraph

/-- Parts with a quantity, and so with the bundle for stock. -/
def partDocument : Document where
  projectName := "parts"
  modules := []
  entities := [{ slug := "parts", fields := [{ name := "quantity" }] }]

/-- The parts as they are served. -/
def parts : Entity :=
  { slug := "parts", module := some defaultModule,
    fields := [{ name := "quantity" }] }

/-- The graph of the parts. -/
def partGraph : SchemaGraph where
  projectName := "parts"
  modules := ModuleConfig.ofSettings []
  entities := [parts]
  edges := []
  children := []
  warnings := []

/-- The start of a day. -/
def dawn : Host := ⟨Calendar.Instant.ofDay 0, fun _ => ""⟩

/-- The creation of a part with a quantity. -/
def createPart (id : String) (quantity : Int) : Service.Request :=
  .create [("id", .string id), ("quantity", .ofInt quantity)]

/-- Five parts, three of which are taken; to take three more is refused, and so
is an update to less than none. -/
theorem partDocument_stock :
    partDocument.validate = .ok partGraph ∧ parts ∈ partGraph.servedEntities ∧
      (Bundle.inventory, []) ∈
        (Selection.ofEntity .builtin partGraph.modules parts).bundles ∧
      let sv := partGraph.serviceOf .builtin parts
      let take := fun s =>
          ((adjustStock "parts" "x" "quantity" (-3)).run dawn Outage.none s).2
      let s := take (take (sv.after dawn Store.empty (createPart "x" 5)))
      let last := sv.after dawn s (.update "x" [("quantity", .ofInt (-1))])
      last.InStock "parts" "quantity" ∧
          (last.rows "parts").map (·.amount "quantity") = [2] := by
  have hserved : parts ∈ partGraph.servedEntities := List.mem_cons_self
  have hchosen : (Selection.ofEntity .builtin partGraph.modules parts).bundles =
      [(.inventory, [])] := rfl
  have hmem : (Bundle.inventory, []) ∈
      (Selection.ofEntity .builtin partGraph.modules parts).bundles :=
    hchosen ▸ List.mem_cons_self
  refine ⟨rfl, hserved, hmem, ?_⟩
  intro sv take s last
  have hposts : ¬ (createPart "x" 5).PostsDeficit "quantity" := by
    show ¬ Record.amount _ _ < 0
    decide
  have hordered : (createPart "x" 5).Ordered := by
    show Dict.Ordered _
    decide
  have hupdate : Dict.Ordered [("quantity", Json.ofInt (-1))] := by decide
  have hrun :
      sv.StockRun "quantity" (fun q => ¬ q.PostsDeficit "quantity") last :=
    .serve dawn hupdate (fun h => h)
      (.adjust dawn "x" (-3)
        (.adjust dawn "x" (-3) (.serve dawn hordered hposts .empty)))
  exact ⟨(partGraph.stock .builtin hserved hmem rfl).1 last hrun,
    by decide +kernel⟩

/-- **Quantities of parts can be negative**: a creation with minus five is
accepted. -/
theorem partDocument_deficit :
    partDocument.validate = .ok partGraph ∧ ∃ e ∈ partGraph.servedEntities, ∃ c,
      (Bundle.inventory, c) ∈
        (Selection.ofEntity .builtin partGraph.modules e).bundles ∧
        c.text ["quantity_field", "quantityField"] "quantity" = "quantity" ∧
        ∃ s, (partGraph.serviceOf .builtin e).StockRun
          "quantity" (fun _ => True) s ∧
          ¬ s.InStock e.slug "quantity" := by
  have hchosen : (Selection.ofEntity .builtin partGraph.modules parts).bundles =
      [(.inventory, [])] := rfl
  have hordered : (createPart "x" (-5)).Ordered := by
    show Dict.Ordered _
    decide
  refine ⟨rfl, parts, List.mem_cons_self, [],
    hchosen ▸ List.mem_cons_self, rfl, ?_⟩
  exact ⟨_, .serve dawn hordered trivial .empty, by decide⟩

end ServiceLoom
