import ServiceLoom.Pattern.Builtin
import ServiceLoom.Proofs.Operation.Totals
import ServiceLoom.Proofs.Plan.Selection
import ServiceLoom.Proofs.Service.Requests

/-!
# Items and the totals of their parents

A service of items recomputes the parents that its item names after each write:
the one of a new item, those before and after a change, the one of a removed
item.  No other parent's items change, so parents that were in sync before a
request are in sync after it, whether the request is refused or moves an item,
clears its key or leaves it alone (`Service.Bills.after_keeps`).  The services
in question are those with the bundle for invoice items and without an audit
log, under any configuration (`SchemaGraph.serviceOf_bills`).
-/

namespace ServiceLoom

namespace Billing

variable {b : Billing} {s left last : Store}

/-- What requests keep: rows are identified, and parents are in sync. -/
structure Kept (b : Billing) (s : Store) : Prop where
  items : Identified (s.rows b.items)
  parents : Identified (s.rows b.parents)
  inSync : b.InSync s

/-- A store with the same rows is kept as well. -/
theorem Kept.congr (h : b.Kept s) (hrows : ∀ t, left.rows t = s.rows t) :
    b.Kept left where
  items := hrows b.items ▸ h.items
  parents := hrows b.parents ▸ h.parents
  inSync := fun id hid =>
    (h.inSync id hid).congr (hrows b.parents) (itemsOf_congr (hrows b.items) id)

/-- **A write of an item followed by recomputing** what the item names keeps
parents in sync, if no other parent's items changed. -/
theorem Kept.of_recomputes {values : List (Option Json)}
    (h : b.Kept s) (hitems : Identified (left.rows b.items))
    (hparents : left.rows b.parents = s.rows b.parents)
    (hothers : ∀ id, Text.isBlank id = false → id ∉ distinctTexts values →
      b.itemsOf left id = b.itemsOf s id)
    (hlast : b.Recomputes left last (distinctTexts values)) : b.Kept last where
  items := hlast.items ▸ hitems
  parents := hlast.identified
  inSync := by
    intro id hid
    by_cases hmem : id ∈ distinctTexts values
    · exact hlast.inSyncAt_of_mem id hmem
    · exact hlast.inSyncAt id
        ((h.inSync id hid).congr hparents (hothers id hid hmem))

/-- An item whose key is recomputed names no other parent. -/
theorem names_eq_false {id : String} {item : Record} {values : List (Option Json)}
    (hid : Text.isBlank id = false) (hmem : id ∉ distinctTexts values)
    (hvalue : item.get? b.foreignKey ∈ values) : b.names id item = false := by
  rw [Bool.eq_false_iff]
  exact fun hnames => hmem (mem_distinctTexts_of_names hid hnames hvalue)

end Billing

namespace Service

/-- A service of items whose only step after a write is to recompute the totals
of parents. -/
structure Bills (sv : Service) (b : Billing) : Prop where
  slug_eq : sv.slug = b.items
  placed : sv.Placed
  fragmentsAt_eq : ∀ h, h.followsWrite = true →
    sv.fragmentsAt h = [.recalculateParent b.foreignKey b.parents b.taxRate]

variable {sv : Service} {b : Billing} {host : Host} {s : Store}

/-- The hook after a write recomputes the parents that the item names before and
after it. -/
theorem Bills.runHook_recomputes [Pattern.Engine]
    (hsv : sv.Bills b) {h : Hook} (hh : h.followsWrite = true) (x : Scope)
    (hs : Identified (s.rows b.parents)) :
    b.Recomputes s ((sv.runHook h x).run host Outage.none s).2
      (distinctTexts (x.parents h b.foreignKey)) := by
  obtain ⟨left, hrun, hleft⟩ := Billing.recalculateEach_recomputes host hs
    (distinctTexts (x.parents h b.foreignKey))
  have hcall : (Fragment.call sv h x
      (.recalculateParent b.foreignKey b.parents b.taxRate)).run host
      Outage.none s = (.ok x.data, left) := by
    rw [Fragment.call, hsv.slug_eq]
    exact Access.run_bind_ok _ _ _ hrun
  rw [runHook, hsv.fragmentsAt_eq h hh, runFragments,
    Access.run_bind_ok _ _ _ hcall]
  exact hleft

/-- **The hook after a write of an item** keeps parents in sync, if the write
changed the items of those parents only that the item names before or after
it. -/
theorem Bills.runHook_keeps [Pattern.Engine]
    (hsv : sv.Bills b) (hs : b.Kept s) {h : Hook} (hh : h.followsWrite = true)
    (x : Scope) {left : Store} (hitems : Identified (left.rows b.items))
    (hparents : left.rows b.parents = s.rows b.parents)
    (hothers : ∀ id, Text.isBlank id = false →
      id ∉ distinctTexts (x.parents h b.foreignKey) →
      b.itemsOf left id = b.itemsOf s id) :
    b.Kept ((sv.runHook h x).run host Outage.none left).2 :=
  hs.of_recomputes hitems hparents hothers
    (hsv.runHook_recomputes hh x (hparents ▸ hs.parents))

/-- A creation keeps parents in sync. -/
theorem Bills.create_keeps [Pattern.Engine] (hsv : sv.Bills b) (hs : b.Kept s)
    (body : Record) : b.Kept (sv.after host s (.create body)) := by
  rcases hsv.placed.after_create host s body with
    ⟨-, hafter⟩ | ⟨data, -, ⟨⟨e, hrefused⟩, hafter⟩ | ⟨result, hinserted, hafter⟩⟩
  · rwa [hafter]
  · rw [hafter]
    rcases s.create_cases host sv.slug data with ⟨-, hrows⟩ | ⟨id, hok, -⟩
    · exact hs.congr hrows
    · rw [hrefused] at hok
      cases hok
  · rw [hafter]
    rw [hsv.slug_eq] at hinserted ⊢
    refine hsv.runHook_keeps hs rfl _
      (Store.identified_create hs.items host b.items data)
      (s.rows_create_of_ne host data b.items_ne_parents.symm)
        fun id hid hmem => ?_
    exact Billing.itemsOf_create hinserted
      (Billing.names_eq_false hid hmem (List.mem_singleton.mpr rfl))

/-- An update keeps parents in sync: those that the item names before it and
after it are recomputed. -/
theorem Bills.update_keeps [Pattern.Engine] (hsv : sv.Bills b) (hs : b.Kept s)
    (key : String) (body : Record) :
    b.Kept (sv.after host s (.update key body)) := by
  rcases hsv.placed.after_update host s key body with
      ⟨-, hafter⟩ | ⟨existing, data, hfind, -, hafter⟩
  · rwa [hafter]
  · rw [hafter]
    rw [hsv.slug_eq] at hfind ⊢
    refine hsv.runHook_keeps hs rfl _
      (Store.identified_update hs.items hs.items host key data)
      (s.rows_update_of_ne host key data b.items_ne_parents.symm)
        fun id hid hmem => ?_
    exact Billing.itemsOf_update hs.items hfind
      (Billing.names_eq_false hid hmem List.mem_cons_self)
      (Billing.names_eq_false hid hmem
        (List.mem_cons_of_mem _ List.mem_cons_self))

/-- A removal keeps parents in sync. -/
theorem Bills.delete_keeps [Pattern.Engine] (hsv : sv.Bills b) (hs : b.Kept s)
    (key : String) : b.Kept (sv.after host s (.delete key)) := by
  rcases hsv.placed.after_delete host s key with
      hafter | ⟨existing, hfind, hafter⟩
  · rwa [hafter]
  · rw [hafter]
    rw [hsv.slug_eq] at hfind ⊢
    refine hsv.runHook_keeps hs rfl _
      (Store.identified_delete hs.items b.items key)
      (by rw [s.rows_delete, if_neg b.items_ne_parents.symm])
        fun id hid hmem => ?_
    exact Billing.itemsOf_delete hs.items hfind
      (Billing.names_eq_false hid hmem (List.mem_singleton.mpr rfl))

/-- **A request keeps parents in sync.** -/
theorem Bills.after_keeps [Pattern.Engine] (hsv : sv.Bills b) (hs : b.Kept s)
    (q : Request) : b.Kept (sv.after host s q) := by
  cases q with
  | create body => exact hsv.create_keeps hs body
  | update key body => exact hsv.update_keeps hs key body
  | delete key => exact hsv.delete_keeps hs key

/-- The store after requests one after the other, each at a time of its own. -/
def afterAll [Pattern.Engine] (sv : Service) (s : Store)
    (requests : List (Host × Request)) : Store :=
  requests.foldl (fun s (host, q) => sv.after host s q) s

/-- Requests keep parents in sync, one after the other. -/
theorem Bills.afterAll_keeps [Pattern.Engine] (hsv : sv.Bills b) (hs : b.Kept s)
    (requests : List (Host × Request)) : b.Kept (sv.afterAll s requests) := by
  induction requests generalizing s with
  | nil => exact hs
  | cons request rest ih => exact ih (hsv.after_keeps hs request.2)

/-- **Parents stay in sync.** From a store that insertions, patches and removals
have led to, with every parent in sync whose identifier is not blank, requests
to a service of items lead to stores of that kind only. -/
theorem Bills.afterAll_inSync [Pattern.Engine] (hsv : sv.Bills b)
    (hs : s.Written) (hsync : b.InSync s) (requests : List (Host × Request)) :
    b.InSync (sv.afterAll s requests) :=
  (hsv.afterAll_keeps ⟨hs.identified b.items,
    hs.identified b.parents, hsync⟩ requests).inSync

end Service

/-! ## Services with the bundle for invoice items -/

/-- How the bundle for invoice items adds up under a configuration. -/
def BundleConfig.billing (c : BundleConfig) (slug : String)
    (hne : slug ≠ c.text ["parent_slug", "parentSlug"] "invoices") :
    Billing where
  items := slug
  parents := c.text ["parent_slug", "parentSlug"] "invoices"
  foreignKey := c.text ["foreign_key", "foreignKey"] "invoice_id"
  taxRate := c.number ["tax_rate", "taxRate"] 0
  items_ne_parents := hne

/-- After a write, bundles other than those for items and for the audit log
place nothing. -/
theorem Bundle.fragmentsAt_eq_nil (c : BundleConfig) {h : Hook}
    (hh : h.followsWrite = true) {b : Bundle} (hitems : b ≠ .invoiceItems)
    (haudit : b ≠ .audit) : (b.fragments c).fragmentsAt h = [] := by
  cases b with
  | invoiceItems => exact absurd rfl hitems
  | audit => exact absurd rfl haudit
  | batchTracking =>
      show (batchTrackingSet c).hooks.filterMap _ = _
      unfold batchTrackingSet
      dsimp only
      split <;> cases h <;> first | rfl | cases hh
  | location =>
      show (locationSet c).hooks.filterMap _ = _
      unfold locationSet
      dsimp only
      split <;> cases h <;> first | rfl | cases hh
  | _ => cases h <;> first | rfl | cases hh

namespace EntityPlan

variable {p : EntityPlan} {c : BundleConfig} {slug : String}

/-- After a write the fragments of a plan are those of its bundles. -/
theorem fragmentsAt_eq_flatMap (p : EntityPlan) (slug : String) {h : Hook}
    (hh : h.followsWrite = true) :
    (p.service slug).fragmentsAt h =
      p.selection.bundles.flatMap fun (b, c) =>
        (b.fragments c).fragmentsAt h := by
  have hrules : p.rules.fragments.fragmentsAt h = [] := by
    unfold FragmentSet.fragmentsAt CompiledRules.fragments
    dsimp only
    split <;> split <;> cases h <;> first | rfl | cases hh
  rw [fragmentsAt_eq_append, hrules, List.nil_append]

/-- A plan with the bundle for items and without an audit log serves items. -/
theorem service_bills (hnodup : p.selection.chosen.Nodup)
    (hc : (.invoiceItems, c) ∈ p.selection.bundles)
    (haudit : .audit ∉ p.selection.chosen)
    (hne : slug ≠ c.text ["parent_slug", "parentSlug"] "invoices") :
    (p.service slug).Bills (c.billing slug hne) where
  slug_eq := rfl
  placed := fun _ _ hmem => p.mayStandAt slug hmem
  fragmentsAt_eq := by
    intro h hh
    obtain ⟨before, after, hsplit⟩ := List.append_of_mem hc
    rw [Selection.chosen] at hnodup haudit
    have hother : ∀ e ∈ before ++ after,
        (e.1.fragments e.2).fragmentsAt h = [] := by
      intro e he
      refine Bundle.fragmentsAt_eq_nil e.2 hh ?_ ?_
      · intro heq
        rw [hsplit, List.map_append, List.map_cons,
          List.nodup_middle, ← List.map_append] at hnodup
        exact (List.nodup_cons.mp hnodup).1 (List.mem_map.mpr ⟨e, he, heq⟩)
      · intro heq
        refine haudit (List.mem_map.mpr ⟨e, ?_, heq⟩)
        rw [hsplit]
        rcases List.mem_append.mp he with he | he
        · exact List.mem_append_left _ he
        · exact List.mem_append_right _ (List.mem_cons_of_mem _ he)
    rw [fragmentsAt_eq_flatMap p slug hh, hsplit, List.flatMap_append,
      List.flatMap_cons, List.flatMap_eq_nil_iff.mpr fun e he => hother
        e (List.mem_append_left _ he), List.flatMap_eq_nil_iff.mpr fun e he =>
        hother e (List.mem_append_right _ he)]
    cases h <;> first | rfl | cases hh

end EntityPlan

/-- **The bundle for invoice items serves items**, in every schema and under
every configuration, where no audit log is woven in. -/
theorem SchemaGraph.serviceOf_bills [Pattern.Engine]
    (g : SchemaGraph) (l : BundleLibrary) {e : Entity} {c : BundleConfig}
    (hc : (.invoiceItems, c) ∈ (Selection.ofEntity l g.modules e).bundles)
    (haudit : .audit ∉ (Selection.ofEntity l g.modules e).chosen)
    (hne : e.slug ≠ c.text ["parent_slug", "parentSlug"] "invoices") :
    (g.serviceOf l e).Bills (c.billing e.slug hne) :=
  EntityPlan.service_bills (Selection.chosen_nodup l g.modules e) hc haudit hne

/-- Lines of invoices, taxed at ten percent. -/
def invoiceLines : Entity :=
  { slug := "invoice_lines", module := some defaultModule
    mixins := [.configured "invoice_items" [("tax_rate", .ofNat 10)]]
    fields := [{ name := "quantity" }, { name := "unit_price" }] }

/-- The graph of the lines. -/
def lineGraph : SchemaGraph where
  projectName := "billing"
  modules := ModuleConfig.ofSettings []
  entities := [invoiceLines]
  edges := []
  children := []
  warnings := []

/-- How the lines add up. -/
def lineBilling : Billing :=
  BundleConfig.billing [("tax_rate", .ofNat 10)] "invoice_lines" (by decide)

/-- Midnight, with identifiers that all differ. -/
def midnight : Host := ⟨Calendar.Instant.ofDay 0, fun k => "line" ++ toString k⟩

/-- An invoice without lines. -/
def openInvoice (id : String) : Record :=
  ("id", .string id) :: parentTotals [] lineBilling.taxRate

/-- Two invoices without lines. -/
def openInvoices : Store :=
  ((Store.empty.create midnight "invoices" (openInvoice "a")).2.create
    midnight "invoices"
    (openInvoice "b")).2

/-- Invoices without lines are in sync. -/
theorem openInvoices_inSync : lineBilling.InSync openInvoices := by
  intro id _ row hrow _ field hfield
  have hrows : openInvoices.rows "invoices" = ["a", "b"].map fun id =>
      (openInvoice id).stamped id midnight.stamp := rfl
  have huser : field ∉ Record.systemFields := Billing.notMem_systemFields hfield
  obtain ⟨id, -, rfl⟩ := List.mem_map.mp (hrows ▸ hrow)
  rw [Record.get?_stamped huser, openInvoice, Dict.get?,
    if_neg (ne_of_mem_of_not_mem (by decide) huser)]
  rfl

/-- Two invoices stay in sync while a line is written for the first, moved to
the second, relieved of its key and removed; in between the second has a total
of twenty-two. -/
theorem openInvoices_afterAll :
    let sv := lineGraph.serviceOf .builtin invoiceLines
    let write : Service.Request := .create
      [("invoice_id", .string "a"), ("quantity", .ofNat 4),
        ("unit_price", .ofNat 5)]
    let move : Service.Request := .update "line0" [("invoice_id", .string "b")]
    let clear : Service.Request := .update "line0" [("invoice_id", .null)]
    sv.Bills lineBilling ∧ openInvoices.Written ∧
      lineBilling.InSync openInvoices ∧
      ((sv.afterAll openInvoices [(midnight, write), (midnight, move)]).find?
        "invoices" "b").map
        (·.amount "grand_total") = some 22 ∧
      lineBilling.InSync (sv.afterAll openInvoices
        [(midnight, write), (midnight, move), (midnight, clear),
            (midnight, .delete "line0")]) := by
  intro sv write move clear
  have hchosen :
      (Selection.ofEntity .builtin lineGraph.modules invoiceLines).bundles =
      [(.inventory, []), (.invoiceItems, [("tax_rate", .ofNat 10)])] := rfl
  have hbills : sv.Bills lineBilling :=
    lineGraph.serviceOf_bills .builtin
      (hchosen ▸ List.mem_cons_of_mem _ List.mem_cons_self)
      (by decide) (by decide)
  have hwritten : openInvoices.Written :=
    .create midnight "invoices" _ (.create midnight "invoices" _ .empty)
  exact ⟨hbills, hwritten, openInvoices_inSync, by decide +kernel,
    hbills.afterAll_inSync hwritten openInvoices_inSync _⟩

end ServiceLoom
