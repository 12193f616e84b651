import ServiceLoom.Generation.Files
import ServiceLoom.Proofs.Plan.Selection
import ServiceLoom.Proofs.Schema.Slugs

/-!
# The audit log of audited entities

A service with the audit bundle writes to the audit log.  The bundle is chosen
for an entity by the feature `audit_trail`, by the activity log, by the feature
`audit` or by a mixin; the collection is added to the graph for the first two
only.  So the log may be missing where an entity asks for the bundle in one of
the other ways, and there exactly when nothing else brings a collection with the
slug of the log.

* `wantsAudit_cases` — why the table chooses the bundle;
* `audit_mem_chosen_iff` — when the bundle is chosen;
* `auditSlug_mem_slugs_iff` — when the log is there;
* `audited_logged_iff` — what the one says about the other.
-/

namespace ServiceLoom

/-- Whether an entity asks for the audit bundle without `audit_trail`: by the
feature `audit`, or by a mixin. -/
def Entity.AsksForAudit (e : Entity) : Prop :=
  (Dict.get? e.features "audit_trail" = none ∧
    Dict.get? e.features "audit" = some (.bool true)) ∨
    ∃ m ∈ e.mixins, Bundle.ofMixin? m.name = some .audit

/-- An entity that the table audits asks for it, or its activity is logged, or
it has `audit_trail`. -/
theorem wantsAudit_cases {e : Entity} {c : ModuleConfig}
    (h : wantsAudit e c = true) :
    e.AsksForAudit ∨ c.activityLog.enabled = true ∨
    Features.isEnabled e.features "audit_trail" = true := by
  unfold wantsAudit at h
  split at h
  · cases h
  · simp only [List.findSome?_cons, List.findSome?_nil] at h
    cases htrail : Dict.get? e.features "audit_trail" with
    | some value =>
        rw [htrail] at h
        cases value with
        | bool b =>
            refine Or.inr (Or.inr ?_)
            rw [Features.isEnabled, htrail]
            exact h
        | _ => cases h
    | none =>
        rw [htrail] at h
        cases hflag : Dict.get? e.features "audit" with
        | some value =>
            rw [hflag] at h
            cases value with
            | bool b =>
                obtain rfl : b = true := h
                exact Or.inl (Or.inl ⟨htrail, hflag⟩)
            | _ => cases h
        | none =>
            rw [hflag] at h
            exact Or.inr (Or.inl (Bool.and_eq_true_iff.mp h).1)

/-- The feature `audit` is enough for the table, unless the entity is
internal. -/
theorem wantsAudit_of_flag
    {e : Entity} {c : ModuleConfig} (hsystem : e.isSystem = false)
    (htrail : Dict.get? e.features "audit_trail" = none)
    (hflag : Dict.get? e.features "audit" = some (.bool true)) :
    wantsAudit e c = true := by
  simp [wantsAudit, hsystem, htrail, hflag]

namespace Selection

variable {l : BundleLibrary} {c : ModuleConfig} {e : Entity}

theorem audit_mem_requests_iff :
    .audit ∈ requests c e ↔
      wantsAudit e c = true ∨
        ∃ m ∈ e.mixins, Bundle.ofMixin? m.name = some .audit := by
  have htable : .audit ∈ (selectionRules.filter (·.applies e c)).map (·.bundle) ↔
      wantsAudit e c = true := by
    constructor
    · intro hmem
      obtain ⟨r, hr, hbundle⟩ := List.mem_map.mp hmem
      have happlies := (List.mem_filter.mp hr).2
      rwa [SelectionRule.applies, hbundle] at happlies
    · intro hwants
      exact List.mem_map.mpr
        ⟨⟨.audit, "audit_trail"⟩,
          List.mem_filter.mpr ⟨by simp [selectionRules], hwants⟩, rfl⟩
  rw [requests, List.mem_append, htable, List.mem_filterMap]

/-- No other bundle brings the audit bundle. -/
theorem audit_mem_chosen_iff :
    .audit ∈ (ofEntity l c e).chosen ↔ l.locates .audit = true ∧
      .audit ∈ requests c e := by
  rw [mem_chosen_iff]
  constructor
  · rintro ⟨r, hr, hsupplied⟩
    obtain ⟨hlocated, rfl | ⟨hrequired, -⟩⟩ :=
      BundleLibrary.mem_supply_iff.mp hsupplied
    · exact ⟨hlocated, hr⟩
    · cases Bundle.eq_inventory_of_mem_requires hrequired
  · rintro ⟨hlocated, hr⟩
    exact ⟨_, hr, BundleLibrary.mem_supply_iff.mpr ⟨hlocated, Or.inl rfl⟩⟩

end Selection

namespace Document

variable {d : Document} {config : ModuleConfig} {g : SchemaGraph} {e : Entity}

/-- Whether something brings a collection with the slug of the audit log: the
activity log, an entity with `audit_trail`, an entity with that slug, or the
reports. -/
def BringsAuditLog (d : Document) (config : ModuleConfig) : Prop :=
  config.activityLog.enabled = true ∨
    (∃ a ∈ d.kept config, Features.isEnabled a.features "audit_trail" = true ∨
      a.slug = auditSlug) ∨
    (config.scheduledReports.enabled = true ∧
      config.scheduledReports.targetSlug = auditSlug)

/-- The log is in the graph when something brings it. -/
theorem auditSlug_mem_slugs_iff (h : d.validateWith config = .ok g) :
    auditSlug ∈ g.slugs ↔ d.BringsAuditLog config := by
  have hwants : wantsAuditLog (d.kept config) config = true ↔
      config.activityLog.enabled = true ∨
      ∃ a ∈ d.kept config,
          Features.isEnabled a.features "audit_trail" = true := by
    simp [wantsAuditLog]
  rw [slugs_eq h, map_slug_systemEntities, BringsAuditLog]
  simp only [List.mem_append, List.mem_ite_nil_right,
    List.mem_singleton, hwants, and_true]
  constructor
  · rintro (hkept | ⟨hactivity | ⟨a, ha, htrail⟩, -⟩ | ⟨⟨henabled, -⟩, htarget⟩)
    · obtain ⟨a, ha, hslug⟩ := List.mem_map.mp hkept
      exact Or.inr (Or.inl ⟨a, ha, Or.inr hslug⟩)
    · exact Or.inl hactivity
    · exact Or.inr (Or.inl ⟨a, ha, Or.inl htrail⟩)
    · exact Or.inr (Or.inr ⟨henabled, htarget.symm⟩)
  · intro hbrings
    by_cases hkept : auditSlug ∈ (d.kept config).map (·.slug)
    · exact Or.inl hkept
    · refine Or.inr ?_
      rcases hbrings with
          hactivity | ⟨a, ha, htrail | hslug⟩ | ⟨henabled, htarget⟩
      · exact Or.inl ⟨Or.inl hactivity, hkept⟩
      · exact Or.inl ⟨Or.inr ⟨a, ha, htrail⟩, hkept⟩
      · exact absurd (hslug ▸ List.mem_map_of_mem ha) hkept
      · exact Or.inr ⟨⟨henabled, htarget ▸ hkept⟩, htarget.symm⟩

/-- A graph keeps the settings under which it was made. -/
theorem modules_eq (h : d.validateWith config = .ok g) :
    g.modules = config := by
  obtain ⟨_, -, h⟩ := bind_eq_ok.mp h
  obtain ⟨_, -, h⟩ := bind_eq_ok.mp h
  cases h
  rfl

/-- An entity that is served is kept, and not internal. -/
theorem kept_of_served (h : d.validateWith config = .ok g)
    (he : e ∈ g.servedEntities) : e ∈ d.kept config ∧ e.isSystem = false := by
  obtain ⟨hmem, huser⟩ := List.mem_filter.mp he
  have huser : e.isSystem = false := by simpa using huser
  rw [(validateWith_ok h).2.2] at hmem
  rcases List.mem_append.mp hmem with hkept | hinternal
  · exact ⟨hkept, huser⟩
  · rw [(mem_systemEntities hinternal).1] at huser
    cases huser

/-- **Which audited entities have their log.** One that a library gives the
audit bundle has the audit log in its graph, unless it asks for the bundle
without `audit_trail` and nothing brings the log. -/
theorem audited_logged_iff (h : d.validateWith config = .ok g)
    (l : BundleLibrary) (he : e ∈ g.servedEntities) :
    (.audit ∈ (Selection.ofEntity l g.modules e).chosen → auditSlug ∈ g.slugs) ↔
      (l.locates .audit = true → e.AsksForAudit → d.BringsAuditLog config) := by
  obtain ⟨hkept, huser⟩ := kept_of_served h he
  rw [auditSlug_mem_slugs_iff h, Selection.audit_mem_chosen_iff, modules_eq h,
    Selection.audit_mem_requests_iff]
  constructor
  · intro hlogged hlocated hasks
    refine hlogged ⟨hlocated, hasks.imp_left ?_⟩
    rintro ⟨htrail, hflag⟩
    exact wantsAudit_of_flag huser htrail hflag
  · rintro hasked ⟨hlocated, hwants | hmixin⟩
    · rcases wantsAudit_cases hwants with hasks | hactivity | htrail
      · exact hasked hlocated hasks
      · exact Or.inl hactivity
      · exact Or.inr (Or.inl ⟨e, hkept, Or.inl htrail⟩)
    · exact hasked hlocated (Or.inr hmixin)

end Document

/-- A sale.  Orders and invoices ask for the audit bundle, each in a way without
`audit_trail`; customers have features that are still open. -/
def saleDocument (features : Features) : Document where
  projectName := "sale"
  modules := []
  entities := [{ slug := "orders", features := [("audit", .bool true)] },
    { slug := "invoices", mixins := [.named "AuditMixin"] },
      { slug := "customers", features }]

/-- With `audit_trail` at the customers, invoices have their log. -/
theorem saleDocument_invoices_logged :
    ∃ g, (saleDocument [("audit_trail", .bool true)]).validate = .ok g ∧
      ∃ e ∈ g.servedEntities, e.slug = "invoices" ∧
        .audit ∈ (Selection.ofEntity .builtin g.modules e).chosen ∧
          auditSlug ∈ g.slugs := by
  have haccepted : (saleDocument [("audit_trail", .bool true)]).validateWith
      (.ofSettings []) = .ok _ := rfl
  have hcustomers : Document.BringsAuditLog
      (saleDocument [("audit_trail", .bool true)]) (.ofSettings []) :=
    Or.inr (Or.inl ⟨_, List.mem_of_getElem? (i := 2) rfl, Or.inl rfl⟩)
  refine ⟨_, haccepted, _, List.mem_of_getElem? (i := 1) rfl,
    rfl, by decide +kernel, ?_⟩
  have hinvoices := Document.audited_logged_iff haccepted
      .builtin (List.mem_of_getElem? (i := 1) rfl)
  exact hinvoices.mpr (fun _ _ => hcustomers) (by decide +kernel)

/-- **Orders and invoices of a sale are audited without a log**: the graph has
no other entities than the three of the document. -/
theorem saleDocument_unlogged :
    ∃ g, (saleDocument []).validate = .ok g ∧
      g.slugs = ["orders", "invoices", "customers"] ∧
      auditSlug ∉ g.slugs ∧
      (∃ e ∈ g.servedEntities, e.slug = "orders" ∧
        .audit ∈ (Selection.ofEntity .builtin g.modules e).chosen) ∧
      ∃ e ∈ g.servedEntities, e.slug = "invoices" ∧
        .audit ∈ (Selection.ofEntity .builtin g.modules e).chosen :=
  ⟨_, rfl, rfl,
    by decide, ⟨_, List.mem_of_getElem? (i := 0) rfl, rfl, by decide +kernel⟩,
    _, List.mem_of_getElem? (i := 1) rfl, rfl, by decide +kernel⟩

end ServiceLoom
