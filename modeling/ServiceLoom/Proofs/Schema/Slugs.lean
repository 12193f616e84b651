import ServiceLoom.Proofs.Schema.Validation
import ServiceLoom.Proofs.Text.Blank

/-!
# The slugs of a graph

The slugs of a document are checked, but those of internal entities are added
afterwards, and each is compared with the kept entities only.  One of them can
be configured: the collection for reports may be given the slug of the audit
log.  So every slug of a graph is filled, and all are distinct, but for the
audit log's, which two internal entities have when the log is added and the
reports are to go to the same place.

* `ScheduledReports.isBlank_targetSlug` — settings never name a blank
  collection;
* `Document.validate_slugs` — which slugs of a graph are distinct.
-/

namespace ServiceLoom

/-- Report settings never name a blank collection. -/
theorem ScheduledReports.isBlank_targetSlug (setting : Option Json) :
    Text.isBlank (ofSetting setting).targetSlug = false := by
  have hdefault : Text.isBlank defaultReportsSlug = false := by decide
  unfold ofSetting
  split
  next m =>
    dsimp only
    generalize ((Dict.get? m "target_slug").orElse fun _ =>
        Dict.get? m "targetSlug").bind
      Json.string? = slug
    cases hslug : slug.filter (fun s => !Text.isBlank s) with
    | none => exact hdefault
    | some s =>
        have hfilled : Text.isBlank s = false := by
          simpa using (Option.filter_eq_some_iff.mp hslug).2
        exact Text.isBlank_trim hfilled
  · exact hdefault
  · exact hdefault

/-- The slugs of the entities of a graph. -/
def SchemaGraph.slugs (g : SchemaGraph) : List String := g.entities.map (·.slug)

/-- The slugs of the internal entities that entities need. -/
theorem map_slug_systemEntities (entities : List Entity)
    (config : ModuleConfig) :
    (systemEntities entities config).map (·.slug) =
      (if wantsAuditLog entities config = true ∧
        auditSlug ∉ entities.map (·.slug) then [auditSlug] else []) ++
        (if config.scheduledReports.enabled = true ∧
            config.scheduledReports.targetSlug ∉ entities.map (·.slug) then
          [config.scheduledReports.targetSlug] else []) := by
  have hfree : ∀ slug, (!entities.any (·.slug = slug)) = true ↔
      slug ∉ entities.map (·.slug) := by
    intro slug
    simp
  unfold systemEntities
  simp only [List.map_append, Bool.and_eq_true, hfree, apply_ite (List.map _)]
  rfl

namespace Document

variable {d : Document} {config : ModuleConfig} {g : SchemaGraph}

/-- Whether the reports go to the slug of the audit log, and both are added. -/
def DoublesAuditLog (d : Document) (config : ModuleConfig) : Prop :=
  wantsAuditLog (d.kept config) config = true ∧
    auditSlug ∉ (d.kept config).map (·.slug) ∧
    config.scheduledReports.enabled = true ∧
      config.scheduledReports.targetSlug = auditSlug

instance : Decidable (d.DoublesAuditLog config) :=
  inferInstanceAs (Decidable (_ ∧ _))

/-- The slugs of a graph are those of kept entities and those of internal
ones. -/
theorem slugs_eq (h : d.validateWith config = .ok g) :
    g.slugs = (d.kept config).map (·.slug) ++
      (systemEntities (d.kept config) config).map (·.slug) := by
  rw [SchemaGraph.slugs, (validateWith_ok h).2.2, List.map_append]

/-- Internal entities share a slug exactly when the reports go to the audit
log. -/
theorem nodup_internal_iff :
    ((systemEntities (d.kept config) config).map (·.slug)).Nodup ↔
      ¬ d.DoublesAuditLog config := by
  rw [map_slug_systemEntities, DoublesAuditLog]
  by_cases hlog : wantsAuditLog (d.kept config) config = true ∧
    auditSlug ∉ (d.kept config).map (·.slug)
  · by_cases hreports : config.scheduledReports.enabled = true ∧
        config.scheduledReports.targetSlug ∉ (d.kept config).map (·.slug)
    · rw [if_pos hlog, if_pos hreports]
      simp [hlog, hreports, eq_comm]
    · rw [if_pos hlog, if_neg hreports]
      have hapart : config.scheduledReports.enabled = true →
          config.scheduledReports.targetSlug ≠ auditSlug :=
        fun henabled heq => hreports ⟨henabled, heq ▸ hlog.2⟩
      simpa [hlog] using hapart
  · rw [if_neg hlog, List.nil_append]
    have hnodup : (if config.scheduledReports.enabled = true ∧
        config.scheduledReports.targetSlug ∉ (d.kept config).map (·.slug) then
          [config.scheduledReports.targetSlug] else []).Nodup := by
      split <;> simp
    exact iff_of_true hnodup fun hdouble => hlog ⟨hdouble.1, hdouble.2.1⟩

/-- The slugs of a graph are distinct when those of its internal entities
are. -/
theorem slugs_nodup_iff (h : d.validateWith config = .ok g) :
    g.slugs.Nodup ↔ ¬ d.DoublesAuditLog config := by
  rw [slugs_eq h, List.nodup_append, nodup_internal_iff]
  refine ⟨fun hnodup => hnodup.2.1, fun hdouble => ⟨kept_nodup h, hdouble, ?_⟩⟩
  intro slug hslug other hother
  obtain ⟨e, he, rfl⟩ := List.mem_map.mp hslug
  obtain ⟨a, ha, rfl⟩ := List.mem_map.mp hother
  exact (mem_systemEntities ha).2 e he

/-- If two entities share the slug of the audit log, all others are distinct. -/
theorem nodup_erase_auditSlug (h : d.validateWith config = .ok g) :
    (g.slugs.erase auditSlug).Nodup := by
  by_cases hdouble : d.DoublesAuditLog config
  · obtain ⟨hlog, hfree, henabled, htarget⟩ := hdouble
    have hslugs : g.slugs = (d.kept config).map (·.slug) ++ [auditSlug,
        auditSlug] := by
      rw [slugs_eq h, map_slug_systemEntities, htarget,
        if_pos ⟨hlog, hfree⟩, if_pos ⟨henabled, hfree⟩]
      rfl
    rw [hslugs, List.erase_append_right _ hfree, List.erase_cons_head,
      List.nodup_append]
    refine ⟨kept_nodup h, List.nodup_singleton _, ?_⟩
    rintro slug hslug _ hlast rfl
    exact hfree (List.mem_singleton.mp hlast ▸ hslug)
  · exact ((slugs_nodup_iff h).mpr hdouble).erase _

/-- No slug of a graph is blank, unless the reports are configured so. -/
theorem isBlank_of_mem_slugs (h : d.validateWith config = .ok g)
    (htarget : Text.isBlank config.scheduledReports.targetSlug = false)
    {slug : String} (hslug : slug ∈ g.slugs) : Text.isBlank slug = false := by
  rw [slugs_eq h, map_slug_systemEntities] at hslug
  rcases List.mem_append.mp hslug with hkept | hinternal
  · obtain ⟨a, ha, rfl⟩ := List.mem_map.mp hkept
    obtain ⟨e, he, hae, -⟩ := Surroundings.mem_active (slugs_nodup h) ha
    rw [congrArg Entity.slug hae]
    exact ((checkSlugs_ok (validateWith_ok h).1).2 e he).2
  · rcases List.mem_append.mp hinternal with hlog | hreports
    · split at hlog
      · rw [List.mem_singleton.mp hlog]
        decide
      · cases hlog
    · split at hreports
      · rw [List.mem_singleton.mp hreports]
        exact htarget
      · cases hreports

/-- **Which slugs of a graph are distinct.** None is blank; all are distinct,
unless the reports go to the slug of the audit log and both are added; and then
that slug, which two entities have, is the only one. -/
theorem validate_slugs (h : d.validate = .ok g) :
    (∀ slug ∈ g.slugs, Text.isBlank slug = false) ∧
      (g.slugs.Nodup ↔ ¬ d.DoublesAuditLog (.ofSettings d.modules)) ∧
      (g.slugs.erase auditSlug).Nodup :=
  ⟨fun _ => isBlank_of_mem_slugs h (ScheduledReports.isBlank_targetSlug _),
    slugs_nodup_iff h,
    nodup_erase_auditSlug h⟩

end Document

/-- Orders that are audited, and reports about them in a collection of a given
name. -/
def reportsDocument (target : String) : Document where
  projectName := "orders"
  modules := [("activity_log", .bool true),
    ("scheduled_reports",
      .object [("enabled", .bool true), ("target_slug", .string target)])]
  entities := [{ slug := "orders" }]

/-- Reports in a collection of their own: all slugs are distinct. -/
theorem reportsDocument_daily_slugs :
    ∃ g, (reportsDocument " daily ").validate = .ok g ∧
      g.slugs = ["orders", "__audit_logs", "daily"] ∧
      (∀ slug ∈ g.slugs, Text.isBlank slug = false) ∧ g.slugs.Nodup := by
  have haccepted : (reportsDocument " daily ").validate = .ok _ := rfl
  obtain ⟨hfilled, hnodup, -⟩ := Document.validate_slugs haccepted
  exact ⟨_, haccepted, rfl, hfilled, hnodup.mpr (by decide +kernel)⟩

/-- **Reports in the audit log are added beside it**: the graph has two entities
with one slug. -/
theorem reportsDocument_doubled :
    ∃ g, (reportsDocument auditSlug).validate = .ok g ∧
      g.slugs = ["orders", "__audit_logs", "__audit_logs"] ∧ ¬ g.slugs.Nodup :=
  ⟨_, rfl, rfl, by decide⟩

end ServiceLoom
