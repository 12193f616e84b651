import ServiceLoom.Proofs.Schema.Resolution
import ServiceLoom.Proofs.Schema.Surroundings

/-!
# Entities of disabled modules

References are resolved among the slugs of all entities, those of disabled
modules included, and such an entity may not be used.  So a document that is
accepted makes no use of them, and it can do without: a field that points to a
kept entity still points there when the others are gone, since among fewer slugs
its target is still the first plural form or the least slug with the beginning,
and a field that points nowhere has no slug to point to.

* `Surroundings.checkField_uses`, `Surroundings.checkChild_uses` — what passes
  uses kept entities only;
* `Document.validateWith_withoutDisabled` — the document without its disabled
  entities has the same graph.
-/

namespace ServiceLoom

namespace Surroundings

variable {s : Surroundings}

/-- A field that passes has one target at most, and that is active. -/
theorem checkField_uses {source : String} {f : Field}
    {found : Option ReferenceEdge} (h : s.checkField source f = .ok found) :
    (∀ base several, f.resolve s.slugs ≠ .ambiguous base several) ∧
      ∀ slug explicit, f.resolve s.slugs = .target slug explicit →
        s.isActive slug = true := by
  constructor
  · intro base several hr
    rw [checkField, hr] at h
    cases h
  · intro slug explicit hr
    obtain ⟨hfound, hreach⟩ := checkField_ok h
    have hedge : f.edge? s.slugs source =
        some ⟨source, f.name, slug, explicit, f.isMultiple⟩ := by
      rw [Field.edge?, hr]
    exact (hreach _ (hfound.trans hedge)).1

/-- A child relation that passes has no slug, or an active child. -/
theorem checkChild_uses {parent : String} {c : ChildRelation}
    {found : Option ChildEdge} (h : s.checkChild parent c = .ok found)
    (hslug : Text.trim c.entity ≠ "") :
    Text.trim c.entity ∈ s.slugs ∧ s.isActive (Text.trim c.entity) = true := by
  rw [checkChild] at h
  dsimp only at h
  rw [if_neg hslug] at h
  split at h
  · cases h
  next child hchild =>
    constructor
    · exact List.mem_map.mpr ⟨child, List.mem_of_find?_eq_some hchild,
        by simpa using List.find?_some hchild⟩
    · by_contra hinactive
      rw [if_pos (by simpa using hinactive)] at h
      cases h

end Surroundings

namespace Document

variable {d : Document} {config : ModuleConfig} {g : SchemaGraph}

/-- The document without the entities of modules that are not switched on. -/
def withoutDisabled (d : Document) (config : ModuleConfig) : Document :=
  { d with entities := d.entities.filter fun e =>
    config.isEnabled (config.moduleOf e) }

/-- The same entities are kept. -/
theorem kept_withoutDisabled :
    (d.withoutDisabled config).kept config = d.kept config := by
  simp only [kept, surroundings, Surroundings.active,
    withoutDisabled, List.filter_filter, Bool.and_self]

/-- Nothing else has a slug. -/
theorem slugs_withoutDisabled_sublist :
    ((d.withoutDisabled config).surroundings config).slugs.Sublist
      (d.surroundings config).slugs :=
  List.filter_sublist.map _

/-- An active entity is found as before. -/
theorem entity?_withoutDisabled (hnodup : (d.surroundings config).slugs.Nodup)
    {slug : String} (hmem : slug ∈ (d.surroundings config).slugs)
    (hactive : (d.surroundings config).isActive slug = true) :
    (d.surroundings config).entity? slug =
      ((d.withoutDisabled config).surroundings config).entity? slug := by
  obtain ⟨e, he, rfl⟩ := List.mem_map.mp hmem
  have henabled : config.isEnabled (config.moduleOf e) = true := by
    rwa [Surroundings.isActive,
      Surroundings.moduleOf_of_mem hnodup he] at hactive
  have hkept : e ∈ ((d.withoutDisabled config).surroundings config).entities :=
    List.mem_filter.mpr ⟨he, henabled⟩
  rw [Surroundings.entity?_of_mem hnodup he, Surroundings.entity?_of_mem
      (hnodup.sublist slugs_withoutDisabled_sublist) hkept]

/-- An active slug is still there. -/
theorem mem_slugs_withoutDisabled (hnodup : (d.surroundings config).slugs.Nodup)
    {slug : String} (hmem : slug ∈ (d.surroundings config).slugs)
    (hactive : (d.surroundings config).isActive slug = true) :
    slug ∈ ((d.withoutDisabled config).surroundings config).slugs := by
  obtain ⟨e, he, rfl⟩ := List.mem_map.mp hmem
  rw [Surroundings.isActive, Surroundings.moduleOf_of_mem hnodup he] at hactive
  exact List.mem_map.mpr ⟨e, List.mem_filter.mpr ⟨he, hactive⟩, rfl⟩

/-- **A kept entity that passes is checked alike when the disabled ones are
gone.** -/
theorem checkEntity_withoutDisabled
    (hnodup : (d.surroundings config).slugs.Nodup) {e : Entity}
    (he : e ∈ d.kept config) {found : List ReferenceEdge × List ChildEdge}
    (h : (d.surroundings config).checkEntity e = .ok found) :
    (d.surroundings config).checkEntity e =
      ((d.withoutDisabled config).surroundings config).checkEntity e := by
  obtain ⟨edges, hedges, h⟩ := bind_eq_ok.mp h
  obtain ⟨children, hchildren, -⟩ := bind_eq_ok.mp h
  obtain ⟨edgeOf, hfields, -⟩ := Surroundings.collect_ok hedges
  obtain ⟨childOf, hrelations, -⟩ := Surroundings.collect_ok hchildren
  have hconfig : (d.surroundings config).config =
      ((d.withoutDisabled config).surroundings config).config := rfl
  refine Surroundings.checkEntity_congr hconfig ?_ ?_ ?_ ?_
  · obtain ⟨a, ha, heq, hactive⟩ := Surroundings.mem_active hnodup he
    have hslug := congrArg Entity.slug heq
    exact entity?_withoutDisabled hnodup
      (List.mem_map.mpr ⟨a, ha, hslug.symm⟩) hactive
  · intro f hf
    obtain ⟨hclear, htarget⟩ := Surroundings.checkField_uses (hfields f hf)
    refine (Field.resolve_of_subset (fun slug hslug =>
      slugs_withoutDisabled_sublist.subset hslug) ?_ hclear).symm
    intro slug explicit hr
    exact mem_slugs_withoutDisabled hnodup (Field.resolve_target_mem hr)
      (htarget slug explicit hr)
  · intro f hf slug explicit hr
    exact entity?_withoutDisabled hnodup (Field.resolve_target_mem hr)
      ((Surroundings.checkField_uses (hfields f hf)).2 slug explicit hr)
  · intro c hc hslug
    obtain ⟨hmem, hactive⟩ :=
      Surroundings.checkChild_uses (hrelations c hc) hslug
    exact entity?_withoutDisabled hnodup hmem hactive

/-- **Disabled entities can be left out of an accepted document.** What is left
is accepted under the same settings, and its graph is the same but for warnings
about entities that are gone: the entities with the internal ones, the edges and
the child edges are the same lists. -/
theorem validateWith_withoutDisabled (h : d.validateWith config = .ok g) :
    ∃ g', (d.withoutDisabled config).validateWith config = .ok g' ∧
      g'.entities = g.entities ∧ g'.edges = g.edges ∧ g'.children = g.children ∧
      g'.warnings.Sublist g.warnings := by
  have hnodup := slugs_nodup h
  obtain ⟨hslugs, edges, children, hchecked, rfl⟩ := validateWith_eq_ok_iff.mp h
  obtain ⟨found, hall, rfl, rfl⟩ :=
    Surroundings.checkEntities_eq_ok_iff.mp hchecked
  have hslugs' : checkSlugs 0 [] (d.withoutDisabled config).entities =
      .ok () := by
    obtain ⟨hdistinct, hfilled⟩ := checkSlugs_eq_ok_iff.mp hslugs
    exact checkSlugs_eq_ok_iff.mpr
      ⟨hdistinct.sublist slugs_withoutDisabled_sublist,
        fun e he => hfilled e (List.mem_of_mem_filter he)⟩
  have hall' : ∀ e ∈ d.kept config,
      ((d.withoutDisabled config).surroundings config).checkEntity e =
          .ok (found e) := by
    intro e he
    rw [← checkEntity_withoutDisabled hnodup he (hall e he)]
    exact hall e he
  refine ⟨(d.withoutDisabled config).graphOf config _ _,
    validateWith_eq_ok_iff.mpr
    ⟨hslugs', _, _, Surroundings.checkEntities_eq_ok_iff.mpr
      ⟨found, ?_, rfl, rfl⟩, rfl⟩, ?_, ?_, ?_, ?_⟩
  · rwa [kept_withoutDisabled]
  · rw [graphOf, kept_withoutDisabled]
    rfl
  · rw [graphOf, kept_withoutDisabled]
    rfl
  · rw [graphOf, kept_withoutDisabled]
    rfl
  · exact List.filter_sublist.filterMap _

end Document

/-- A depot whose archive and journal belong to modules that are switched off,
the journal because its module is not known. -/
def depotDocument : Document where
  projectName := "depot"
  modules := []
  entities := [
    { slug := "warehouse_archive", module := some "hr",
      fields := [{ name := "bin", referenceEntity := some "gone" }] },
    { slug := "warehouse_bins", module := some "Invoice",
      fields := [{ name := "move_id" }] },
    { slug := "warehouse_journal", module := some "stock" },
    { slug := "moves", module := some "invoice"
      fields := [{ name := "origin", referenceEntity := some "warehouse_" },
        { name := "carrier_id" }]
      children := [⟨"warehouse_bins", some "move_id", none⟩] }]

/-- Settings with the module `invoice` alone. -/
def depotConfig : ModuleConfig where
  enabled := ["invoice"]
  explicit := true
  activityLog := ⟨false, []⟩
  scheduledReports := ⟨true, "__reports"⟩

/-- The depot does without its archive and its journal: of three slugs with the
beginning of the declared target one is left, which is the one that was
preferred. -/
theorem depotDocument_withoutDisabled :
    ∃ g g', depotDocument.validateWith depotConfig = .ok g ∧
      (depotDocument.withoutDisabled depotConfig).entities.map (·.slug) =
        ["warehouse_bins", "moves"] ∧
      g.entities.map (·.slug) = ["warehouse_bins", "moves", "__reports"] ∧
      g.edges.map (fun r => (r.source, r.field, r.target)) =
        [("warehouse_bins", "move_id", "moves"),
          ("moves", "origin", "warehouse_bins")] ∧
      g.warnings.length = 1 ∧
        (depotDocument.withoutDisabled depotConfig).validateWith
        depotConfig = .ok g' ∧
      g'.entities = g.entities ∧ g'.edges = g.edges ∧ g'.children = g.children ∧
      g'.warnings.Sublist g.warnings := by
  have hview : ((depotDocument.validateWith depotConfig).toOption.map fun g =>
      (g.entities.map (·.slug),
      g.edges.map fun r => (r.source, r.field, r.target), g.warnings.length)) =
      some (["warehouse_bins", "moves", "__reports"],
        [("warehouse_bins", "move_id", "moves"),
            ("moves", "origin", "warehouse_bins")], 1) := by
    decide +kernel
  obtain ⟨g, haccepted, hseen⟩ := exists_eq_ok_of_seen hview
  obtain ⟨hentities, hedges, hwarnings⟩ : _ ∧ _ ∧ _ := by
    simpa only [Prod.mk.injEq] using hseen
  obtain ⟨g', hleft, hsame⟩ := Document.validateWith_withoutDisabled haccepted
  exact ⟨g, g', haccepted,
    by decide +kernel, hentities, hedges, hwarnings, hleft, hsame⟩

end ServiceLoom
