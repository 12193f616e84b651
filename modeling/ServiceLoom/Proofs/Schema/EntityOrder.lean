import ServiceLoom.Proofs.Schema.Resolution
import ServiceLoom.Proofs.Schema.Surroundings

/-!
# The order of entities

Entities may stand in any order.  What is looked for among them is found by
slug, and slugs that have passed are distinct, so every entity is checked alike
wherever it and the others stand; and what the checks find is listed entity by
entity, so a rearrangement moves it in blocks.  A document with a blank slug, or
with one slug twice, is refused in every order, though for a defect that depends
on it.

* `Surroundings.checkEntity_perm` — one entity is checked alike;
* `filter_flatMap_perm` — the block of an entity stays as it is;
* `Document.validateWith_perm` — acceptance, and the graphs of two orders.
-/

namespace ServiceLoom

namespace Surroundings

variable {s t : Surroundings}

/-- Among distinct slugs the same entity is found in any order. -/
theorem entity?_perm (hnodup : s.slugs.Nodup)
    (hperm : t.entities.Perm s.entities) (slug : String) :
    s.entity? slug = t.entity? slug := by
  have hslugs : t.slugs.Perm s.slugs := hperm.map _
  by_cases hslug : slug ∈ s.slugs
  · obtain ⟨e, he, rfl⟩ := List.mem_map.mp hslug
    rw [entity?_of_mem hnodup he,
      entity?_of_mem (hslugs.nodup_iff.mpr hnodup) (hperm.mem_iff.mpr he)]
  · have hnone : ∀ {u : Surroundings}, slug ∉ u.slugs →
        u.entity? slug = none := by
      intro u hfree
      refine List.find?_eq_none.mpr fun e he => ?_
      simpa using fun heq => hfree (List.mem_map.mpr ⟨e, he, heq⟩)
    rw [hnone hslug, hnone (hslugs.mem_iff.not.mpr hslug)]

/-- **An entity is checked alike, in whatever order the others stand.** -/
theorem checkEntity_perm (hconfig : s.config = t.config)
    (hnodup : s.slugs.Nodup) (hperm : t.entities.Perm s.entities) (e : Entity) :
    s.checkEntity e = t.checkEntity e := by
  have hslugs : ∀ slug, slug ∈ s.slugs ↔ slug ∈ t.slugs :=
    fun slug => (hperm.map (·.slug)).mem_iff.symm
  exact checkEntity_congr hconfig (entity?_perm hnodup hperm _)
    (fun f _ => Field.resolve_congr hslugs)
    (fun f _ slug _ _ => entity?_perm hnodup hperm slug)
      (fun c _ _ => entity?_perm hnodup hperm _)

/-- The same entities are kept. -/
theorem active_perm (hconfig : s.config = t.config)
    (hperm : t.entities.Perm s.entities) : s.active.Perm t.active := by
  rw [active, active, hconfig]
  exact (hperm.symm.filter _).map _

end Surroundings

/-- Entities in any order need the same internal ones. -/
theorem systemEntities_perm {entities others : List Entity}
    (hperm : entities.Perm others) (config : ModuleConfig) :
    systemEntities entities config = systemEntities others config := by
  have hany : ∀ p : Entity → Bool, entities.any p = others.any p :=
    fun p => hperm.any_eq
  unfold systemEntities wantsAuditLog
  simp only [hany]

/-- In a list made of parts with distinct labels, the items with one label do
not depend on the order of the parts. -/
theorem filter_flatMap_perm {α β κ : Type} [DecidableEq κ]
    {key : β → κ} {label : α → κ} {part : α → List β} {xs ys : List α}
    (hperm : xs.Perm ys) (hkey : ∀ a ∈ xs, ∀ b ∈ part a, key b = label a)
    (hnodup : (xs.map label).Nodup) (k : κ) :
    (xs.flatMap part).filter (fun b => key b = k) =
      (ys.flatMap part).filter (fun b => key b = k) := by
  have hkey' : ∀ a ∈ ys, ∀ b ∈ part a, key b = label a :=
    fun a ha => hkey a (hperm.mem_iff.mpr ha)
  by_cases hk : k ∈ xs.map label
  · obtain ⟨a, ha, rfl⟩ := List.mem_map.mp hk
    rw [filter_flatMap_of_nodup hkey hnodup ha, filter_flatMap_of_nodup hkey'
        ((hperm.map label).nodup_iff.mp hnodup) (hperm.mem_iff.mp ha)]
  · have hnone : ∀ zs : List α, zs.Perm xs →
        (zs.flatMap part).filter (fun b => key b = k) = [] := by
      intro zs hzs
      refine List.filter_eq_nil_iff.mpr fun b hb => ?_
      obtain ⟨a, ha, hb⟩ := List.mem_flatMap.mp hb
      have ha : a ∈ xs := hzs.mem_iff.mp ha
      simpa using fun heq : key b = k =>
        hk (List.mem_map.mpr ⟨a, ha, (hkey a ha b hb).symm.trans heq⟩)
    rw [hnone xs (.refl _), hnone ys hperm.symm]

/-- How the graphs of two orders of the same entities compare.  `kept` and
`kept'` are the entities of the modules that are switched on, in the one order
and in the other, and `internal` those that were added. -/
structure SchemaGraph.Rearranged (g g' : SchemaGraph)
    (kept kept' internal : List Entity) : Prop where
  entities_eq : g.entities = kept ++ internal
  entities_eq' : g'.entities = kept' ++ internal
  kept_perm : kept.Perm kept'
  edges_perm : g.edges.Perm g'.edges
  /-- The references of one entity stand in one order. -/
  edgesFrom_eq : ∀ slug, g.edgesFrom slug = g'.edgesFrom slug
  children_perm : g.children.Perm g'.children
  /-- So do its child relations. -/
  childrenOf_eq : ∀ slug, g.childrenOf slug = g'.childrenOf slug
  warnings_perm : g.warnings.Perm g'.warnings

namespace Document

variable {d d' : Document} {config : ModuleConfig}

/-- A document is accepted in any order in which one of the orders is, and the
graphs are rearranged. -/
theorem exists_rearranged (hperm : d'.entities.Perm d.entities)
    {g : SchemaGraph} (h : d.validateWith config = .ok g) :
    ∃ g', d'.validateWith config = .ok g' ∧
      g.Rearranged g' (d.kept config) (d'.kept config)
        (systemEntities (d.kept config) config) := by
  have hconfig : (d.surroundings config).config =
      (d'.surroundings config).config := rfl
  have hkept : (d.kept config).Perm (d'.kept config) :=
    Surroundings.active_perm hconfig hperm
  have hnodup := slugs_nodup h
  have hkeptNodup := kept_nodup h
  obtain ⟨hslugs, edges, children, hchecked, rfl⟩ := validateWith_eq_ok_iff.mp h
  obtain ⟨found, hall, rfl, rfl⟩ :=
    Surroundings.checkEntities_eq_ok_iff.mp hchecked
  have hslugs' : checkSlugs 0 [] d'.entities = .ok () := by
    obtain ⟨hdistinct, hfilled⟩ := checkSlugs_eq_ok_iff.mp hslugs
    exact checkSlugs_eq_ok_iff.mpr
      ⟨(hperm.map _).nodup_iff.mpr hdistinct, fun e he =>
        hfilled e (hperm.mem_iff.mp he)⟩
  have hall' : ∀ e ∈ d'.kept config, (d'.surroundings config).checkEntity e =
      .ok (found e) := by
    intro e he
    rw [← Surroundings.checkEntity_perm hconfig hnodup hperm e]
    exact hall e (hkept.mem_iff.mpr he)
  have hsource : ∀ e ∈ d.kept config, ∀ r ∈ (found e).1, r.source = e.slug := by
    intro e he r hr
    rw [(Surroundings.checkEntity_ok (hall e he)).1] at hr
    obtain ⟨f, -, hf⟩ := List.mem_filterMap.mp hr
    exact (Field.edge?_ends hf).1
  have hparent : ∀ e ∈ d.kept config, ∀ c ∈ (found e).2, c.parent = e.slug :=
    fun e he c hc => ((Surroundings.checkEntity_ok (hall e he)).2.2 c hc).1
  refine ⟨_, validateWith_eq_ok_iff.mpr
    ⟨hslugs', _, _, Surroundings.checkEntities_eq_ok_iff.mpr
      ⟨found, hall', rfl, rfl⟩, rfl⟩, ?_⟩
  exact {
    entities_eq := rfl
    entities_eq' := by rw [systemEntities_perm hkept]; rfl
    kept_perm := hkept
    edges_perm := hkept.flatMap_right _
    edgesFrom_eq := filter_flatMap_perm hkept hsource hkeptNodup
    children_perm := hkept.flatMap_right _
    childrenOf_eq := filter_flatMap_perm hkept hparent hkeptNodup
    warnings_perm := hperm.symm.filterMap _ }

/-- **Validation does not depend on the order of entities.** Two documents with
the same entities, in whatever orders, are both accepted or both refused; and if
they are accepted, their graphs have the same internal entities, and all else up
to rearrangement, with what belongs to one entity in one order. -/
theorem validateWith_perm (hperm : d'.entities.Perm d.entities)
    (config : ModuleConfig) :
    ((∃ g, d.validateWith config = .ok g) ↔
      ∃ g', d'.validateWith config = .ok g') ∧
      ∀ g g', d.validateWith config = .ok g → d'.validateWith config = .ok g' →
        g.Rearranged g' (d.kept config) (d'.kept config)
          (systemEntities (d.kept config) config) := by
  refine ⟨⟨?_, ?_⟩, ?_⟩
  · rintro ⟨g, h⟩
    obtain ⟨g', h', -⟩ := exists_rearranged hperm h
    exact ⟨g', h'⟩
  · rintro ⟨g', h'⟩
    obtain ⟨g, h, -⟩ := exists_rearranged hperm.symm h'
    exact ⟨g, h⟩
  · intro g g' h h'
    obtain ⟨found, hfound, hrearranged⟩ := exists_rearranged hperm h
    obtain rfl := Except.ok.inj (h'.symm.trans hfound)
    exact hrearranged

end Document

/-- The shop, its entities from the last to the first: a child before its
parent, and targets after the fields that point to them. -/
def shopReversed : Document :=
  { shopDocument with entities := shopDocument.entities.reverse }

/-- The reversed shop is accepted, and its edges have changed places. -/
theorem shopReversed_rearranged :
    ∃ g g', shopDocument.validateWith shopConfig = .ok g ∧
      shopReversed.validateWith shopConfig = .ok g' ∧
      g'.entities.map (·.slug) = ["invoice_items",
        "invoices", "products", "categories", "__audit_logs"] ∧
      g'.edges.map (fun r => (r.source, r.field)) =
        [("invoice_items", "invoice_id"), ("products", "category_id"),
          ("products", "product_ids")] ∧
      g.Rearranged g' (shopDocument.kept shopConfig)
        (shopReversed.kept shopConfig)
        (systemEntities (shopDocument.kept shopConfig) shopConfig) :=
  ⟨_, _, rfl, rfl, rfl, rfl,
    (Document.validateWith_perm (List.reverse_perm _) shopConfig).2 _ _ rfl rfl⟩

end ServiceLoom
