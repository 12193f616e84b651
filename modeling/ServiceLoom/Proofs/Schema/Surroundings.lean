import ServiceLoom.Proofs.Schema.Validation

/-!
# Checks in other surroundings

The check of an entity looks at little of a document: at the places where its
fields point, and at the entities with its own slug, those slugs and the slugs
of its children.  In surroundings that agree on this much it has the same
result, whether it succeeds or not (`checkEntity_congr`).  So a document is
accepted for what its entities are, one by one, and its graph is made of what
the check has found at each (`validateWith_eq_ok_iff`).
-/

namespace ServiceLoom

/-- Slugs that are filled and distinct pass. -/
theorem checkSlugs_eq_ok {index : Nat} {earlier : List String}
    {entities : List Entity} (hnodup : (entities.map (·.slug)).Nodup)
    (hnew : ∀ e ∈ entities, e.slug ∉ earlier ∧ Text.isBlank e.slug = false) :
    checkSlugs index earlier entities = .ok () := by
  induction entities generalizing index earlier with
  | nil => rfl
  | cons first rest ih =>
      obtain ⟨hfirst, hrest⟩ := List.nodup_cons.mp hnodup
      obtain ⟨hfree, hfilled⟩ := hnew first List.mem_cons_self
      rw [checkSlugs, if_neg (by simp [hfilled]), if_neg (by simpa using hfree)]
      refine ih hrest fun e he => ?_
      obtain ⟨hfree, hfilled⟩ := hnew e (List.mem_cons_of_mem _ he)
      refine ⟨fun hmem => ?_, hfilled⟩
      rcases List.mem_cons.mp hmem with heq | hmem
      · exact hfirst (List.mem_map.mpr ⟨e, he, heq⟩)
      · exact hfree hmem

/-- **Slugs pass exactly when they are distinct and none of them is blank.** -/
theorem checkSlugs_eq_ok_iff {entities : List Entity} :
    checkSlugs 0 [] entities = .ok () ↔
      (entities.map (·.slug)).Nodup ∧
        ∀ e ∈ entities, Text.isBlank e.slug = false := by
  constructor
  · intro h
    obtain ⟨hnodup, hfilled⟩ := checkSlugs_ok h
    exact ⟨hnodup, fun e he => (hfilled e he).2⟩
  · rintro ⟨hnodup, hfilled⟩
    exact checkSlugs_eq_ok hnodup fun e he => ⟨List.not_mem_nil, hfilled e he⟩

namespace Surroundings

variable {s t : Surroundings}

/-- An entity that is found alike has the same module. -/
theorem moduleOf_congr (hconfig : s.config = t.config) {slug : String}
    (hentity : s.entity? slug = t.entity? slug) :
    s.moduleOf slug = t.moduleOf slug := by
  rw [moduleOf, moduleOf, hentity, hconfig]

/-- A field is checked alike where it points to the same place and both ends
have their modules. -/
theorem checkField_congr (hconfig : s.config = t.config)
    {source : String} (hsource : s.moduleOf source = t.moduleOf source)
    {f : Field} (hresolve : f.resolve s.slugs = f.resolve t.slugs)
    (htarget : ∀ slug explicit, f.resolve s.slugs = .target slug explicit →
      s.moduleOf slug = t.moduleOf slug) :
    s.checkField source f = t.checkField source f := by
  unfold checkField
  rw [← hresolve, ← hconfig, ← hsource]
  cases hr : f.resolve s.slugs with
  | target slug explicit =>
      dsimp only
      rw [htarget slug explicit hr]
  | _ => rfl

/-- A child relation is checked alike where its child is found alike. -/
theorem checkChild_congr (hconfig : s.config = t.config) {parent : String}
    (hparent : s.moduleOf parent = t.moduleOf parent) {c : ChildRelation}
    (hchild : Text.trim c.entity ≠ "" → s.entity? (Text.trim c.entity) =
      t.entity? (Text.trim c.entity)) :
    s.checkChild parent c = t.checkChild parent c := by
  unfold checkChild
  dsimp only
  split
  · rfl
  next hslug =>
    have hmodule := moduleOf_congr hconfig (hchild hslug)
    rw [isActive, isActive, ← hmodule, ← hparent, ← hconfig, ← hchild hslug]

/-- Checks that agree on the items of a list agree on the list. -/
theorem collect_congr {α β : Type} {check other : α → Except Defect (Option β)}
    {xs : List α} (h : ∀ x ∈ xs, check x = other x) :
    collect check xs = collect other xs := by
  induction xs with
  | nil => rfl
  | cons x rest ih =>
      rw [collect, collect, h x List.mem_cons_self,
        ih fun y hy => h y (List.mem_cons_of_mem _ hy)]

/-- **An entity is checked alike in surroundings that agree on what it looks
at.** -/
theorem checkEntity_congr (hconfig : s.config = t.config) {e : Entity}
    (hself : s.entity? e.slug = t.entity? e.slug)
    (hresolve : ∀ f ∈ e.fields, f.resolve s.slugs = f.resolve t.slugs)
    (htarget : ∀ f ∈ e.fields, ∀ slug explicit, f.resolve s.slugs =
      .target slug explicit → s.entity? slug = t.entity? slug)
    (hchild : ∀ c ∈ e.children, Text.trim c.entity ≠ "" →
      s.entity? (Text.trim c.entity) = t.entity? (Text.trim c.entity)) :
    s.checkEntity e = t.checkEntity e := by
  have hmodule := moduleOf_congr hconfig hself
  have hfields : collect (s.checkField e.slug) e.fields =
      collect (t.checkField e.slug) e.fields :=
    collect_congr fun f hf => checkField_congr hconfig hmodule (hresolve f hf)
      fun slug explicit hr =>
        moduleOf_congr hconfig (htarget f hf slug explicit hr)
  have hchildren : collect (s.checkChild e.slug) e.children =
      collect (t.checkChild e.slug) e.children :=
    collect_congr fun c hc => checkChild_congr hconfig hmodule (hchild c hc)
  rw [checkEntity, checkEntity, hfields, hchildren]

/-- **Entities pass one by one**, and what is found in all of them is what is
found in each, in order. -/
theorem checkEntities_eq_ok_iff {entities : List Entity}
    {edges : List ReferenceEdge} {children : List ChildEdge} :
    s.checkEntities entities = .ok (edges, children) ↔
      ∃ found : Entity → List ReferenceEdge × List ChildEdge,
        (∀ e ∈ entities, s.checkEntity e = .ok (found e)) ∧
          edges = entities.flatMap (fun e => (found e).1) ∧
          children = entities.flatMap (fun e => (found e).2) := by
  constructor
  · intro h
    obtain ⟨found, hfound⟩ : ∃ found : Entity →
        List ReferenceEdge × List ChildEdge,
        ∀ e r, s.checkEntity e = .ok r → found e = r :=
      ⟨fun e => (s.checkEntity e).toOption.getD ([], []),
        fun e r he => by simp [he, Except.toOption]⟩
    refine ⟨found, ?_⟩
    induction entities generalizing edges children with
    | nil =>
        cases h
        simp
    | cons e rest ih =>
        obtain ⟨⟨firstEdges, firstChildren⟩, hfirst, h⟩ := bind_eq_ok.mp h
        obtain ⟨⟨moreEdges, moreChildren⟩, hrest, h⟩ := bind_eq_ok.mp h
        cases h
        obtain ⟨hall, hedges, hchildren⟩ := ih hrest
        have he := hfound e _ hfirst
        refine ⟨List.forall_mem_cons.mpr
          ⟨hfirst.trans (congrArg _ he.symm), hall⟩, ?_, ?_⟩
        · rw [List.flatMap_cons, he, hedges]
        · rw [List.flatMap_cons, he, hchildren]
  · rintro ⟨found, hall, rfl, rfl⟩
    induction entities with
    | nil => rfl
    | cons e rest ih =>
        obtain ⟨hfirst, hrest⟩ := List.forall_mem_cons.mp hall
        rw [checkEntities, hfirst, ih hrest]
        rfl

end Surroundings

namespace Document

variable {d : Document} {config : ModuleConfig}

/-- The graph of a document, given what its checks have found. -/
def graphOf (d : Document) (config : ModuleConfig) (edges : List ReferenceEdge)
    (children : List ChildEdge) : SchemaGraph where
  projectName := d.projectName
  modules := config
  entities := d.kept config ++ systemEntities (d.kept config) config
  edges
  children
  warnings := d.entities.filterMap fun e => (config.assign e).2

/-- **What an accepted document is**: its slugs pass, so does every kept entity,
and its graph is made of what was found in them. -/
theorem validateWith_eq_ok_iff {g : SchemaGraph} :
    d.validateWith config = .ok g ↔ checkSlugs 0 [] d.entities = .ok () ∧
      ∃ edges children, (d.surroundings config).checkEntities (d.kept config) =
        .ok (edges, children) ∧
        g = d.graphOf config edges children := by
  constructor
  · intro h
    obtain ⟨_, hslugs, h⟩ := bind_eq_ok.mp h
    obtain ⟨⟨edges, children⟩, hchecked, h⟩ := bind_eq_ok.mp h
    exact ⟨hslugs, edges, children, hchecked, (Except.ok.inj h).symm⟩
  · rintro ⟨hslugs, edges, children, hchecked, rfl⟩
    exact bind_eq_ok.mpr
      ⟨(), hslugs, bind_eq_ok.mpr ⟨(edges, children), hchecked, rfl⟩⟩

end Document

end ServiceLoom
