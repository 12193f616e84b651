import ServiceLoom.Proofs.Schema.Validation

/-!
# Modules along paths

References and child relations are checked one by one, each against the module
of its own target.  A boundary between modules is worth something only if it
cannot be walked around in several hops.  It cannot: a single hop stays in its
module or enters the shared one (`leads_stays_or_shares`), the shared module has
no way out, and so a path of any length is a stretch inside one module and then,
perhaps, a stretch of shared entities (`path_isolated`).
-/

namespace ServiceLoom

namespace SchemaGraph

/-- One hop: from the source of a reference to its target, or from a parent to a
child that it manages. -/
def Leads (g : SchemaGraph) (a b : String) : Prop :=
  (∃ r ∈ g.edges, r.source = a ∧ r.target = b) ∨
    ∃ c ∈ g.children, c.parent = a ∧ c.child = b

/-- The lists of slugs that a walk through the graph visits.  It starts at any
entity, and each hop leads from the slug it leaves to the next one. -/
inductive Path (g : SchemaGraph) : List String → Prop where
  | start {e : Entity} (he : e ∈ g.entities) : Path g [e.slug]
  | hop {a b : String} {rest : List String} (hlead : g.Leads a b)
      (hpath : Path g (b :: rest)) :
      Path g (a :: b :: rest)

end SchemaGraph

/-- The shared module is the place of every internal entity. -/
theorem module_of_mem_systemEntities
    {entities : List Entity} {config : ModuleConfig} {a : Entity}
    (ha : a ∈ systemEntities entities config) :
    a.module = some sharedModule := by
  rcases List.mem_append.mp ha with ha | ha
  · split at ha
    · obtain rfl := List.mem_singleton.mp ha
      rfl
    · cases ha
  · split at ha
    · obtain rfl := List.mem_singleton.mp ha
      rfl
    · cases ha

namespace Document

variable {d : Document} {config : ModuleConfig} {g : SchemaGraph}

/-- The module of a kept entity is the one that the graph gives for its slug. -/
theorem moduleOf?_of_kept (h : d.validateWith config = .ok g) {e : Entity}
    (he : e ∈ d.kept config) : g.moduleOf? e.slug = e.module := by
  rw [SchemaGraph.moduleOf?, entity?_of_kept h he]
  rfl

/-- Every entity of the graph of an accepted document belongs to a module. -/
theorem exists_module (h : d.validateWith config = .ok g) {e : Entity}
    (he : e ∈ g.entities) : ∃ m, e.module = some m := by
  rw [(validateWith_ok h).2.2] at he
  rcases List.mem_append.mp he with he | he
  · obtain ⟨_, -, heq, -⟩ := Surroundings.mem_active (slugs_nodup h) he
    exact ⟨_, congrArg Entity.module heq⟩
  · exact ⟨_, module_of_mem_systemEntities he⟩

/-- So does every slug of an entity. -/
theorem exists_moduleOf? (h : d.validateWith config = .ok g) {e : Entity}
    (he : e ∈ g.entities) : ∃ m, g.moduleOf? e.slug = some m := by
  obtain ⟨found, hfound⟩ : ∃ found, g.entity? e.slug = some found :=
    Option.isSome_iff_exists.mp (List.find?_isSome.mpr ⟨e, he, by simp⟩)
  obtain ⟨m, hm⟩ := exists_module h (List.mem_of_find?_eq_some hfound)
  exact ⟨m, by rw [SchemaGraph.moduleOf?, hfound]; exact hm⟩

/-- A hop leads from a kept entity to one that it may use, whether it follows a
reference or a child relation. -/
theorem leads_mayUse (h : d.validateWith config = .ok g) {a b : String}
    (hlead : g.Leads a b) :
    ∃ x ∈ d.kept config, ∃ y ∈ d.kept config, x.slug = a ∧
      y.slug = b ∧ x.MayUse y := by
  rcases hlead with ⟨r, hr, rfl, rfl⟩ | ⟨c, hc, rfl, rfl⟩
  · obtain ⟨x, hx, hsource⟩ := exists_source h hr
    obtain ⟨y, hy, htarget⟩ := exists_target h hr
    exact ⟨x, hx, y, hy, hsource, htarget, edge_mayUse h hr hx hy hsource htarget⟩
  · obtain ⟨x, hx, hparent⟩ := exists_parent h hc
    obtain ⟨y, hy, hchild, -⟩ := exists_child h hc
    exact ⟨x, hx, y, hy, hparent, hchild, child_mayUse h hc hx hy hparent hchild⟩

/-- **A hop stays in its module or enters the shared one.** -/
theorem leads_stays_or_shares (h : d.validateWith config = .ok g) {a b : String}
    (hlead : g.Leads a b) :
    ∃ m, g.moduleOf? a = some m ∧
      (g.moduleOf? b = some m ∨ g.moduleOf? b = some sharedModule) := by
  obtain ⟨x, hx, y, hy, rfl, rfl, hmay⟩ := leads_mayUse h hlead
  obtain ⟨m, hm⟩ :=
    exists_moduleOf? h ((validateWith_ok h).2.2 ▸ List.mem_append_left _ hx)
  refine ⟨m, hm, ?_⟩
  rw [moduleOf?_of_kept h hx] at hm
  rw [moduleOf?_of_kept h hy]
  rcases hmay with hsame | ⟨hshared, -⟩
  · exact .inl (hsame ▸ hm)
  · exact .inr hshared

/-- The modules along a path, read from its end: before a stretch of one module
stands the same module once more, or, if the stretch is shared, any module. -/
theorem modules_along_path (h : d.validateWith config = .ok g)
    {slugs : List String} (hpath : g.Path slugs) :
    ∃ m own shared, slugs.map g.moduleOf? =
      some m :: (List.replicate own (some m) ++
        List.replicate shared (some sharedModule)) := by
  induction hpath with
  | start he =>
      obtain ⟨m, hm⟩ := exists_moduleOf? h he
      exact ⟨m, 0, 0, by simp [hm]⟩
  | @hop a b rest hlead _ ih =>
      obtain ⟨m, hm, hnext⟩ := leads_stays_or_shares h hlead
      obtain ⟨first, own, shared, hmodules⟩ := ih
      have hfirst : g.moduleOf? b = some first := (List.cons.inj hmodules).1
      rcases hnext with hsame | hshared
      · obtain rfl : first = m := Option.some.inj (hfirst.symm.trans hsame)
        exact ⟨first, own + 1, shared, by rw [List.map_cons, hmodules, hm]; rfl⟩
      · obtain rfl : first = sharedModule :=
          Option.some.inj (hfirst.symm.trans hshared)
        refine ⟨m, 0, 1 + own + shared, ?_⟩
        rw [List.map_cons, hmodules, hm, Nat.add_assoc,
          List.replicate_add, List.replicate_add]
        rfl

/-- **Paths do not cross modules.** Along any path through the graph of an
accepted document the modules are that of the first entity for a while and
`shared` from then on.  So a later entity of a path is in the module of an
earlier one or shared, and nothing leads out of `shared`. -/
theorem path_isolated (h : d.validateWith config = .ok g) {slugs : List String}
    (hpath : g.Path slugs) :
    (∃ m own shared, slugs.map g.moduleOf? =
      List.replicate (own + 1) (some m) ++
        List.replicate shared (some sharedModule)) ∧
    slugs.Pairwise fun a b => g.moduleOf? b = g.moduleOf? a ∨
    g.moduleOf? b = some sharedModule := by
  obtain ⟨m, own, shared, hmodules⟩ := modules_along_path h hpath
  refine ⟨⟨m, own, shared, hmodules⟩, ?_⟩
  have hpairs : (slugs.map g.moduleOf?).Pairwise fun x y => y = x ∨
      y = some sharedModule := by
    rw [hmodules, ← List.cons_append, ← List.replicate_succ,
      List.pairwise_append]
    refine ⟨List.pairwise_replicate.mpr (.inr (.inl rfl)),
      List.pairwise_replicate.mpr (.inr (.inl rfl)), ?_⟩
    intro x _ y hy
    exact .inr (List.eq_of_mem_replicate hy)
  exact List.pairwise_map.mp hpairs

/-- Orders manage their lines, a line refers to a shared product, and that to a
shared unit. -/
def lineDocument : Document where
  projectName := "orders"
  modules := []
  entities := [
    { slug := "orders", module := some "invoice"
      children := [⟨"lines", some "order_id", none⟩] },
    { slug := "lines", module := some "invoice"
      fields := [{ name := "order_id" }, { name := "product_id" }] },
    { slug := "products", module := some "shared",
      fields := [{ name := "unit_id" }] },
    { slug := "units", module := some "shared" }]

/-- Settings with modules. -/
def lineConfig : ModuleConfig where
  enabled := ["inventory", "invoice"]
  explicit := true
  activityLog := ⟨false, []⟩
  scheduledReports := ⟨false, defaultReportsSlug⟩

/-- From orders a path goes over a child relation and two references, and leaves
the module once. -/
theorem lineDocument_path_isolated :
    ∃ g, lineDocument.validateWith lineConfig = .ok g ∧
      g.Path ["orders", "lines", "products", "units"] ∧
      ["orders", "lines", "products", "units"].map g.moduleOf? =
        [some "invoice", some "invoice", some "shared", some "shared"] ∧
      (∃ m own shared, ["orders", "lines", "products", "units"].map g.moduleOf? =
        List.replicate (own + 1) (some m) ++
          List.replicate shared (some sharedModule)) ∧
      ["orders", "lines", "products", "units"].Pairwise fun a b =>
        g.moduleOf? b = g.moduleOf? a ∨ g.moduleOf? b = some sharedModule := by
  obtain ⟨g, hg, hslugs, hmodules, hedges, hchildren⟩ :
      ∃ g, lineDocument.validateWith lineConfig = .ok g ∧
      g.entities.map (·.slug) = ["orders", "lines", "products", "units"] ∧
      ["orders", "lines", "products", "units"].map g.moduleOf? =
        [some "invoice", some "invoice", some "shared", some "shared"] ∧
      g.edges.map (fun r => (r.source, r.target)) =
        [("lines", "orders"), ("lines", "products"), ("products", "units")] ∧
      g.children.map (fun c => (c.parent, c.child)) = [("orders", "lines")] :=
    ⟨_, rfl, rfl, rfl, rfl, rfl⟩
  have hrefers : ∀ a b, (a, b) ∈ g.edges.map (fun r => (r.source, r.target)) →
      g.Leads a b := by
    rintro a b hmem
    obtain ⟨r, hr, heq⟩ := List.mem_map.mp hmem
    exact .inl ⟨r, hr, congrArg Prod.fst heq, congrArg Prod.snd heq⟩
  have hmanages : ∀ a b,
      (a, b) ∈ g.children.map (fun c => (c.parent, c.child)) → g.Leads a b := by
    rintro a b hmem
    obtain ⟨c, hc, heq⟩ := List.mem_map.mp hmem
    exact .inr ⟨c, hc, congrArg Prod.fst heq, congrArg Prod.snd heq⟩
  have hend : g.Path ["units"] := by
    have hmem : "units" ∈ g.entities.map (·.slug) := by rw [hslugs]; decide
    obtain ⟨e, he, hslug⟩ := List.mem_map.mp hmem
    exact hslug ▸ .start he
  have hpath : g.Path ["orders", "lines", "products", "units"] :=
    .hop (hmanages _ _ (by rw [hchildren]; decide)) <|
      .hop (hrefers _ _ (by rw [hedges]; decide)) <|
        .hop (hrefers _ _ (by rw [hedges]; decide)) hend
  exact ⟨g, hg, hpath, hmodules, path_isolated hg hpath⟩

end Document

end ServiceLoom
