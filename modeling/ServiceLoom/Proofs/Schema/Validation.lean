import ServiceLoom.Proofs.Schema.Reference
import ServiceLoom.Schema.Validation
import Mathlib.Data.List.Nodup

/-!
# The graph of an accepted document

A document that passes every check has a graph that lies over it exactly: the
entities of the modules that are switched on in document order, one edge for
each of their fields that resolves among the slugs of all entities, and child
edges whose foreign keys exist.  Resolution looks at every entity, membership
only at those that are kept, so what ties the two together is that slugs are
distinct: the entity at which a target was found is the one whose module was
checked.

* `checkSlugs_ok` — slugs that pass are distinct and none of them is blank;
* `checkField_ok`, `checkChild_ok` — what one successful check of a field or
  child relation says;
* `checkEntities_ok` — the same for all entities, by induction on the list;
* `validateWith_liesOver` — the shape of the whole graph.
-/

namespace ServiceLoom

/-- Two checks one after the other succeed when both do. -/
theorem bind_eq_ok {ε α β : Type} {x : Except ε α}
    {f : α → Except ε β} {b : β} :
    (x >>= f) = .ok b ↔ ∃ a, x = .ok a ∧ f a = .ok b := by
  cases x with
  | error e => simp [bind, Except.bind]
  | ok a => simp [bind, Except.bind]

/-- What is seen of a result is there to be seen only if there is one. -/
theorem exists_eq_ok_of_seen {ε α β : Type} {x : Except ε α} {f : α → β} {b : β}
    (h : x.toOption.map f = some b) : ∃ a, x = .ok a ∧ f a = b := by
  cases x with
  | error e => cases h
  | ok a => exact ⟨a, rfl, Option.some.inj h⟩

/-- Slugs that pass are distinct from each other and from the earlier ones, and
none is blank. -/
theorem checkSlugs_ok {index : Nat} {earlier : List String}
    {entities : List Entity} (h : checkSlugs index earlier entities = .ok ()) :
    (entities.map (·.slug)).Nodup ∧
      ∀ e ∈ entities, e.slug ∉ earlier ∧ Text.isBlank e.slug = false := by
  induction entities generalizing index earlier with
  | nil => exact ⟨List.nodup_nil, by simp⟩
  | cons first rest ih =>
      unfold checkSlugs at h
      split at h
      · cases h
      next hblank =>
        split at h
        · cases h
        next hearlier =>
          obtain ⟨hnodup, hrest⟩ := ih h
          have hfirst : first.slug ∉ earlier := by simpa using hearlier
          constructor
          · refine List.nodup_cons.mpr ⟨?_, hnodup⟩
            intro hm
            obtain ⟨e, he, hslug⟩ := List.mem_map.mp hm
            exact (hrest e he).1 (hslug ▸ List.mem_cons_self)
          · intro e he
            rcases List.mem_cons.mp he with rfl | he
            · exact ⟨hfirst, by simpa using hblank⟩
            · exact ⟨fun hm => (hrest e he).1 (List.mem_cons_of_mem _ hm),
                (hrest e he).2⟩

/-- Among entities with distinct slugs, the one with a slug is found by it. -/
theorem find?_slug_of_nodup {entities : List Entity}
    (hnodup : (entities.map (·.slug)).Nodup) {e : Entity} (he : e ∈ entities) :
    entities.find? (·.slug = e.slug) = some e := by
  cases hfind : entities.find? (·.slug = e.slug) with
  | none =>
      have := List.find?_eq_none.mp hfind e he
      simp at this
  | some found =>
      have hfound : found ∈ entities := List.mem_of_find?_eq_some hfind
      have hslug : found.slug = e.slug := by simpa using List.find?_some hfind
      rw [List.inj_on_of_nodup_map hnodup hfound he hslug]

/-- A successful check of a boundary is a permission. -/
theorem checkBoundary_ok {source sourceModule target targetModule via : String}
    (h : checkBoundary source sourceModule target targetModule via = .ok ()) :
    mayReach sourceModule targetModule = true := by
  unfold checkBoundary at h
  split at h
  · assumption
  · cases h

namespace Surroundings

variable {s : Surroundings}

/-- A field that passes yields its edge, and the target of an edge is active and
within reach. -/
theorem checkField_ok {source : String} {f : Field}
    {found : Option ReferenceEdge} (h : s.checkField source f = .ok found) :
    found = f.edge? s.slugs source ∧
      ∀ e, found = some e →
        s.isActive e.target = true ∧
          mayReach (s.moduleOf source) (s.moduleOf e.target) = true := by
  unfold checkField at h
  unfold Field.edge?
  split at h
  next hr => cases h; simp [hr]
  · cases h
  next base hr =>
    split at h
    · cases h
    · cases h; simp [hr]
  next slug explicit hr =>
    dsimp only at h
    split at h
    · cases h
    next hactive =>
      obtain ⟨_, hboundary, h⟩ := bind_eq_ok.mp h
      cases h
      refine ⟨by simp [hr], ?_⟩
      intro e he
      obtain rfl := Option.some.inj he
      exact ⟨by simpa [isActive] using hactive, checkBoundary_ok hboundary⟩

/-- A child relation that yields an edge names an active entity within reach
that has the foreign key. -/
theorem checkChild_ok {parent : String} {relation : ChildRelation}
    {c : ChildEdge} (h : s.checkChild parent relation = .ok (some c)) :
    c.parent = parent ∧
      (∃ child, s.entity? c.child = some child ∧
        child.hasField c.foreignKey = true) ∧
      s.isActive c.child = true ∧
        mayReach (s.moduleOf parent) (s.moduleOf c.child) = true := by
  unfold checkChild at h
  dsimp only at h
  split at h
  · cases h
  · split at h
    · cases h
    next child hchild =>
      split at h
      · cases h
      next hactive =>
        split at h
        · cases h
        next key hkey =>
          split at h
          · cases h
          next hfield =>
            obtain ⟨_, hboundary, h⟩ := bind_eq_ok.mp h
            cases h
            exact ⟨rfl, ⟨child, hchild, by simpa using hfield⟩,
              by simpa using hactive,
              checkBoundary_ok hboundary⟩

section Collect

variable {α β : Type} {check : α → Except Defect (Option β)}

/-- A check of a list that succeeds has succeeded on every item, and lists what
it found in order. -/
theorem collect_ok {xs : List α} {ys : List β} (h : collect check xs = .ok ys) :
    ∃ found : α → Option β, (∀ x ∈ xs, check x = .ok (found x)) ∧
      ys = xs.filterMap found := by
  refine ⟨fun x => (check x).toOption.join, ?_⟩
  induction xs generalizing ys with
  | nil =>
      cases h
      exact ⟨by simp, rfl⟩
  | cons x rest ih =>
      obtain ⟨found, hx, h⟩ := bind_eq_ok.mp h
      obtain ⟨more, hrest, h⟩ := bind_eq_ok.mp h
      obtain ⟨hall, hmore⟩ := ih hrest
      cases h
      have hfirst : (check x).toOption.join = found := by
        simp [hx, Except.toOption]
      constructor
      · intro y hy
        rcases List.mem_cons.mp hy with rfl | hy
        · exact hx.trans (congrArg _ hfirst.symm)
        · exact hall y hy
      · rw [List.filterMap_cons, hfirst, hmore]
        cases found with
        | none => rfl
        | some b => rfl

/-- What a successful check lists was found at some item. -/
theorem exists_of_mem_collect {xs : List α} {ys : List β}
    (h : collect check xs = .ok ys) {y : β} (hy : y ∈ ys) :
    ∃ x ∈ xs, check x = .ok (some y) := by
  obtain ⟨found, hall, rfl⟩ := collect_ok h
  obtain ⟨x, hx, hfound⟩ := List.mem_filterMap.mp hy
  exact ⟨x, hx, hfound ▸ hall x hx⟩

end Collect

/-- A target that an edge was allowed to have, seen from its source. -/
def Reaches (s : Surroundings) (source target : String) : Prop :=
  s.isActive target = true ∧
    mayReach (s.moduleOf source) (s.moduleOf target) = true

/-- What has been checked of a child edge. -/
def Manages (s : Surroundings) (c : ChildEdge) : Prop :=
  s.Reaches c.parent c.child ∧
    ∃ child, s.entity? c.child = some child ∧ child.hasField c.foreignKey = true

/-- The edges of an entity that passes are those of its fields, and its child
edges are in order. -/
theorem checkEntity_ok {e : Entity} {edges : List ReferenceEdge}
    {children : List ChildEdge} (h : s.checkEntity e = .ok (edges, children)) :
    edges = e.fields.filterMap (·.edge? s.slugs e.slug) ∧
      (∀ r ∈ edges, s.Reaches r.source r.target) ∧
      ∀ c ∈ children, c.parent = e.slug ∧ s.Manages c := by
  obtain ⟨edges, hedges, h⟩ := bind_eq_ok.mp h
  obtain ⟨children, hchildren, h⟩ := bind_eq_ok.mp h
  cases h
  refine ⟨?_, ?_, ?_⟩
  · obtain ⟨found, hall, rfl⟩ := collect_ok hedges
    apply List.filterMap_congr
    intro f hf
    exact (checkField_ok (hall f hf)).1
  · intro r hr
    obtain ⟨f, -, hcheck⟩ := exists_of_mem_collect hedges hr
    obtain ⟨hedge, hreach⟩ := checkField_ok hcheck
    have hsource : r.source = e.slug := (Field.edge?_ends hedge.symm).1
    rw [Reaches, hsource]
    exact hreach r rfl
  · intro c hc
    obtain ⟨relation, -, hcheck⟩ := exists_of_mem_collect hchildren hc
    obtain ⟨hparent, hchild, hactive, hreach⟩ := checkChild_ok hcheck
    refine ⟨hparent, ⟨hactive, ?_⟩, hchild⟩
    rw [hparent]
    exact hreach

/-- The edges of entities that pass, entity by entity. -/
theorem checkEntities_ok {entities : List Entity}
    {edges : List ReferenceEdge} {children : List ChildEdge}
    (h : s.checkEntities entities = .ok (edges, children)) :
    edges = entities.flatMap
      (fun e => e.fields.filterMap (·.edge? s.slugs e.slug)) ∧
      (∀ r ∈ edges, s.Reaches r.source r.target) ∧
      ∀ c ∈ children, (∃ e ∈ entities, c.parent = e.slug) ∧ s.Manages c := by
  induction entities generalizing edges children with
  | nil =>
      cases h
      simp
  | cons e rest ih =>
      obtain ⟨⟨firstEdges, firstChildren⟩, hfirst, h⟩ := bind_eq_ok.mp h
      obtain ⟨⟨moreEdges, moreChildren⟩, hrest, h⟩ := bind_eq_ok.mp h
      cases h
      obtain ⟨hedges, hreach, hmanage⟩ := checkEntity_ok hfirst
      obtain ⟨hmoreEdges, hmoreReach, hmoreManage⟩ := ih hrest
      refine ⟨by rw [List.flatMap_cons, hedges, hmoreEdges], ?_, ?_⟩
      · intro r hr
        exact (List.mem_append.mp hr).elim (hreach r) (hmoreReach r)
      · intro c hc
        rcases List.mem_append.mp hc with hc | hc
        · exact ⟨⟨e, List.mem_cons_self, (hmanage c hc).1⟩, (hmanage c hc).2⟩
        · obtain ⟨⟨p, hp, hparent⟩, hmore⟩ := hmoreManage c hc
          exact ⟨⟨p, List.mem_cons_of_mem _ hp, hparent⟩, hmore⟩

/-- Among distinct slugs the entity with a slug is the one that is found. -/
theorem entity?_of_mem (hnodup : s.slugs.Nodup) {e : Entity}
    (he : e ∈ s.entities) : s.entity? e.slug = some e :=
  find?_slug_of_nodup hnodup he

/-- The module of an entity is the one that its slug leads to. -/
theorem moduleOf_of_mem (hnodup : s.slugs.Nodup) {e : Entity}
    (he : e ∈ s.entities) : s.moduleOf e.slug = s.config.moduleOf e := by
  rw [moduleOf, entity?_of_mem hnodup he]
  rfl

/-- A kept entity keeps everything but its module, which is the one that its
slug leads to. -/
theorem mem_active (hnodup : s.slugs.Nodup) {a : Entity} (ha : a ∈ s.active) :
    ∃ e ∈ s.entities, a = { e with module := some (s.moduleOf a.slug) } ∧
      s.isActive a.slug = true := by
  obtain ⟨e, he, rfl⟩ := List.mem_map.mp ha
  obtain ⟨hmem, henabled⟩ := List.mem_filter.mp he
  have hmodule : s.moduleOf e.slug = s.config.moduleOf e :=
    moduleOf_of_mem hnodup hmem
  refine ⟨e, hmem, ?_, ?_⟩
  · rw [hmodule]
  · rw [isActive, hmodule]
    exact henabled

/-- An entity whose slug is active is kept. -/
theorem active_of_mem (hnodup : s.slugs.Nodup) {e : Entity}
    (he : e ∈ s.entities) (hactive : s.isActive e.slug = true) :
    { e with module := some (s.config.moduleOf e) } ∈ s.active := by
  refine List.mem_map.mpr ⟨e, List.mem_filter.mpr ⟨he, ?_⟩, rfl⟩
  rwa [isActive, moduleOf_of_mem hnodup he] at hactive

/-- Kept entities have the slugs of entities of the document, each at most
once. -/
theorem nodup_active (hnodup : s.slugs.Nodup) :
    (s.active.map (·.slug)).Nodup := by
  have hslugs : s.active.map (·.slug) =
      (s.entities.filter fun e => s.config.isEnabled (s.config.moduleOf e)).map
          (·.slug) := by
    simp [active]
  rw [hslugs]
  exact hnodup.sublist (List.filter_sublist.map _)

end Surroundings

/-- Whether an entity may use another: they belong to one module, or only the
other one is shared. -/
def Entity.MayUse (a b : Entity) : Prop :=
  a.module = b.module ∨
    (b.module = some sharedModule ∧ a.module ≠ some sharedModule)

/-- Kept entities may use each other when the boundary check says so. -/
theorem Surroundings.mayUse_of_reach {s : Surroundings} (hnodup : s.slugs.Nodup)
    {a b : Entity} (ha : a ∈ s.active) (hb : b ∈ s.active)
    (h : mayReach (s.moduleOf a.slug) (s.moduleOf b.slug) = true) :
    a.MayUse b := by
  obtain ⟨_, -, haeq, -⟩ := mem_active hnodup ha
  obtain ⟨_, -, hbeq, -⟩ := mem_active hnodup hb
  have hamodule : a.module = some (s.moduleOf a.slug) :=
    congrArg Entity.module haeq
  have hbmodule : b.module = some (s.moduleOf b.slug) :=
    congrArg Entity.module hbeq
  unfold Entity.MayUse
  rw [hamodule, hbmodule]
  simpa [mayReach] using h

/-- Internal entities are marked as such, and none has the slug of an entity
that is there already. -/
theorem mem_systemEntities {entities : List Entity} {config : ModuleConfig}
    {a : Entity} (ha : a ∈ systemEntities entities config) :
    a.isSystem = true ∧ ∀ e ∈ entities, e.slug ≠ a.slug := by
  have hidden : ∀ slug displayName displayField fields,
      (hiddenEntity slug displayName displayField fields).isSystem = true := by
    intros
    simp [hiddenEntity, Entity.isSystem, Dict.get?, Json.bool?]
  rcases List.mem_append.mp ha with ha | ha
  · split at ha
    next hfree =>
      obtain rfl := List.mem_singleton.mp ha
      exact ⟨hidden .., by simpa [auditLogEntity,
        hiddenEntity] using (Bool.and_eq_true_iff.mp hfree).2⟩
    · cases ha
  · split at ha
    next hfree =>
      obtain rfl := List.mem_singleton.mp ha
      exact ⟨hidden .., by simpa [reportsEntity,
        hiddenEntity] using (Bool.and_eq_true_iff.mp hfree).2⟩
    · cases ha

/-- In a list made of parts with distinct labels, the items with one label are
those of its part. -/
theorem filter_flatMap_of_nodup {α β κ : Type}
    [DecidableEq κ] {key : β → κ} {label : α → κ} {part : α → List β}
    {xs : List α} (hkey : ∀ a ∈ xs, ∀ b ∈ part a, key b = label a)
    (hnodup : (xs.map label).Nodup) {a : α} (ha : a ∈ xs) :
    (xs.flatMap part).filter (fun b => key b = label a) = part a := by
  induction xs with
  | nil => cases ha
  | cons x rest ih =>
      have hsplit := List.nodup_cons.mp hnodup
      have hrest : ∀ y ∈ rest, ∀ b ∈ part y, key b = label y :=
        fun y hy => hkey y (List.mem_cons_of_mem _ hy)
      rw [List.flatMap_cons, List.filter_append]
      rcases List.mem_cons.mp ha with rfl | ha
      · have hpart : (part a).filter (fun b => key b = label a) = part a := by
          refine List.filter_eq_self.mpr fun b hb => ?_
          simpa using hkey a List.mem_cons_self b hb
        have hothers :
            (rest.flatMap part).filter (fun b => key b = label a) = [] := by
          refine List.filter_eq_nil_iff.mpr fun b hb heq => ?_
          obtain ⟨y, hy, hb⟩ := List.mem_flatMap.mp hb
          have hlabel : label y = label a :=
            (hrest y hy b hb).symm.trans (by simpa using heq)
          exact hsplit.1 (List.mem_map.mpr ⟨y, hy, hlabel⟩)
        rw [hpart, hothers, List.append_nil]
      · have hpart : (part x).filter (fun b => key b = label a) = [] := by
          refine List.filter_eq_nil_iff.mpr fun b hb heq => ?_
          have hlabel : label a = label x :=
            (show key b = label a by simpa using heq).symm.trans
              (hkey x List.mem_cons_self b hb)
          exact hsplit.1 (List.mem_map.mpr ⟨a, ha, hlabel⟩)
        rw [hpart, List.nil_append]
        exact ih hrest hsplit.2 ha

namespace Document

/-- What the entities of a document are checked against. -/
def surroundings (d : Document) (config : ModuleConfig) : Surroundings :=
  ⟨d.entities, config⟩

/-- The entities of a document that belong to enabled modules, each with its
module. -/
def kept (d : Document) (config : ModuleConfig) : List Entity :=
  (d.surroundings config).active

variable {d : Document} {config : ModuleConfig} {g : SchemaGraph}

/-- What the checks of an accepted document have found is what its graph
holds. -/
theorem validateWith_ok (h : d.validateWith config = .ok g) :
    checkSlugs 0 [] d.entities = .ok () ∧
      (d.surroundings config).checkEntities (d.kept config) =
        .ok (g.edges, g.children) ∧
      g.entities = d.kept config ++ systemEntities (d.kept config) config := by
  obtain ⟨_, hslugs, h⟩ := bind_eq_ok.mp h
  obtain ⟨⟨edges, children⟩, hchecked, h⟩ := bind_eq_ok.mp h
  cases h
  exact ⟨hslugs, hchecked, rfl⟩

/-- The slugs of an accepted document are distinct. -/
theorem slugs_nodup (h : d.validateWith config = .ok g) :
    (d.surroundings config).slugs.Nodup :=
  (checkSlugs_ok (validateWith_ok h).1).1

/-- No two kept entities have one slug. -/
theorem kept_nodup (h : d.validateWith config = .ok g) :
    ((d.kept config).map (·.slug)).Nodup :=
  Surroundings.nodup_active (slugs_nodup h)

/-- The graph of an accepted document finds a kept entity by its slug. -/
theorem entity?_of_kept (h : d.validateWith config = .ok g) {e : Entity}
    (he : e ∈ d.kept config) : g.entity? e.slug = some e := by
  rw [SchemaGraph.entity?, (validateWith_ok h).2.2, List.find?_append,
    find?_slug_of_nodup (kept_nodup h) he]
  rfl

/-- The edges of an accepted document are those of the fields of its kept
entities, in order. -/
theorem edges_eq (h : d.validateWith config = .ok g) :
    g.edges = (d.kept config).flatMap fun e =>
      e.fields.filterMap fun f => f.edge? (d.entities.map (·.slug)) e.slug :=
  (Surroundings.checkEntities_ok (validateWith_ok h).2.1).1

/-- The references of a kept entity are those of its fields. -/
theorem edgesFrom_eq (h : d.validateWith config = .ok g) {e : Entity}
    (he : e ∈ d.kept config) :
    g.edgesFrom e.slug = e.fields.filterMap fun f =>
      f.edge? (d.entities.map (·.slug)) e.slug := by
  rw [SchemaGraph.edgesFrom, edges_eq h]
  refine filter_flatMap_of_nodup ?_ (kept_nodup h) he
  intro a _ r hr
  obtain ⟨f, -, hf⟩ := List.mem_filterMap.mp hr
  exact (Field.edge?_ends hf).1

/-- The edges of an accepted document stand entity by entity. -/
theorem edges_eq_flatMap_edgesFrom (h : d.validateWith config = .ok g) :
    g.edges = ((d.kept config).map (·.slug)).flatMap g.edgesFrom := by
  rw [List.flatMap_map]
  refine (edges_eq h).trans (List.flatMap_congr ?_)
  intro e he
  exact (edgesFrom_eq h he).symm

/-- An active slug of an accepted document is the slug of a kept entity. -/
theorem exists_kept (h : d.validateWith config = .ok g) {slug : String}
    (hmem : slug ∈ (d.surroundings config).slugs)
    (hactive : (d.surroundings config).isActive slug = true) :
    ∃ b ∈ d.kept config, b.slug = slug := by
  obtain ⟨e, he, rfl⟩ := List.mem_map.mp hmem
  exact ⟨_, Surroundings.active_of_mem (slugs_nodup h) he hactive, rfl⟩

/-- An edge leaves a kept entity. -/
theorem exists_source (h : d.validateWith config = .ok g) {r : ReferenceEdge}
    (hr : r ∈ g.edges) : ∃ a ∈ d.kept config, a.slug = r.source := by
  rw [edges_eq h] at hr
  obtain ⟨a, ha, hr⟩ := List.mem_flatMap.mp hr
  obtain ⟨f, -, hf⟩ := List.mem_filterMap.mp hr
  exact ⟨a, ha, (Field.edge?_ends hf).1.symm⟩

/-- An edge arrives at a kept entity: its target is a slug of the document, and
the module of that slug has been found enabled. -/
theorem exists_target (h : d.validateWith config = .ok g) {r : ReferenceEdge}
    (hr : r ∈ g.edges) : ∃ b ∈ d.kept config, b.slug = r.target := by
  have hreach := (Surroundings.checkEntities_ok (validateWith_ok h).2.1).2.1 r hr
  rw [edges_eq h] at hr
  obtain ⟨a, -, hr⟩ := List.mem_flatMap.mp hr
  obtain ⟨f, -, hf⟩ := List.mem_filterMap.mp hr
  exact exists_kept h (Field.edge?_ends hf).2.2.1 hreach.1

/-- A child edge leaves a kept entity. -/
theorem exists_parent (h : d.validateWith config = .ok g) {c : ChildEdge}
    (hc : c ∈ g.children) : ∃ a ∈ d.kept config, a.slug = c.parent := by
  obtain ⟨⟨a, ha, hslug⟩, -⟩ :=
    (Surroundings.checkEntities_ok (validateWith_ok h).2.1).2.2 c hc
  exact ⟨a, ha, hslug.symm⟩

/-- A child edge arrives at a kept entity that has the foreign key. -/
theorem exists_child (h : d.validateWith config = .ok g) {c : ChildEdge}
    (hc : c ∈ g.children) :
    ∃ b ∈ d.kept config, b.slug = c.child ∧
      ∃ f ∈ b.fields, f.name = c.foreignKey := by
  obtain ⟨-, ⟨hactive, -⟩, child, hfind, hfield⟩ :=
    (Surroundings.checkEntities_ok (validateWith_ok h).2.1).2.2 c hc
  have hmem : child ∈ d.entities := List.mem_of_find?_eq_some hfind
  have hslug : child.slug = c.child := by simpa using List.find?_some hfind
  refine ⟨_, Surroundings.active_of_mem (slugs_nodup h)
    hmem (hslug ▸ hactive), hslug, ?_⟩
  obtain ⟨f, hf⟩ := Option.isSome_iff_exists.mp hfield
  exact ⟨f, List.mem_of_find?_eq_some hf, by simpa using List.find?_some hf⟩

/-- The ends of an edge may use each other. -/
theorem edge_mayUse (h : d.validateWith config = .ok g) {r : ReferenceEdge}
    (hr : r ∈ g.edges) {a b : Entity} (ha : a ∈ d.kept config)
    (hb : b ∈ d.kept config) (hsource : a.slug = r.source)
    (htarget : b.slug = r.target) : a.MayUse b := by
  refine Surroundings.mayUse_of_reach (slugs_nodup h) ha hb ?_
  rw [hsource, htarget]
  exact ((Surroundings.checkEntities_ok (validateWith_ok h).2.1).2.1 r hr).2

/-- The ends of a child edge may use each other. -/
theorem child_mayUse (h : d.validateWith config = .ok g) {c : ChildEdge}
    (hc : c ∈ g.children) {a b : Entity} (ha : a ∈ d.kept config)
    (hb : b ∈ d.kept config) (hparent : a.slug = c.parent)
    (hchild : b.slug = c.child) : a.MayUse b := by
  refine Surroundings.mayUse_of_reach (slugs_nodup h) ha hb ?_
  rw [hparent, hchild]
  exact ((Surroundings.checkEntities_ok (validateWith_ok h).2.1).2.2 c hc).2.1.2

end Document

/-- How a graph lies over the document that it was made from.  `kept` are the
entities of the modules that are switched on and `internal` those that were
added. -/
structure SchemaGraph.LiesOver (g : SchemaGraph) (d : Document)
    (config : ModuleConfig) (kept internal : List Entity) : Prop where
  /-- The kept entities stand in document order, each with its module. -/
  kept_eq : kept = (d.entities.filter fun e =>
      config.isEnabled (config.moduleOf e)).map fun e =>
        { e with module := some (config.moduleOf e) }
  entities_eq : g.entities = kept ++ internal
  internal_system : ∀ a ∈ internal, a.isSystem = true
  /-- So "the entity with a slug" below is one entity. -/
  kept_nodup : (kept.map (·.slug)).Nodup
  /-- One edge for each field of a kept entity that resolves among the slugs of
  all entities. -/
  edges_eq : g.edges = kept.flatMap fun e =>
    e.fields.filterMap fun f => f.edge? (d.entities.map (·.slug)) e.slug
  target_kept : ∀ r ∈ g.edges, ∃ b ∈ kept, b.slug = r.target
  parent_kept : ∀ c ∈ g.children, ∃ a ∈ kept, a.slug = c.parent
  /-- The child of a child edge is kept and has the foreign key among its
  fields. -/
  child_kept : ∀ c ∈ g.children, ∃ b ∈ kept, b.slug = c.child ∧
    ∃ f ∈ b.fields, f.name = c.foreignKey
  edge_modules : ∀ r ∈ g.edges, ∀ a ∈ kept, ∀ b ∈ kept,
    a.slug = r.source → b.slug = r.target → a.MayUse b
  child_modules : ∀ c ∈ g.children, ∀ a ∈ kept, ∀ b ∈ kept,
    a.slug = c.parent → b.slug = c.child → a.MayUse b
  internal_apart : ∀ a ∈ internal,
    (∀ r ∈ g.edges, r.source ≠ a.slug ∧ r.target ≠ a.slug) ∧
      ∀ c ∈ g.children, c.parent ≠ a.slug ∧ c.child ≠ a.slug

/-- **The graph of an accepted document lies over it.** Its entities are those
of the enabled modules in order and then internal ones; its edges are exactly
the resolved fields of the former; both ends of edges and child edges are kept
entities within each other's reach; and nothing points to or from what was
added. -/
theorem Document.validateWith_liesOver {d : Document} {config : ModuleConfig}
    {g : SchemaGraph} (h : d.validateWith config = .ok g) :
    ∃ kept internal, g.LiesOver d config kept internal := by
  refine ⟨d.kept config, systemEntities (d.kept config) config, ?_⟩
  exact {
    kept_eq := rfl
    entities_eq := (Document.validateWith_ok h).2.2
    internal_system := fun a ha => (mem_systemEntities ha).1
    kept_nodup := Document.kept_nodup h
    edges_eq := Document.edges_eq h
    target_kept := fun r hr => Document.exists_target h hr
    parent_kept := fun c hc => Document.exists_parent h hc
    child_kept := fun c hc => Document.exists_child h hc
    edge_modules := fun r hr a ha b hb => Document.edge_mayUse h hr ha hb
    child_modules := fun c hc a ha b hb => Document.child_mayUse h hc ha hb
    internal_apart := by
      intro a ha
      have hfree := (mem_systemEntities ha).2
      constructor
      · intro r hr
        obtain ⟨x, hx, hsource⟩ := Document.exists_source h hr
        obtain ⟨y, hy, htarget⟩ := Document.exists_target h hr
        exact ⟨hsource ▸ hfree x hx, htarget ▸ hfree y hy⟩
      · intro c hc
        obtain ⟨x, hx, hparent⟩ := Document.exists_parent h hc
        obtain ⟨y, hy, hchild, -⟩ := Document.exists_child h hc
        exact ⟨hparent ▸ hfree x hx, hchild ▸ hfree y hy⟩ }

/-- A shop with three modules, one of them switched off, a shared entity and a
child collection. -/
def shopDocument : Document where
  projectName := "shop"
  modules := []
  entities := [
    { slug := "categories", module := some "Shared",
      fields := [{ name := "name" }] },
    { slug := "products", module := some "inventory"
      fields := [{ name := "category_id" }, { name := "tag_id" },
        { name := "product_ids" }] },
    { slug := "people", module := some "hr",
      fields := [{ name := "invoice_id" }] },
    { slug := "invoices", module := some "invoice",
      fields := [{ name := "number" }]
      children := [⟨"invoice_items", some "invoice_id", none⟩] },
    { slug := "invoice_items", module := some "invoice",
      fields := [{ name := "invoice_id" }] }]

/-- Settings without the module `hr`, and with an audit log. -/
def shopConfig : ModuleConfig where
  enabled := ["inventory", "invoice"]
  explicit := true
  activityLog := ⟨true, []⟩
  scheduledReports := ⟨false, "__reports"⟩

/-- The shop is accepted, and its graph lies over it. -/
theorem shopDocument_liesOver :
    ∃ g, shopDocument.validateWith shopConfig = .ok g ∧
      g.entities.map (·.slug) =
        ["categories", "products", "invoices", "invoice_items",
          "__audit_logs"] ∧
      g.edges.map (fun r => (r.source, r.field, r.target)) =
        [("products", "category_id", "categories"),
          ("products", "product_ids", "products"),
          ("invoice_items", "invoice_id", "invoices")] ∧
      g.children = [⟨"invoices", "invoice_items", "invoice_id"⟩] ∧
      ∃ kept internal, g.LiesOver shopDocument shopConfig kept internal :=
  ⟨_, rfl, rfl, rfl, rfl, Document.validateWith_liesOver rfl⟩

end ServiceLoom
