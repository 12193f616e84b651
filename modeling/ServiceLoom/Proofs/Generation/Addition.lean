import ServiceLoom.Pattern.Builtin
import ServiceLoom.Proofs.Generation.Files
import ServiceLoom.Proofs.Schema.Resolution
import ServiceLoom.Proofs.Schema.Surroundings

/-!
# One more entity

What is generated for an entity depends on the entity and on the edges that
touch it.  So an entity that is unrelated to a document (no field of the
document can choose its slug, and no field of its own points into the document)
may be put anywhere among the others, and their files stay as they are.

* `Document.exists_kept_inserting`, `Document.exists_edges_inserting` — the
  lists of the graph grow in one place;
* `Document.plan_inserting` — every plan is what it was;
* `Document.inserting_servedAlike` — so are the files.
-/

namespace ServiceLoom

open Template

/-- The document with one more entity at a place, or at the end if it has fewer
entities. -/
def Document.inserting (d : Document) (i : Nat) (n : Entity) : Document :=
  { d with entities := d.entities.take i ++ n :: d.entities.drop i }

/-- What makes a new entity unrelated to the entities of a document. -/
structure Document.Unrelated (d : Document) (i : Nat) (n : Entity) : Prop where
  /-- Its slug is no plural form of the base of a field that may be a
  reference. -/
  no_form : ∀ e ∈ d.entities, ∀ f ∈ e.fields, f.isReferenceLike = true →
    n.slug ∉ pluralForms f.referenceBase
  /-- Nor does it start with the base of one. -/
  no_start : ∀ e ∈ d.entities, ∀ f ∈ e.fields, f.isReferenceLike = true →
    ¬ f.referenceBase.toList <+: n.slug.toList
  /-- None of its own fields points at an entity of the document. -/
  no_target : ∀ f ∈ n.fields, ∀ slug explicit,
    f.resolve ((d.inserting i n).entities.map (·.slug)) =
      .target slug explicit → slug ∉ d.entities.map (·.slug)

/-- What it means that an entity is served alike in two graphs.  `out` and
`out'` are what is generated from them, and `other` is a slug that only the
second graph has. -/
structure SchemaGraph.ServedAlike [Pattern.Engine] (l : BundleLibrary)
    (g g' : SchemaGraph) (out out' : Generation) (other : String)
    (e : Entity) : Prop where
  served : e ∈ g.servedEntities
  served' : e ∈ g'.servedEntities
  /-- The same rules, guard and bundles. -/
  plan_eq : EntityPlan.ofEntity l g' e = EntityPlan.ofEntity l g e
  /-- The same text, with the same warnings. -/
  service_eq : g'.service l e = g.service l e
  /-- That text is in a file of its own in both. -/
  service_file : ∃ text warnings, g.service l e = .ok (text, warnings) ∧
    ⟨modulePath "src/services/" (moduleName e.slug), text⟩ ∈ out.files ∧
    ⟨modulePath "src/services/" (moduleName e.slug), text⟩ ∈ out'.files
  route_file : SchemaGraph.routeFile e ∈ out.files ∧
    SchemaGraph.routeFile e ∈ out'.files
  /-- Unless the other slug comes to the same module name, nothing else is at
  the paths of the entity than before. -/
  files_eq : moduleName other ≠ moduleName e.slug → ∀ folder ∈ moduleFolders,
    out'.files.filter (·.path = modulePath folder (moduleName e.slug)) =
      out.files.filter (·.path = modulePath folder (moduleName e.slug))

/-- What is found in a list is found when items are put into it that are not
looked for. -/
theorem find?_insert {α : Type} {p : α → Bool} {before own after : List α}
    (h : ∀ a ∈ own, p a = false) :
    (before ++ own ++ after).find? p = (before ++ after).find? p := by
  have hown : own.find? p = none := List.find?_eq_none.mpr fun a ha => by
    simp [h a ha]
  rw [List.append_assoc, List.find?_append, List.find?_append,
    hown, List.find?_append]
  rfl

/-- What is taken from a list does not change when items are put into it that
are not taken. -/
theorem filter_insert {α : Type} {p : α → Bool} {before own after : List α}
    (h : ∀ a ∈ own, p a = false) :
    (before ++ own ++ after).filter p = (before ++ after).filter p := by
  have hown : own.filter p = [] := List.filter_eq_nil_iff.mpr fun a ha => by
    simp [h a ha]
  rw [List.filter_append, List.filter_append, hown,
    List.append_nil, List.filter_append]

/-- The edges of the fields of entities that resolve among some slugs. -/
def edgesAmong (slugs : List String) (entities : List Entity) :
    List ReferenceEdge :=
  entities.flatMap fun e => e.fields.filterMap (·.edge? slugs e.slug)

theorem edgesAmong_append (slugs : List String) (xs ys : List Entity) :
    edgesAmong slugs (xs ++ ys) = edgesAmong slugs xs ++ edgesAmong slugs ys :=
  List.flatMap_append

namespace Document

variable {d : Document} {config : ModuleConfig} {g g' : SchemaGraph} {i : Nat}
    {n : Entity}

/-- The slugs of the document with a new entity. -/
theorem slugs_inserting : (d.inserting i n).entities.map (·.slug) =
    (d.entities.take i).map (·.slug) ++ n.slug ::
      (d.entities.drop i).map (·.slug) := by
  simp [inserting]

/-- The slugs of the document in two parts. -/
theorem slugs_split (i : Nat) : d.entities.map (·.slug) =
    (d.entities.take i).map (·.slug) ++ (d.entities.drop i).map (·.slug) := by
  rw [← List.map_append, List.take_append_drop]

/-- The slug of a new entity of an accepted document is new. -/
theorem slug_not_mem_of_inserting
    (h' : (d.inserting i n).validateWith config = .ok g') :
    n.slug ∉ d.entities.map (·.slug) := by
  have hnodup := slugs_nodup h'
  rw [Surroundings.slugs, surroundings, slugs_inserting,
    List.nodup_middle] at hnodup
  rw [slugs_split i]
  exact (List.nodup_cons.mp hnodup).1

/-- **The kept entities are those of before**, in two parts, and between them
the new one, if it is kept. -/
theorem exists_kept_inserting (d : Document) (config : ModuleConfig) (i : Nat)
    (n : Entity) :
    ∃ before own after, d.kept config = before ++ after ∧
    (d.inserting i n).kept config = before ++ own ++ after ∧
    ∀ a ∈ own, a.slug = n.slug ∧ a.fields = n.fields := by
  have hactive : ∀ xs ys :
      List Entity, (Surroundings.mk (xs ++ ys) config).active =
      (Surroundings.mk xs config).active ++
          (Surroundings.mk ys config).active := by
    intro xs ys
    simp [Surroundings.active]
  refine ⟨(Surroundings.mk (d.entities.take i) config).active,
    (Surroundings.mk [n] config).active,
    (Surroundings.mk (d.entities.drop i) config).active, ?_, ?_, ?_⟩
  · rw [← hactive, List.take_append_drop]
    rfl
  · rw [← hactive, ← hactive, List.append_assoc]
    rfl
  · intro a ha
    obtain ⟨e, he, rfl⟩ := List.mem_map.mp ha
    obtain rfl := List.mem_singleton.mp (List.mem_filter.mp he).1
    exact ⟨rfl, rfl⟩

/-- What is kept is still kept. -/
theorem kept_subset_inserting {e : Entity} (he : e ∈ d.kept config) :
    e ∈ (d.inserting i n).kept config := by
  obtain ⟨before, own, after, hkept, hkept', -⟩ :=
    exists_kept_inserting d config i n
  rw [hkept] at he
  rw [hkept', List.append_assoc]
  rcases List.mem_append.mp he with he | he
  · exact List.mem_append_left _ he
  · exact List.mem_append_right _ (List.mem_append_right _ he)

/-- A field of the document has the edge that it had. -/
theorem edge?_inserting (hn : d.Unrelated i n) {e : Entity}
    (he : e ∈ d.kept config) {f : Field} (hf : f ∈ e.fields) (source : String) :
    f.edge? ((d.inserting i n).entities.map (·.slug)) source =
      f.edge? (d.entities.map (·.slug)) source := by
  obtain ⟨a, ha, rfl⟩ := List.mem_map.mp he
  have ha : a ∈ d.entities := (List.mem_filter.mp ha).1
  have hresolve :=
    Field.resolve_insert (hn.no_form a ha f hf) (hn.no_start a ha f hf)
      ((d.entities.take i).map (·.slug)) ((d.entities.drop i).map (·.slug))
  rw [Field.edge?, Field.edge?, slugs_inserting, hresolve, ← slugs_split]

/-- Entities that are kept have, among the slugs with the new one, the edges
that they had. -/
theorem edgesAmong_inserting (hn : d.Unrelated i n) {part : List Entity}
    (hpart : ∀ e ∈ part, e ∈ d.kept config) :
    edgesAmong ((d.inserting i n).entities.map (·.slug)) part =
      edgesAmong (d.entities.map (·.slug)) part := by
  refine List.flatMap_congr fun e he => List.filterMap_congr fun f hf => ?_
  exact edge?_inserting hn (hpart e he) hf e.slug

/-- **The edges are those of before**, in two parts, and between them those of
the new entity, which leave it and arrive at no other. -/
theorem exists_edges_inserting (h : d.validateWith config = .ok g)
    (h' : (d.inserting i n).validateWith config = .ok g')
    (hn : d.Unrelated i n) :
    ∃ before own after, g.edges = before ++ after ∧
      g'.edges = before ++ own ++ after ∧
      ∀ r ∈ own, r.source = n.slug ∧ r.target ∉ d.entities.map (·.slug) := by
  obtain ⟨before, own, after, hkept, hkept', hown⟩ :=
    exists_kept_inserting d config i n
  have hbefore := edgesAmong_inserting hn fun e (he : e ∈ before) =>
      hkept ▸ List.mem_append_left _ he
  have hafter := edgesAmong_inserting hn fun e (he : e ∈ after) =>
      hkept ▸ List.mem_append_right _ he
  have hedges : g.edges =
      edgesAmong (d.entities.map (·.slug)) (d.kept config) := edges_eq h
  have hedges' : g'.edges = edgesAmong ((d.inserting i n).entities.map (·.slug))
      ((d.inserting i n).kept config) :=
    edges_eq h'
  rw [hkept, edgesAmong_append] at hedges
  rw [hkept', edgesAmong_append, edgesAmong_append, hbefore, hafter] at hedges'
  refine ⟨_, _, _, hedges, hedges', fun r hr => ?_⟩
  obtain ⟨a, ha, hr⟩ := List.mem_flatMap.mp hr
  obtain ⟨f, hf, hedge⟩ := List.mem_filterMap.mp hr
  obtain ⟨hslug, hfields⟩ := hown a ha
  refine ⟨(Field.edge?_ends hedge).1.trans hslug, ?_⟩
  unfold Field.edge? at hedge
  split at hedge
  next slug explicit hresolve =>
    obtain rfl := Option.some.inj hedge
    exact hn.no_target f (hfields ▸ hf) slug explicit hresolve
  · cases hedge

/-- The display field of a kept entity is its own. -/
theorem displayFieldOf_of_kept (h : d.validateWith config = .ok g) {e : Entity}
    (he : e ∈ d.kept config) :
    g.displayFieldOf e.slug = e.guessDisplayField := by
  rw [SchemaGraph.displayFieldOf, entity?_of_kept h he]
  rfl

/-- The slug of a kept entity is one of the document. -/
theorem slug_mem_of_kept {e : Entity} (he : e ∈ d.kept config) :
    e.slug ∈ d.entities.map (·.slug) := by
  obtain ⟨a, ha, rfl⟩ := List.mem_map.mp he
  exact List.mem_map_of_mem (f := (·.slug)) (List.mem_filter.mp ha).1

section Inserting

variable (h : d.validateWith config = .ok g)
    (h' : (d.inserting i n).validateWith config = .ok g')
  (hn : d.Unrelated i n)

include h h' hn

/-- A kept entity has its rules. -/
theorem fieldRules_inserting [Pattern.Engine] {e : Entity}
    (he : e ∈ d.kept config) : g'.fieldRules e = g.fieldRules e := by
  obtain ⟨before, own, after, hedges, hedges', hown⟩ :=
    exists_edges_inserting h h' hn
  have hedge : ∀ field, g'.edge? e.slug field = g.edge? e.slug field := by
    intro field
    rw [SchemaGraph.edge?, SchemaGraph.edge?, hedges, hedges']
    refine find?_insert fun r hr => ?_
    have hne : r.source ≠ e.slug := by
      rw [(hown r hr).1]
      exact fun heq => slug_not_mem_of_inserting h' (heq ▸ slug_mem_of_kept he)
    simp [hne]
  rw [SchemaGraph.fieldRules, SchemaGraph.fieldRules]
  refine congrArg RuleSet.mk (List.map_congr_left fun f _ => ?_)
  rw [SchemaGraph.fieldRule, SchemaGraph.fieldRule, hedge]

/-- A kept entity has its guard: the same edges arrive at it, and each comes
from an entity that is shown as before. -/
theorem deleteGuard_inserting {e : Entity} (he : e ∈ d.kept config) :
    g'.deleteGuard e.slug = g.deleteGuard e.slug := by
  obtain ⟨before, own, after, hedges, hedges', hown⟩ :=
    exists_edges_inserting h h' hn
  have harriving : g'.edgesTo e.slug = g.edgesTo e.slug := by
    rw [SchemaGraph.edgesTo, SchemaGraph.edgesTo, hedges, hedges']
    refine filter_insert fun r hr => ?_
    have hne : r.target ≠ e.slug :=
      fun heq => (hown r hr).2 (heq ▸ slug_mem_of_kept he)
    simp [hne]
  have hshown : ∀ r ∈ g.edges, g'.displayFieldOf r.source =
      g.displayFieldOf r.source := by
    intro r hr
    obtain ⟨a, ha, hsource⟩ := exists_source h hr
    rw [← hsource, displayFieldOf_of_kept h ha,
      displayFieldOf_of_kept h' (kept_subset_inserting ha)]
  rw [SchemaGraph.deleteGuard, SchemaGraph.deleteGuard, harriving]
  refine congrArg DeleteGuard.mk (List.foldl_ext _ _ _ fun dependents r hr => ?_)
  have hmem : r ∈ g.edges := List.mem_of_mem_filter (List.mem_of_mem_filter hr)
  rw [SchemaGraph.addDependent, SchemaGraph.addDependent, hshown r hmem]

/-- **A kept entity has the plan that it had.** -/
theorem plan_inserting [Pattern.Engine] (l : BundleLibrary) {e : Entity}
    (he : e ∈ d.kept config) :
    EntityPlan.ofEntity l g' e = EntityPlan.ofEntity l g e := by
  have hmodules : g'.modules = g.modules := by
    obtain ⟨-, _, _, -, rfl⟩ := validateWith_eq_ok_iff.mp h
    obtain ⟨-, _, _, -, rfl⟩ := validateWith_eq_ok_iff.mp h'
    rfl
  rw [EntityPlan.ofEntity, EntityPlan.ofEntity, hmodules,
    SchemaGraph.compile, SchemaGraph.compile, fieldRules_inserting h h' hn he,
    deleteGuard_inserting h h' hn he]

end Inserting

/-- What is served is what was served, and between it the new entity, if it is
served. -/
theorem exists_servedEntities_inserting (h : d.validateWith config = .ok g)
    (h' : (d.inserting i n).validateWith config = .ok g') :
    ∃ before own after, g.servedEntities = before ++ after ∧
      g'.servedEntities = before ++ own ++ after ∧
      ∀ a ∈ own, a.slug = n.slug := by
  obtain ⟨before, own, after, hkept, hkept', hown⟩ :=
    exists_kept_inserting d config i n
  have hserved := servedEntities_eq h
  have hserved' := servedEntities_eq h'
  rw [hkept, List.filter_append] at hserved
  rw [hkept', List.filter_append, List.filter_append] at hserved'
  exact ⟨_, _, _, hserved, hserved', fun a ha =>
    (hown a (List.mem_of_mem_filter ha)).1⟩

end Document

/-- The files of a folder at the path of a module are those of the entities that
come to its name. -/
theorem filter_folderFiles (folder : String) (content : Entity → String)
    (index : String) (entities : List Entity) (slug : String) :
    (folderFiles folder content index entities).filter
      (·.path = modulePath folder (moduleName slug)) =
      (entities.filter (moduleName ·.slug = moduleName slug)).map fun e =>
        ⟨modulePath folder (moduleName e.slug), content e⟩ := by
  have hindex : modulePath folder "mod" ≠ modulePath folder (moduleName slug) :=
    fun heq => moduleName_ne_mod slug (modulePath_inj.mp heq).symm
  have hmodule : ∀ e : Entity, modulePath folder (moduleName e.slug) =
      modulePath folder (moduleName slug) ↔
      moduleName e.slug = moduleName slug := fun e => modulePath_inj
  rw [folderFiles, List.filter_append, List.filter_map]
  simp [Function.comp_def, hindex, hmodule]

/-- A folder has no file at a path of the other folder. -/
theorem filter_folderFiles_other {folder path : String}
    {content : Entity → String} {index : String} {entities : List Entity}
    (h : ∀ name, modulePath folder name ≠ path) :
    (folderFiles folder content index entities).filter (·.path = path) = [] := by
  refine List.filter_eq_nil_iff.mpr fun f hf => ?_
  obtain ⟨name, hname⟩ := exists_path_of_mem_folderFiles hf
  simpa [hname] using h name

/-- If the files at the path of an entity are those of the entities that come to
its name, its own is among them. -/
theorem mem_of_filter_path
    {files : List GeneratedFile} {folder : String} {content : Entity → String}
    {entities : List Entity} {e : Entity} (he : e ∈ entities)
    (h : files.filter (·.path = modulePath folder (moduleName e.slug)) =
      (entities.filter (moduleName ·.slug = moduleName e.slug)).map fun e =>
        ⟨modulePath folder (moduleName e.slug), content e⟩) :
    ⟨modulePath folder (moduleName e.slug), content e⟩ ∈ files := by
  refine List.mem_of_mem_filter
    (p := (·.path = modulePath folder (moduleName e.slug))) ?_
  rw [h]
  exact List.mem_map.mpr ⟨e, List.mem_filter.mpr ⟨he, by simp⟩, rfl⟩

namespace SchemaGraph

variable {g : SchemaGraph} {l : BundleLibrary} {out : Generation}

/-- The manifest is at the path of no module. -/
theorem filter_manifest {folder : String} (hfolder : folder ∈ moduleFolders)
    (name : String) :
    (g.manifest l).files.filter (·.path = modulePath folder name) = [] := by
  simpa [manifest] using (modulePath_ne_manifest hfolder name).symm

/-- The files at the path of a service module are those of the entities that
come to its name. -/
theorem files_at_service [Pattern.Engine] (h : g.generate l = .ok out)
    (slug : String) :
    out.files.filter (·.path = modulePath "src/services/" (moduleName slug)) =
      (g.servedEntities.filter (moduleName ·.slug = moduleName slug)).map fun e =>
        ⟨modulePath "src/services/" (moduleName e.slug), g.serviceText l e⟩ := by
  obtain rfl := Except.ok.inj ((g.generate_eq l).symm.trans h)
  rw [List.filter_append, List.filter_append, filter_folderFiles,
    filter_folderFiles_other fun name heq => servicePath_ne_routePath _ _
      heq.symm, filter_manifest (by decide), List.append_nil, List.append_nil]

/-- The files at the path of a route module are those of the entities that come
to its name. -/
theorem files_at_route [Pattern.Engine] (h : g.generate l = .ok out)
    (slug : String) :
    out.files.filter (·.path = modulePath "src/routes/" (moduleName slug)) =
      (g.servedEntities.filter (moduleName ·.slug = moduleName slug)).map
        routeFile := by
  obtain rfl := Except.ok.inj ((g.generate_eq l).symm.trans h)
  rw [List.filter_append, List.filter_append, filter_folderFiles,
    filter_folderFiles_other fun name heq => servicePath_ne_routePath _ _ heq,
    filter_manifest (by decide), List.append_nil, List.nil_append]
  rfl

end SchemaGraph

namespace Document

variable {d : Document} {config : ModuleConfig} {g g' : SchemaGraph} {i : Nat}
    {n : Entity}

/-- **An unrelated entity does not disturb the others.** Wherever it is put, and
whatever it holds, when the document is accepted with it as it is without, then
every kept entity of the document that is not internal is served in both graphs
with the same service file and the same route file. -/
theorem inserting_servedAlike [Pattern.Engine] (h : d.validateWith config = .ok g)
    (h' : (d.inserting i n).validateWith config = .ok g') (hn : d.Unrelated i n)
    (l : BundleLibrary) :
    ∃ out out', g.generate l = .ok out ∧ g'.generate l = .ok out' ∧
      ∀ e ∈ d.kept config, e.isSystem = false →
        SchemaGraph.ServedAlike l g g' out out' n.slug e := by
  obtain ⟨out, hout⟩ : ∃ out, g.generate l = .ok out := ⟨_, g.generate_eq l⟩
  obtain ⟨out', hout'⟩ : ∃ out, g'.generate l = .ok out := ⟨_, g'.generate_eq l⟩
  have hkept : ∀ e ∈ g.servedEntities, e ∈ d.kept config := by
    intro e he
    rw [servedEntities_eq h] at he
    exact List.mem_of_mem_filter he
  have hplan : ∀ e ∈ d.kept config, EntityPlan.ofEntity l g' e =
      EntityPlan.ofEntity l g e :=
    fun e he => plan_inserting h h' hn l he
  have htext : ∀ e ∈ d.kept config, g'.serviceText l e = g.serviceText l e := by
    intro e he
    rw [SchemaGraph.serviceText, SchemaGraph.serviceText, hplan e he]
  refine ⟨out, out', hout, hout', fun e he hshown => ?_⟩
  have hserved : e ∈ g.servedEntities := by
    rw [servedEntities_eq h]
    exact List.mem_filter.mpr ⟨he, by simp [hshown]⟩
  have hserved' : e ∈ g'.servedEntities := by
    rw [servedEntities_eq h']
    exact List.mem_filter.mpr ⟨kept_subset_inserting he, by simp [hshown]⟩
  have hservice : g'.service l e = g.service l e := by
    rw [SchemaGraph.service_eq, SchemaGraph.service_eq, hplan e he]
  have hmodules : moduleName n.slug ≠ moduleName e.slug →
      g'.servedEntities.filter (moduleName ·.slug = moduleName e.slug) =
        g.servedEntities.filter (moduleName ·.slug = moduleName e.slug) := by
    intro hne
    obtain ⟨before, own, after, hbefore, hafter, hown⟩ :=
      exists_servedEntities_inserting h h'
    rw [hbefore, hafter]
    exact filter_insert fun a ha => by simpa [hown a ha] using hne
  refine ⟨hserved, hserved', hplan e he, hservice, ?_, ?_, fun hne => ?_⟩
  · have hfile :=
      mem_of_filter_path hserved (SchemaGraph.files_at_service hout e.slug)
    have hfile' :=
      mem_of_filter_path hserved' (SchemaGraph.files_at_service hout' e.slug)
    rw [htext e he] at hfile'
    exact ⟨_, _, SchemaGraph.service_eq l g e, hfile, hfile'⟩
  · exact ⟨mem_of_filter_path hserved (SchemaGraph.files_at_route hout e.slug),
      mem_of_filter_path hserved' (SchemaGraph.files_at_route hout' e.slug)⟩
  · simp only [moduleFolders, List.forall_mem_cons]
    refine ⟨?_, ?_, fun _ hnone => absurd hnone List.not_mem_nil⟩
    · rw [SchemaGraph.files_at_service hout, SchemaGraph.files_at_service hout',
        hmodules hne]
      refine List.map_congr_left fun a ha => ?_
      rw [htext a (hkept a (List.mem_of_mem_filter ha))]
    · rw [SchemaGraph.files_at_route hout, SchemaGraph.files_at_route hout',
        hmodules hne]

end Document

/-- Shelves, which stand on other shelves and hold products. -/
def shelvesEntity : Entity where
  slug := "shelves"
  module := some "inventory"
  fields := [{ name := "lower", referenceEntity := some "shelves" },
    { name := "label" }]
  children := [⟨"products", some "category_id", none⟩]

/-- Shelves are unrelated to the shop: they point to no entity of it, and
nothing there could mean a shelf. -/
theorem shelvesEntity_unrelated : shopDocument.Unrelated 2 shelvesEntity where
  no_form := by decide +kernel
  no_start := by decide +kernel
  no_target := by
    have htargets : ∀ f ∈ shelvesEntity.fields,
        f.resolve ((shopDocument.inserting 2 shelvesEntity).entities.map
          (·.slug)) = .target "shelves" true ∨
        f.resolve ((shopDocument.inserting 2 shelvesEntity).entities.map
            (·.slug)) = .notReference := by
      decide +kernel
    intro f hf slug explicit hresolve
    rcases htargets f hf with htarget | hnone
    · obtain ⟨rfl, -⟩ := Resolution.target.inj (hresolve.symm.trans htarget)
      decide +kernel
    · cases hresolve.symm.trans hnone

/-- With shelves in their midst the products, invoices and all others of the
shop are served as they were. -/
theorem shopDocument_inserting_shelves :
    ∃ g g' out out', shopDocument.validateWith shopConfig = .ok g ∧
      (shopDocument.inserting 2 shelvesEntity).validateWith shopConfig = .ok g' ∧
      g'.servedEntities.map (·.slug) = ["categories",
        "products", "shelves", "invoices", "invoice_items"] ∧
      g'.edges.map (fun r => (r.source, r.target)) =
          [("products", "categories"), ("products", "products"),
        ("shelves", "shelves"), ("invoice_items", "invoices")] ∧
      shopDocument.Unrelated 2 shelvesEntity ∧
      g.generate .builtin = .ok out ∧ g'.generate .builtin = .ok out' ∧
      ∀ e ∈ shopDocument.kept shopConfig, e.isSystem = false →
        SchemaGraph.ServedAlike .builtin g g' out out' "shelves" e := by
  obtain ⟨g, h⟩ : ∃ g, shopDocument.validateWith shopConfig = .ok g := ⟨_, rfl⟩
  obtain ⟨g', h', hserved, hedges⟩ : ∃ g',
      (shopDocument.inserting 2 shelvesEntity).validateWith shopConfig = .ok g' ∧
      g'.servedEntities.map (·.slug) = ["categories",
        "products", "shelves", "invoices", "invoice_items"] ∧
      g'.edges.map (fun r => (r.source, r.target)) =
          [("products", "categories"), ("products", "products"),
        ("shelves", "shelves"), ("invoice_items", "invoices")] :=
    ⟨_, rfl, rfl, rfl⟩
  obtain ⟨out, out', hout, hout', halike⟩ :=
    Document.inserting_servedAlike h h' shelvesEntity_unrelated .builtin
  exact ⟨g, g', out, out', h, h', hserved, hedges,
    shelvesEntity_unrelated, hout, hout', halike⟩

end ServiceLoom
