import ServiceLoom.Proofs.Rule.DeleteGuard
import ServiceLoom.Proofs.Schema.Validation
import ServiceLoom.Plan.Compiler

/-!
# The guard of an entity

The guard is built edge by edge: an edge goes to the dependent of its source,
which is added when it is the first.  The edges of an accepted document stand
entity by entity, and slugs are distinct, so each stretch of edges opens one
dependent at the end and fills it, and earlier dependents are never touched
again (`foldl_addDependent_stretch`).  From this the guard can be read off the
graph, and with what a check collects (`DeleteGuard.check_run`) follows when a
row may be removed and what is answered when it may not.
-/

namespace ServiceLoom

/-- The field through which a reference is held. -/
def ReferenceEdge.refField (r : ReferenceEdge) : RefField :=
  ⟨r.field, r.multiple⟩

namespace SchemaGraph

/-- The references of one entity to another, in graph order. -/
def edgesBetween (g : SchemaGraph) (source target : String) :
    List ReferenceEdge :=
  g.edges.filter fun r => r.source = source && r.target = target

/-- The entities other than the target that refer to it, in entity order. -/
def referringTo (g : SchemaGraph) (target : String) : List String :=
  (g.entities.map (·.slug)).filter fun s =>
    decide (s ≠ target ∧ ∃ r ∈ g.edges, r.source = s ∧ r.target = target)

variable (g : SchemaGraph)

/-- A further edge of the last dependent's source joins its fields. -/
theorem foldl_addDependent_open {source display : String}
    {edges : List ReferenceEdge} (hsource : ∀ r ∈ edges, r.source = source)
    {before : List DependentSpec} (hbefore : ∀ d ∈ before, d.entity ≠ source)
    (fields : List RefField) :
    edges.foldl g.addDependent (before ++ [⟨source, display, fields⟩]) =
      before ++ [⟨source, display, fields ++ edges.map (·.refField)⟩] := by
  induction edges generalizing fields with
  | nil => simp
  | cons r rest ih =>
      have hr : r.source = source := hsource r List.mem_cons_self
      have hkeep : before.map (fun d => if d.entity = source then
          { d with fields := d.fields ++ [⟨r.field, r.multiple⟩] }
              else d) = before := by
        refine (List.map_congr_left fun d hd => ?_).trans (List.map_id before)
        rw [if_neg (hbefore d hd), id]
      have hstep : g.addDependent (before ++ [⟨source, display, fields⟩]) r =
          before ++ [⟨source, display, fields ++ [r.refField]⟩] := by
        simp [addDependent, hr, hkeep, ReferenceEdge.refField]
      rw [List.foldl_cons, hstep,
        ih fun r hr => hsource r (List.mem_cons_of_mem _ hr)]
      simp

/-- **A stretch of edges with one source opens one dependent**, unless it is
empty. -/
theorem foldl_addDependent_stretch {source : String}
    {edges : List ReferenceEdge} (hsource : ∀ r ∈ edges, r.source = source)
    {before : List DependentSpec} (hbefore : ∀ d ∈ before, d.entity ≠ source) :
    edges.foldl g.addDependent before =
      before ++ if edges = [] then [] else
        [⟨source, g.displayFieldOf source, edges.map (·.refField)⟩] := by
  cases edges with
  | nil => simp
  | cons r rest =>
      have hr : r.source = source := hsource r List.mem_cons_self
      have habsent : before.any (fun d => d.entity = source) = false := by
        simpa using hbefore
      have hstep : g.addDependent before r =
          before ++ [⟨source, g.displayFieldOf source, [r.refField]⟩] := by
        simp only [addDependent, hr, habsent]
        rfl
      rw [List.foldl_cons, hstep, foldl_addDependent_open g
        (fun r hr => hsource r (List.mem_cons_of_mem _ hr)) hbefore]
      simp

/-- The dependents of stretches with distinct sources are those of the stretches
that are not empty. -/
theorem foldl_addDependent_stretches
    {stretch : String → List ReferenceEdge} {sources : List String}
    (hsource : ∀ s ∈ sources, ∀ r ∈ stretch s, r.source = s)
    (hnodup : sources.Nodup) {before : List DependentSpec}
    (hbefore : ∀ d ∈ before, d.entity ∉ sources) :
    (sources.flatMap stretch).foldl g.addDependent before =
      before ++ (sources.filter (stretch · ≠ [])).map fun s =>
        ⟨s, g.displayFieldOf s, (stretch s).map (·.refField)⟩ := by
  induction sources generalizing before with
  | nil => simp
  | cons s rest ih =>
      have hsplit := List.nodup_cons.mp hnodup
      have hrest : ∀ t ∈ rest, ∀ r ∈ stretch t, r.source = t :=
        fun t ht => hsource t (List.mem_cons_of_mem _ ht)
      rw [List.flatMap_cons, List.foldl_append,
        foldl_addDependent_stretch g (hsource s List.mem_cons_self)
          fun d hd heq => hbefore d hd (heq ▸ List.mem_cons_self)]
      by_cases hempty : stretch s = []
      · rw [if_pos hempty, List.append_nil, ih hrest hsplit.2
          fun d hd hmem => hbefore d hd (List.mem_cons_of_mem _ hmem)]
        simp [hempty]
      · rw [if_neg hempty, ih hrest hsplit.2 ?_]
        · simp [hempty]
        · intro d hd hmem
          rcases List.mem_append.mp hd with hd | hd
          · exact hbefore d hd (List.mem_cons_of_mem _ hmem)
          · obtain rfl := List.mem_singleton.mp hd
            exact hsplit.1 hmem

/-- The rows of an entity that hold an identifier through a reference to its
target, in storage order. -/
def holders (s : Store) (source target id : String) : List Record :=
  (s.rows source).filter fun row =>
    ∃ r ∈ g.edgesBetween source target, r.refField.Holds row id

/-- How a row of an entity is shown: its identifier, and its display field or
else the identifier. -/
def rowShown (source : String) (row : Record) : PreviewRow where
  id := row.id?.getD ""
  display := ((row.filled? (g.displayFieldOf source)).map Json.plainText).getD
    (row.id?.getD "")

/-- What is reported of an entity whose rows hold an identifier. -/
def blocker (s : Store) (source target id : String) : DependentRecord where
  entity := source
  via := (g.edgesBetween source target).map (·.field)
  count := (g.holders s source target id).length
  preview := ((g.holders s source target id).take 10).map (g.rowShown source)

/-- The dependent of a source. -/
def dependentOf (source target : String) : DependentSpec where
  entity := source
  displayField := g.displayFieldOf source
  fields := (g.edgesBetween source target).map (·.refField)

/-- A row is found by a dependent when it is a holder. -/
theorem filter_refers_dependentOf (s : Store) (source target id : String) :
    (s.rows source).filter ((g.dependentOf source target).refers · id) =
      g.holders s source target id := by
  refine List.filter_congr fun row _ => ?_
  rw [Bool.eq_iff_iff, DependentSpec.refers_iff, decide_eq_true_iff]
  simp [dependentOf]

/-- A dependent shows rows of its source. -/
theorem previewOf_dependentOf (source target : String) :
    (g.dependentOf source target).previewOf = g.rowShown source := rfl

/-- A dependent reports its holders, if it has any. -/
theorem recordOf?_dependentOf (s : Store) (source target id : String) :
    (g.dependentOf source target).recordOf? (s.rows source) id =
      if g.holders s source target id = [] then none
      else some (g.blocker s source target id) := by
  have hfound := g.filter_refers_dependentOf s source target id
  simp only [DependentSpec.recordOf?, hfound, List.isEmpty_iff]
  split
  · rfl
  · rw [previewOf_dependentOf]
    simp [blocker, dependentOf, Function.comp_def,
      ReferenceEdge.refField, previewLimit]

end SchemaGraph

namespace Document

variable {d : Document} {config : ModuleConfig} {g : SchemaGraph}

/-- An entity that refers to another is kept. -/
theorem referringTo_eq (h : d.validateWith config = .ok g) (target : String) :
    g.referringTo target = ((d.kept config).map (·.slug)).filter fun s =>
      decide (s ≠ target ∧ ∃ r ∈ g.edges, r.source = s ∧ r.target = target) := by
  rw [SchemaGraph.referringTo, (validateWith_ok h).2.2,
    List.map_append, List.filter_append]
  refine List.append_right_eq_self.mpr (List.filter_eq_nil_iff.mpr ?_)
  intro s hs hrefers
  obtain ⟨a, ha, rfl⟩ := List.mem_map.mp hs
  obtain ⟨-, r, hr, hsource, -⟩ := of_decide_eq_true hrefers
  obtain ⟨b, hb, hslug⟩ := exists_source h hr
  exact (mem_systemEntities ha).2 b hb (hslug.trans hsource)

/-- The references to a target from other entities stand entity by entity. -/
theorem edgesTo_eq_flatMap (h : d.validateWith config = .ok g)
    (target : String) :
    (g.edgesTo target).filter (·.source ≠ target) =
      ((d.kept config).map (·.slug)).flatMap fun s =>
        if s = target then [] else g.edgesBetween s target := by
  rw [SchemaGraph.edgesTo, edges_eq_flatMap_edgesFrom h,
    List.filter_flatMap, List.filter_flatMap]
  refine List.flatMap_congr fun s _ => ?_
  rw [SchemaGraph.edgesFrom, List.filter_filter, List.filter_filter]
  split
  next hs =>
    rw [List.filter_eq_nil_iff]
    intro r _ hr
    simp only [Bool.and_eq_true, decide_eq_true_eq] at hr
    exact hr.1.1 (hr.2.trans hs)
  next hs =>
    refine List.filter_congr fun r _ => ?_
    rw [Bool.eq_iff_iff]
    simp only [Bool.and_eq_true, decide_eq_true_eq]
    constructor
    · rintro ⟨⟨-, htarget⟩, hsource⟩
      exact ⟨hsource, htarget⟩
    · rintro ⟨hsource, htarget⟩
      exact ⟨⟨fun heq => hs (hsource.symm.trans heq), htarget⟩, hsource⟩

/-- **The guard has one dependent for each entity that refers to the target**,
in entity order, with all fields that do so. -/
theorem dependents_eq (h : d.validateWith config = .ok g) (target : String) :
    (g.deleteGuard target).dependents =
      (g.referringTo target).map (g.dependentOf · target) := by
  have hstretch : ∀ s ∈ (d.kept config).map (·.slug),
      ∀ r ∈ (if s = target then [] else g.edgesBetween s target),
          r.source = s := by
    intro s _ r hr
    split at hr
    · cases hr
    · have hends := (List.mem_filter.mp hr).2
      simp only [Bool.and_eq_true, decide_eq_true_eq] at hends
      exact hends.1
  rw [SchemaGraph.deleteGuard, edgesTo_eq_flatMap h,
    SchemaGraph.foldl_addDependent_stretches g hstretch (kept_nodup h) (by simp),
    List.nil_append, referringTo_eq h]
  have hfilter : ((d.kept config).map (·.slug)).filter
      (fun s =>
        decide ((if s = target then [] else g.edgesBetween s target) ≠ [])) =
      ((d.kept config).map (·.slug)).filter fun s =>
        decide (s ≠ target ∧ ∃ r ∈ g.edges, r.source = s ∧
            r.target = target) := by
    refine List.filter_congr fun s _ => ?_
    rw [decide_eq_decide]
    by_cases hs : s = target
    · simp [hs]
    · rw [if_neg hs, SchemaGraph.edgesBetween]
      simp [List.filter_eq_nil_iff, hs]
  rw [hfilter]
  refine List.map_congr_left fun s hs => ?_
  have hne : s ≠ target := (of_decide_eq_true (List.mem_filter.mp hs).2).1
  simp only [if_neg hne]
  rfl

/-- Exactly the other sources of edges refer to a target. -/
theorem mem_referringTo_iff (h : d.validateWith config = .ok g)
    {target source : String} :
    source ∈ g.referringTo target ↔
      source ≠ target ∧ ∃ r ∈ g.edges, r.source = source ∧
        r.target = target := by
  rw [referringTo_eq h, List.mem_filter, decide_eq_true_iff,
    and_iff_right_iff_imp]
  rintro ⟨-, r, hr, hsource, -⟩
  obtain ⟨a, ha, hslug⟩ := exists_source h hr
  exact List.mem_map.mpr ⟨a, ha, hslug.trans hsource⟩

/-- No entity refers twice: slugs of kept entities are distinct. -/
theorem referringTo_nodup (h : d.validateWith config = .ok g)
    (target : String) : (g.referringTo target).Nodup := by
  rw [referringTo_eq h]
  exact (kept_nodup h).filter _

/-- The fields of all dependents are those of all references from other
entities, in graph order. -/
theorem flatMap_fields_eq (h : d.validateWith config = .ok g)
    (target : String) :
    (g.deleteGuard target).dependents.flatMap (·.fields) =
      ((g.edgesTo target).filter (·.source ≠ target)).map (·.refField) := by
  rw [dependents_eq h, List.flatMap_map, edgesTo_eq_flatMap h,
    referringTo_eq h, List.map_flatMap]
  induction (d.kept config).map (·.slug) with
  | nil => rfl
  | cons s rest ih =>
      rw [List.filter_cons, List.flatMap_cons, ← ih]
      split
      next hrefers =>
        have hne : s ≠ target := (of_decide_eq_true hrefers).1
        simp [hne, SchemaGraph.dependentOf]
      next hrefers =>
        by_cases hs : s = target
        · simp [hs]
        · have hnone : g.edgesBetween s target = [] := by
            simpa [SchemaGraph.edgesBetween, List.filter_eq_nil_iff,
              hs] using hrefers
          simp [hs, hnone]

/-- What a guard finds is reported entity by entity. -/
theorem found_eq (h : d.validateWith config = .ok g) (s : Store)
    (target id : String) :
    DeleteGuard.found s id (g.deleteGuard target).dependents =
      ((g.referringTo target).filter fun source =>
        g.holders s source target id ≠ []).map
        fun source => g.blocker s source target id := by
  rw [DeleteGuard.found, dependents_eq h, List.filterMap_map,
    ← List.filterMap_eq_map, List.filterMap_filter]
  refine List.filterMap_congr fun source _ => ?_
  show (g.dependentOf source target).recordOf? (s.rows source) id = _
  rw [SchemaGraph.recordOf?_dependentOf]
  by_cases hempty : g.holders s source target id = [] <;> simp [hempty]

end Document

/-- What a guard does for the rows of an entity of a graph. -/
structure DeleteGuard.Covers (guard : DeleteGuard) (g : SchemaGraph)
    (target : String) : Prop where
  /-- One dependent for each other entity that refers to the target, in entity
  order. -/
  entities_eq : guard.dependents.map (·.entity) = g.referringTo target
  referringTo_nodup : (g.referringTo target).Nodup
  mem_referringTo : ∀ source, source ∈ g.referringTo target ↔
    source ≠ target ∧ ∃ r ∈ g.edges, r.source = source ∧ r.target = target
  /-- No reference is lost, doubled or moved. -/
  fields_eq : guard.dependents.flatMap (·.fields) =
    ((g.edgesTo target).filter (·.source ≠ target)).map (·.refField)
  /-- The store is left alone, whatever the answer. -/
  store_eq : ∀ host outage s id,
    (∀ source ∈ g.referringTo target, outage .findAll source = false) →
    ((guard.check id).run host outage s).2 = s
  ok_iff : ∀ host outage s id,
    (∀ source ∈ g.referringTo target, outage .findAll source = false) →
    (((guard.check id).run host outage s).1 = .ok () ↔
      ∀ r ∈ g.edges, r.target = target → r.source ≠ target →
        ∀ row ∈ s.rows r.source, ¬ r.refField.Holds row id)
  /-- Otherwise every entity with holders is reported, in entity order. -/
  blocked : ∀ host outage s id,
    (∀ source ∈ g.referringTo target, outage .findAll source = false) →
    ((guard.check id).run host outage s).1 ≠ .ok () →
    ((guard.check id).run host outage s).1 = .error (.refused (.deleteBlocked
      (((g.referringTo target).filter fun source =>
        g.holders s source target id ≠ []).map
        fun source => g.blocker s source target id)))

/-- **The guard of an accepted document covers its target.** Its dependents are
the other entities with an edge to the target and hold all those edges in order;
a row goes exactly when nothing holds its identifier through one of them; and a
refusal reports every holder once. -/
theorem Document.deleteGuard_covers {d : Document} {config : ModuleConfig}
    {g : SchemaGraph} (h : d.validateWith config = .ok g) (target : String) :
    (g.deleteGuard target).Covers g target := by
  have hentity : ∀ dep ∈ (g.deleteGuard target).dependents,
      dep.entity ∈ g.referringTo target := by
    intro dep hdep
    rw [Document.dependents_eq h] at hdep
    obtain ⟨source, hsource, rfl⟩ := List.mem_map.mp hdep
    exact hsource
  exact {
    entities_eq := by
      rw [Document.dependents_eq h, List.map_map]
      exact List.map_id _
    referringTo_nodup := Document.referringTo_nodup h target
    mem_referringTo := fun source => Document.mem_referringTo_iff h
    fields_eq := Document.flatMap_fields_eq h target
    store_eq := by
      intro host outage s id hread
      rw [DeleteGuard.check_run host outage s id fun dep hdep =>
        hread _ (hentity dep hdep)]
    ok_iff := by
      intro host outage s id hread
      rw [DeleteGuard.check_ok_iff host outage s id fun dep hdep =>
          hread _ (hentity dep hdep), Document.dependents_eq h]
      constructor
      · intro hnone r hr htarget hsource row hrow
        have hrefers : r.source ∈ g.referringTo target :=
          (Document.mem_referringTo_iff h).mpr ⟨hsource, r, hr, rfl, htarget⟩
        have hbetween : r ∈ g.edgesBetween r.source target :=
          List.mem_filter.mpr ⟨hr, by simp [htarget]⟩
        exact hnone _ (List.mem_map_of_mem hrefers)
          row hrow _ (List.mem_map_of_mem hbetween)
      · intro hnone dep hdep row hrow f hf
        obtain ⟨source, hsource, rfl⟩ := List.mem_map.mp hdep
        obtain ⟨r, hbetween, rfl⟩ := List.mem_map.mp hf
        obtain ⟨hr, hends⟩ := List.mem_filter.mp hbetween
        simp only [Bool.and_eq_true, decide_eq_true_eq] at hends
        obtain ⟨rfl, htarget⟩ := hends
        have hne : r.source ≠ target :=
          ((Document.mem_referringTo_iff h).mp hsource).1
        exact hnone r hr htarget hne row hrow
    blocked := by
      intro host outage s id hread hblocked
      have hrun := DeleteGuard.check_run host outage s id fun dep hdep =>
          hread _ (hentity dep hdep)
      rw [hrun] at hblocked ⊢
      rw [← Document.found_eq h]
      split at hblocked
      · exact absurd rfl hblocked
      next hfound => rw [if_neg hfound] }

/-- A store with two categories, one of which a product holds. -/
def shopStore : Store where
  collections := [
    ("categories", [[("id", .string "c1")], [("id", .string "c2")]]),
    ("products", [[("id", .string "p1"), ("category_id", .string "c2")]])]
  issued := 3

/-- The guard of the shop's categories covers them: it blocks the category that
is held, and no other. -/
theorem shopDocument_categories_covered :
    ∃ g, shopDocument.validateWith shopConfig = .ok g ∧
      (g.deleteGuard "categories").Covers g "categories" ∧
      ∀ host, (((g.deleteGuard "categories").check "c1").run
        host Outage.none shopStore).1 = .ok () ∧
        (((g.deleteGuard "categories").check "c2").run
          host Outage.none shopStore).1 =
          .error (.refused (.deleteBlocked
            [⟨"products", ["category_id"], 1, [⟨"p1", "c2"⟩]⟩])) := by
  have haccepted : shopDocument.validateWith shopConfig = .ok _ := rfl
  exact ⟨_, haccepted, Document.deleteGuard_covers haccepted "categories",
    fun _ => ⟨rfl, rfl⟩⟩

end ServiceLoom
