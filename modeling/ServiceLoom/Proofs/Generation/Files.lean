import ServiceLoom.Pattern.Builtin
import ServiceLoom.Proofs.Generation.ServiceText
import ServiceLoom.Proofs.Schema.Validation
import ServiceLoom.Proofs.Template.Identifier

/-!
# The files of a schema

Services and routes have a folder each, with a module for every entity and an
index that declares the modules. Modules go by names and not by slugs, so
entities of different slugs may come to one path.

* `SchemaGraph.generate_eq` — which files there are;
* `declaredModules_servicesIndex`, `declaredModules_routesIndex` — what the
  indices declare;
* `Document.generated_apart_iff` — when every path is there once, and every
  module declared once.
-/

namespace ServiceLoom

open Template

/-! ## Declarations -/

/-- How a declaration starts. -/
def declarationStart : List Char := ['p', 'u', 'b', ' ', 'm', 'o', 'd', ' ']

/-- The module that a line declares. -/
def declaredModule? (line : List Char) : Option String :=
  if declarationStart.isPrefixOf line then
    some (String.ofList ((line.drop declarationStart.length).takeWhile (· ≠ ';')))
  else none

/-- The modules that a text declares, in order. -/
def declaredModules (text : String) : List String :=
  (lines text.toList).filterMap declaredModule?

/-- Declarations are looked for line by line. -/
theorem declaredModules_append {s : String} (h : EndsLine s.toList)
    (t : String) :
    declaredModules (s ++ t) = declaredModules s ++ declaredModules t := by
  rw [declaredModules, String.toList_append, h.lines_append,
    List.filterMap_append]
  rfl

/-- A text of whole lines without declarations. -/
structure DeclaresNothing (s : String) : Prop where
  ends : EndsLine s.toList
  none_declared : declaredModules s = []

/-- What is true of the characters of a text is true of the text. -/
theorem DeclaresNothing.of_spelled {s : String} {cs : List Char}
    (hs : s = String.ofList cs) (hends : cs.getLast? = some '\n')
    (hnone : (lines cs).filterMap declaredModule? = []) :
    DeclaresNothing s where
  ends := by
    intro c hc
    rw [hs, String.toList_ofList, hends] at hc
    exact (Option.some.inj hc).symm
  none_declared := by
    rw [declaredModules, hs, String.toList_ofList]
    exact hnone

/-- A text without declarations adds none to what follows. -/
theorem DeclaresNothing.declaredModules_append {s : String}
    (h : DeclaresNothing s) (t : String) :
    declaredModules (s ++ t) = declaredModules t := by
  rw [ServiceLoom.declaredModules_append h.ends, h.none_declared,
    List.nil_append]

/-- A line that starts with a blank declares nothing. -/
theorem filterMap_declaredModule?_blank {cs : List Char} (h : '\n' ∉ cs)
    (rest : List Char) :
    (lines ((' ' :: cs) ++ '\n' :: rest)).filterMap declaredModule? =
      (lines rest).filterMap declaredModule? := by
  have hline : '\n' ∉ ' ' :: cs := by simpa using h
  rw [lines_append hline, List.cons_append, List.filterMap_cons_none rfl]

namespace SchemaGraph

variable (e : Entity) (entities : List Entity)

/-- A module name is part of one line, and of one declaration. -/
theorem ne_of_mem_moduleName {slug : String} {c : Char}
    (h : c ∈ (moduleName slug).toList) : c ≠ '\n' ∧ c ≠ ';' := by
  have hkept := moduleChar_of_mem h
  constructor <;> rintro rfl <;> revert hkept <;> decide

/-- The line of an entity by its characters. -/
theorem toList_moduleLine : (moduleLine e).toList =
    (declarationStart ++ ((moduleName e.slug).toList ++ [';'])) ++ ['\n'] := by
  have hstart : "pub mod ".toList = declarationStart := by decide
  rw [moduleLine, String.toList_append, String.toList_append, hstart,
    List.append_assoc, List.append_assoc, List.append_assoc]
  rfl

theorem endsLine_moduleLine : EndsLine (moduleLine e).toList := by
  rw [toList_moduleLine]
  exact endsLine_concat _

/-- The line of an entity declares its module. -/
theorem declaredModules_moduleLine :
    declaredModules (moduleLine e) = [moduleName e.slug] := by
  have hbreak : '\n' ∉ declarationStart ++
      ((moduleName e.slug).toList ++ [';']) := by
    simp only [List.mem_append, not_or]
    exact ⟨by decide, fun hmem => (ne_of_mem_moduleName hmem).1 rfl, by decide⟩
  have hname :
      ((moduleName e.slug).toList ++ ([';'] ++ ['\n'])).takeWhile (· ≠ ';') =
      (moduleName e.slug).toList := by
    rw [List.takeWhile_append_of_pos fun c hc =>
        by simpa using (ne_of_mem_moduleName hc).2, List.singleton_append,
      List.takeWhile_cons_of_neg (by decide), List.append_nil]
  have hstarts : declarationStart.isPrefixOf
      (declarationStart ++ ((moduleName e.slug).toList ++ ([';'] ++ ['\n']))) =
          true :=
    List.isPrefixOf_iff_prefix.mpr (List.prefix_append _ _)
  rw [declaredModules, toList_moduleLine, lines_append hbreak,
    List.append_assoc, List.append_assoc]
  rw [lines, List.filterMap_cons, declaredModule?,
    if_pos hstarts, List.drop_left, hname, String.ofList_toList]
  rfl

/-- The lines of entities declare their modules, in order, whatever follows. -/
theorem declaredModules_moduleLines (rest : String) :
    declaredModules (String.join (entities.map moduleLine) ++ rest) =
      entities.map (moduleName ·.slug) ++ declaredModules rest := by
  induction entities with
  | nil => simp
  | cons e es ih =>
      rw [List.map_cons, String.join_cons,
        String.append_assoc, declaredModules_append (endsLine_moduleLine e),
        declaredModules_moduleLine, ih]
      rfl

theorem declaresNothing_header : DeclaresNothing generatedHeader :=
  .of_spelled rfl (by decide) (by decide)

/-- **The index of the services** declares the modules of the entities, in
order. -/
theorem declaredModules_servicesIndex :
    declaredModules (servicesIndex entities) =
      entities.map (moduleName ·.slug) := by
  have hblank : DeclaresNothing "\n" := .of_spelled rfl (by decide) (by decide)
  have hlines := declaredModules_moduleLines entities ""
  rw [String.append_empty] at hlines
  rw [servicesIndex,
    String.append_assoc, declaresNothing_header.declaredModules_append,
    hblank.declaredModules_append, hlines]
  exact List.append_nil _

/-- What adds the routes of an entity to the router is a line that starts with a
blank. -/
theorem exists_mergeLine_eq : ∃ cs, '\n' ∉ cs ∧
      (mergeLine e).toList = '\n' :: ' ' :: cs := by
  have hmodule : '\n' ∉ (moduleName e.slug).toList :=
    fun hmem => (ne_of_mem_moduleName hmem).1 rfl
  have htype : '\n' ∉ (typeName e.slug).toList := by
    have hletters : ∀ c ∈ (Names.pascal e.slug).toList.filter Char.isAlphanum,
        c ≠ '\n' := by
      rintro c hc rfl
      exact absurd (List.mem_filter.mp hc).2 (by decide)
    unfold typeName
    dsimp only
    rw [String.toList_ofList]
    split
    next => exact fun hmem =>
      (List.mem_cons.mp hmem).elim (by decide) fun hmem => hletters _ hmem rfl
    next => exact fun hmem => hletters _ hmem rfl
  have hstart : "\n        .merge(".toList =
      '\n' :: ' ' :: "       .merge(".toList := by decide
  unfold mergeLine serviceName
  dsimp only
  simp only [String.toList_append, List.append_assoc, hstart, List.cons_append]
  refine ⟨_, ?_, rfl⟩
  simp only [List.mem_append, not_or]
  exact ⟨by
    decide, hmodule, by decide, hmodule, by decide, htype, by decide, by decide⟩

/-- The lines that add routes to the router declare nothing, and neither does
the end of the router. -/
theorem filterMap_declaredModule?_mergeLines {cs : List Char} (h : '\n' ∉ cs) :
    (lines ((' ' :: cs) ++ (entities.flatMap (mergeLine · |>.toList) ++
      ['\n', '\x7d', '\n']))).filterMap
      declaredModule? = [] := by
  induction entities generalizing cs with
  | nil => exact filterMap_declaredModule?_blank h ['\x7d', '\n']
  | cons e es ih =>
      obtain ⟨next, hnext, heq⟩ := exists_mergeLine_eq e
      have hlines := filterMap_declaredModule?_blank h
        ((' ' :: next) ++
          (es.flatMap (mergeLine · |>.toList) ++ ['\n', '\x7d', '\n']))
      rw [List.flatMap_cons, heq, List.append_assoc,
        List.cons_append (a := '\n'), hlines]
      exact ih hnext

/-- **The index of the routes** declares the modules of the entities, in
order. -/
theorem declaredModules_routesIndex :
    declaredModules (routesIndex entities) =
      entities.map (moduleName ·.slug) := by
  have huses : DeclaresNothing
      "use std::sync::Arc;\n\nuse axum::Router;\nuse erpforge_core::Repository;\n\n" :=
    .of_spelled rfl (by decide) (by decide)
  have hservices : DeclaresNothing "use crate::services;\n\n" :=
    .of_spelled rfl (by decide) (by decide)
  have hcomment : DeclaresNothing
      "\n/// Router serving every generated entity from one repository.\n" :=
    .of_spelled rfl (by decide) (by decide)
  have hfunction : DeclaresNothing
      "pub fn router(repo: Arc<dyn Repository>) -> Router \x7b\n" :=
    .of_spelled rfl (by decide) (by decide)
  have hrouter :
      declaredModules ("    Router::new()" ++
          (String.join (entities.map mergeLine) ++ "\n\x7d\n")) = [] := by
    have hstart : "    Router::new()".toList =
        ' ' :: "   Router::new()".toList := by decide
    have hend : "\n\x7d\n".toList = ['\n', '\x7d', '\n'] := by decide
    rw [declaredModules, String.toList_append, String.toList_append,
      String.toList_join, List.flatMap_map, hstart, hend]
    exact filterMap_declaredModule?_mergeLines entities (by decide)
  simp only [routesIndex, String.append_assoc]
  rw [declaresNothing_header.declaredModules_append,
    huses.declaredModules_append, hservices.declaredModules_append,
    declaredModules_moduleLines, hcomment.declaredModules_append,
    hfunction.declaredModules_append, hrouter, List.append_nil]

end SchemaGraph

/-! ## Folders -/

/-- The path of a module in a folder. -/
def modulePath (folder name : String) : String := folder ++ name ++ ".rs"

/-- The folders of modules: one for services and one for routes. -/
def moduleFolders : List String := ["src/services/", "src/routes/"]

/-- No two modules of a folder have one path. -/
theorem modulePath_inj {folder a b : String} :
    modulePath folder a = modulePath folder b ↔ a = b := by
  unfold modulePath
  rw [String.append_left_inj, String.append_right_inj]

/-- The files of a folder: a module for each entity, and the index. -/
def folderFiles (folder : String) (content : Entity → String) (index : String)
    (entities : List Entity) : List GeneratedFile :=
  entities.map (fun e => ⟨modulePath folder (moduleName e.slug), content e⟩) ++
    [⟨modulePath folder "mod", index⟩]

/-- What a text is to a folder when it is its index: the file at the path of the
index holds it, and no other does; it declares the modules that there are files
of, and no others. -/
structure Generation.IndexedBy (out : Generation)
    (folder index : String) : Prop where
  mem : ⟨modulePath folder "mod", index⟩ ∈ out.files
  alone : ∀ f ∈ out.files, f.path = modulePath folder "mod" → f.content = index
  declared_iff : ∀ name, name ∈ declaredModules index ↔
    name ≠ "mod" ∧ ∃ f ∈ out.files, f.path = modulePath folder name

/-- A list of steps that all succeed gives the list of their results. -/
theorem mapM_eq_ok {ε α β : Type} {f : α → Except ε β} {F : α → β} {xs : List α}
    (h : ∀ x ∈ xs, f x = .ok (F x)) : xs.mapM f = .ok (xs.map F) := by
  induction xs with
  | nil => rfl
  | cons x rest ih =>
      rw [List.mapM_cons, h x List.mem_cons_self,
        ih fun y hy => h y (List.mem_cons_of_mem _ hy)]
      rfl

namespace SchemaGraph

variable (g : SchemaGraph)

/-- The text of the service of an entity. -/
def serviceText [Pattern.Engine] (l : BundleLibrary) (e : Entity) : String :=
  String.join
    ((EntityPlan.ofEntity l g e).pieces.map (substitute (contextOf e.slug)))

/-- The text of the routes of an entity. -/
def routesText (e : Entity) : String :=
  substitute (contextOf e.slug) routesSkeleton

/-- The service module of an entity, and what is warned about. -/
def serviceModule [Pattern.Engine] (l : BundleLibrary) (e : Entity) :
    GeneratedFile × List String :=
  (⟨modulePath "src/services/" (moduleName e.slug), g.serviceText l e⟩,
    (EntityPlan.ofEntity l g e).warnings)

/-- The service modules with their index. -/
theorem services_eq [Pattern.Engine] (l : BundleLibrary) : g.services l = .ok {
    files := folderFiles "src/services/" (g.serviceText l)
      (servicesIndex g.servedEntities) g.servedEntities
    warnings := g.servedEntities.flatMap fun e =>
        (EntityPlan.ofEntity l g e).warnings } := by
  rw [services, mapM_eq_ok (F := g.serviceModule l)]
  · show Except.ok _ = Except.ok _
    rw [List.map_map, List.flatMap_map]
    rfl
  · intro e _
    rw [service_eq]
    rfl

/-- **The files of a schema**: a folder of services, a folder of routes, and the
manifest. -/
theorem generate_eq [Pattern.Engine] (l : BundleLibrary) : g.generate l = .ok {
    files :=
      folderFiles "src/services/" (g.serviceText l)
        (servicesIndex g.servedEntities) g.servedEntities ++
        (folderFiles "src/routes/" routesText (routesIndex g.servedEntities)
          g.servedEntities ++ (g.manifest l).files)
    warnings := g.warnings ++ g.servedEntities.flatMap fun e =>
        (EntityPlan.ofEntity l g e).warnings } := by
  have hroutes : g.routes =
      ⟨folderFiles "src/routes/" routesText (routesIndex g.servedEntities)
        g.servedEntities, []⟩ := rfl
  have hmanifest : (g.manifest l).warnings = [] := rfl
  rw [generate, services_eq, hroutes]
  show Except.ok _ = Except.ok _
  simp only [Generation.append, hmanifest, List.nil_append, List.append_nil]

end SchemaGraph

/-! ## Paths -/

/-- The paths of a folder: those of the modules, and that of the index. -/
theorem map_path_folderFiles (folder : String) (content : Entity → String)
    (index : String) (entities : List Entity) :
    (folderFiles folder content index entities).map (·.path) =
      (entities.map (moduleName ·.slug) ++ ["mod"]).map (modulePath folder) := by
  rw [folderFiles, List.map_append, List.map_map, List.map_append, List.map_map]
  rfl

/-- The index is in the way of no module. -/
theorem mod_not_mem_moduleNames (entities : List Entity) :
    "mod" ∉ entities.map (moduleName ·.slug) := by
  intro hmem
  obtain ⟨e, -, he⟩ := List.mem_map.mp hmem
  exact moduleName_ne_mod e.slug he

/-- A file of a folder has a path of the folder. -/
theorem exists_path_of_mem_folderFiles {folder index : String}
    {content : Entity → String} {entities : List Entity} {f : GeneratedFile}
    (h : f ∈ folderFiles folder content index entities) :
    ∃ name, f.path = modulePath folder name := by
  have hpath := List.mem_map_of_mem (f := (·.path)) h
  rw [map_path_folderFiles] at hpath
  obtain ⟨name, -, hname⟩ := List.mem_map.mp hpath
  exact ⟨name, hname.symm⟩

/-- The paths of a folder are distinct when the names are. -/
theorem nodup_modulePaths_iff (folder : String) (entities : List Entity) :
    ((entities.map (moduleName ·.slug) ++ ["mod"]).map (modulePath folder)).Nodup ↔
      (entities.map (moduleName ·.slug)).Nodup := by
  rw [List.nodup_map_iff fun a b => modulePath_inj.mp,
    ← List.concat_eq_append, List.nodup_concat]
  exact and_iff_right (mod_not_mem_moduleNames entities)

/-- No service has the path of a route module. -/
theorem servicePath_ne_routePath (a b : String) :
    modulePath "src/services/" a ≠ modulePath "src/routes/" b := by
  have hservices : "src/services/".toList =
      's' :: 'r' :: 'c' :: '/' :: 's' :: "ervices/".toList := by decide
  have hroutes : "src/routes/".toList = 's' :: 'r' ::
      'c' :: '/' :: 'r' :: "outes/".toList := by decide
  intro heq
  have hchars := String.toList_inj.mpr heq
  rw [modulePath, modulePath, String.toList_append, String.toList_append,
    String.toList_append, String.toList_append, hservices, hroutes] at hchars
  simp at hchars

/-- No module has the path of the manifest. -/
theorem modulePath_ne_manifest {folder : String} (h : folder ∈ moduleFolders)
    (name : String) : modulePath folder name ≠ "schema.json" := by
  have hfolder : ∀ folder ∈ moduleFolders, ∃ rest,
      folder.toList = 's' :: 'r' :: rest := by
    simp only [moduleFolders, List.forall_mem_cons]
    exact ⟨⟨"c/services/".toList, by decide⟩,
      ⟨"c/routes/".toList, by decide⟩, nofun⟩
  have hmanifest : "schema.json".toList = 's' :: 'c' :: "hema.json".toList := by
    decide
  obtain ⟨rest, hrest⟩ := hfolder folder h
  intro heq
  have hchars := String.toList_inj.mpr heq
  rw [modulePath, String.toList_append, String.toList_append,
    hrest, hmanifest] at hchars
  simp at hchars

/-! ## What the indices say of the files -/

/-- The index of a folder says which modules there are, when the other files
have no paths in the folder. -/
theorem Generation.indexedBy
    {out : Generation} {folder index : String} {content : Entity → String}
    {entities : List Entity} {before after : List GeneratedFile}
    (hfiles : out.files =
      before ++ (folderFiles folder content index entities ++ after))
    (hothers : ∀ f ∈ before ++ after, ∀ name, f.path ≠ modulePath folder name)
    (hindex : declaredModules index = entities.map (moduleName ·.slug)) :
    out.IndexedBy folder index := by
  have hcases : ∀ f ∈ out.files, ∀ name, f.path = modulePath folder name →
      name ∈ entities.map (moduleName ·.slug) ∨
          (name = "mod" ∧ f.content = index) := by
    intro f hf name hpath
    rw [hfiles] at hf
    rcases List.mem_append.mp hf with hf | hf
    · exact absurd hpath (hothers f (List.mem_append_left _ hf) name)
    rcases List.mem_append.mp hf with hf | hf
    · rcases List.mem_append.mp hf with hf | hf
      · obtain ⟨e, he, rfl⟩ := List.mem_map.mp hf
        exact .inl (modulePath_inj.mp hpath ▸ List.mem_map_of_mem he)
      · obtain rfl := List.mem_singleton.mp hf
        exact .inr ⟨(modulePath_inj.mp hpath).symm, rfl⟩
    · exact absurd hpath (hothers f (List.mem_append_right _ hf) name)
  have hin : ∀ f ∈ folderFiles folder content index entities,
      f ∈ out.files := by
    intro f hf
    rw [hfiles]
    exact List.mem_append_right _ (List.mem_append_left _ hf)
  refine ⟨hin _ (List.mem_append_right _ (List.mem_singleton_self _)),
    fun f hf hpath => ?_, fun name => ?_⟩
  · exact ((hcases f hf "mod" hpath).resolve_left
      (mod_not_mem_moduleNames entities)).2
  rw [hindex]
  constructor
  · intro hname
    obtain ⟨e, he, rfl⟩ := List.mem_map.mp hname
    exact ⟨moduleName_ne_mod e.slug, _,
      hin _ (List.mem_append_left _ (List.mem_map_of_mem he)), rfl⟩
  · rintro ⟨hne, f, hf, hpath⟩
    exact (hcases f hf name hpath).resolve_right fun hmod => hne hmod.1

namespace SchemaGraph

variable (g : SchemaGraph)

/-- The names of the modules, entity by entity. -/
def moduleNames : List String := g.servedEntities.map (moduleName ·.slug)

/-- **What is generated**: the files by their paths, and the two indices with
what they declare. -/
theorem exists_generated [Pattern.Engine] (l : BundleLibrary) :
    ∃ out, g.generate l = .ok out ∧
    out.files.map (·.path) =
      (g.moduleNames ++ ["mod"]).map (modulePath "src/services/") ++
      ((g.moduleNames ++ ["mod"]).map (modulePath "src/routes/") ++
        ["schema.json"]) ∧
    ∀ folder ∈ moduleFolders, ∃ index, out.IndexedBy folder index ∧
      declaredModules index = g.moduleNames := by
  refine ⟨_, g.generate_eq l, ?_, ?_⟩
  · simp only [List.map_append, map_path_folderFiles]
    rfl
  have hmanifest : ∀ f ∈ (g.manifest l).files, f.path = "schema.json" := by
    intro f hf
    obtain rfl := List.mem_singleton.mp hf
    rfl
  simp only [moduleFolders, List.forall_mem_cons]
  refine ⟨⟨servicesIndex g.servedEntities, ?_, declaredModules_servicesIndex _⟩,
    ⟨routesIndex g.servedEntities, ?_, declaredModules_routesIndex _⟩, nofun⟩
  · refine Generation.indexedBy (List.nil_append _).symm
      (fun f hf name hpath => ?_)
      (declaredModules_servicesIndex _)
    rw [List.nil_append] at hf
    rcases List.mem_append.mp hf with hf | hf
    · obtain ⟨other, hother⟩ := exists_path_of_mem_folderFiles hf
      exact servicePath_ne_routePath name other (hpath.symm.trans hother)
    · exact modulePath_ne_manifest (by decide) name
        (hpath.symm.trans (hmanifest f hf))
  · refine Generation.indexedBy rfl (fun f hf name hpath => ?_)
      (declaredModules_routesIndex _)
    rcases List.mem_append.mp hf with hf | hf
    · obtain ⟨other, hother⟩ := exists_path_of_mem_folderFiles hf
      exact servicePath_ne_routePath other name (hother.symm.trans hpath)
    · exact modulePath_ne_manifest (by decide) name
        (hpath.symm.trans (hmanifest f hf))

/-- The paths of all files are distinct when the names of the modules are. -/
theorem nodup_paths_iff :
    ((g.moduleNames ++ ["mod"]).map (modulePath "src/services/") ++
    ((g.moduleNames ++ ["mod"]).map (modulePath "src/routes/") ++
      ["schema.json"])).Nodup ↔ g.moduleNames.Nodup := by
  have hservices := nodup_modulePaths_iff "src/services/" g.servedEntities
  have hroutes := nodup_modulePaths_iff "src/routes/" g.servedEntities
  have hmanifest : ∀ folder ∈ moduleFolders,
      ∀ path ∈ (g.moduleNames ++ ["mod"]).map (modulePath folder),
      path ≠ "schema.json" := by
    intro folder hfolder path hpath
    obtain ⟨name, -, rfl⟩ := List.mem_map.mp hpath
    exact modulePath_ne_manifest hfolder name
  rw [List.nodup_append, List.nodup_append]
  constructor
  · exact fun h => hservices.mp h.1
  · intro h
    refine ⟨hservices.mpr h, ⟨hroutes.mpr h, List.nodup_singleton _, ?_⟩, ?_⟩
    · intro path hpath other hother
      rw [List.mem_singleton.mp hother]
      exact hmanifest _ (by decide) path hpath
    · intro path hpath other hother
      rcases List.mem_append.mp hother with hother | hother
      · obtain ⟨name, -, rfl⟩ := List.mem_map.mp hpath
        obtain ⟨route, -, rfl⟩ := List.mem_map.mp hother
        exact servicePath_ne_routePath name route
      · rw [List.mem_singleton.mp hother]
        exact hmanifest _ (by decide) path hpath

/-- Entities of different slugs do not share a module name. -/
def NamesApart : Prop :=
  ∀ a ∈ g.servedEntities, ∀ b ∈ g.servedEntities, a.slug ≠ b.slug →
    ¬ SharesName a.slug b.slug

/-- Slugs in the characters of a module name that can name a module as they are
are apart. -/
theorem namesApart_of_plain {g : SchemaGraph}
    (h : ∀ e ∈ g.servedEntities, folded e.slug = e.slug ∧
      needsLetter e.slug.toList = false ∧ e.slug ∉ keywords) :
    g.NamesApart := by
  have hself : ∀ e ∈ g.servedEntities, moduleName e.slug = e.slug :=
    fun e he => moduleName_eq_self_iff.mpr (h e he)
  intro a ha b hb hne hshares
  refine hne ?_
  calc
    a.slug = moduleName a.slug := (hself a ha).symm
    _ = moduleName b.slug := moduleName_eq_iff.mpr hshares
    _ = b.slug := hself b hb

end SchemaGraph

namespace Document

variable {d : Document} {config : ModuleConfig} {g : SchemaGraph}

/-- The served entities of an accepted document are the kept ones that are not
internal. -/
theorem servedEntities_eq (h : d.validateWith config = .ok g) :
    g.servedEntities = (d.kept config).filter (!·.isSystem) := by
  have hinternal :
      (systemEntities (d.kept config) config).filter (!·.isSystem) = [] := by
    refine List.filter_eq_nil_iff.mpr fun e he => ?_
    rw [(mem_systemEntities he).1]
    decide
  rw [SchemaGraph.servedEntities, (validateWith_ok h).2.2,
    List.filter_append, hinternal, List.append_nil]

/-- No two served entities have one slug. -/
theorem nodup_slug_servedEntities (h : d.validateWith config = .ok g) :
    (g.servedEntities.map (·.slug)).Nodup := by
  rw [servedEntities_eq h]
  exact (kept_nodup h).sublist (List.filter_sublist.map _)

/-- The names of the modules are distinct when those of different slugs are. -/
theorem nodup_moduleNames_iff (h : d.validateWith config = .ok g) :
    g.moduleNames.Nodup ↔ g.NamesApart := by
  have hnames : g.moduleNames =
      (g.servedEntities.map (·.slug)).map moduleName := by
    rw [List.map_map]
    rfl
  rw [hnames, List.nodup_map_iff_inj_on (nodup_slug_servedEntities h)]
  constructor
  · intro hinj a ha b hb hne hshares
    exact hne (hinj _ (List.mem_map_of_mem ha) _ (List.mem_map_of_mem hb)
      (moduleName_eq_iff.mpr hshares))
  · intro hapart slug hslug slug' hslug' heq
    obtain ⟨a, ha, rfl⟩ := List.mem_map.mp hslug
    obtain ⟨b, hb, rfl⟩ := List.mem_map.mp hslug'
    by_contra hne
    exact hapart a ha b hb hne (moduleName_eq_iff.mp heq)

/-- **When nothing that is generated is in the way of another thing.** For an
accepted document and any library, all files are generated, and each index
declares the modules of its folder and no others.  The paths are distinct, and
each module is declared once, exactly when no two served entities of different
slugs share a module name. -/
theorem generated_apart_iff [Pattern.Engine] (h : d.validateWith config = .ok g)
    (l : BundleLibrary) :
    ∃ out, g.generate l = .ok out ∧
      ((out.files.map (·.path)).Nodup ↔ g.NamesApart) ∧
      ∀ folder ∈ moduleFolders, ∃ index, out.IndexedBy folder index ∧
        ((declaredModules index).Nodup ↔ g.NamesApart) := by
  obtain ⟨out, hout, hpaths, hindices⟩ := g.exists_generated l
  refine ⟨out, hout, ?_, fun folder hfolder => ?_⟩
  · rw [hpaths, g.nodup_paths_iff, nodup_moduleNames_iff h]
  · obtain ⟨index, hindexed, hdeclared⟩ := hindices folder hfolder
    refine ⟨index, hindexed, ?_⟩
    rw [hdeclared, nodup_moduleNames_iff h]

end Document

/-- Models of printed parts, of a type each, under slugs to which something is
added. -/
def partsDocument : Document where
  projectName := "parts"
  modules := []
  entities := [{ slug := "3d-models" }, { slug := "type" },
    { slug := "Type-Names" }]

/-- The names of the printed parts are apart: nothing is in the way of another
thing. -/
theorem partsDocument_apart : ∃ g out, partsDocument.validate = .ok g ∧
    g.servedEntities.map (·.slug) = ["3d-models", "type", "Type-Names"] ∧
    g.moduleNames = ["e_3d_models", "type_", "type_names"] ∧ g.NamesApart ∧
    g.generate .builtin = .ok out ∧ (out.files.map (·.path)).Nodup ∧
    ∀ folder ∈ moduleFolders, ∃ index, out.IndexedBy folder index ∧
      (declaredModules index).Nodup := by
  have hview : (partsDocument.validate.toOption.map fun g =>
      (g.servedEntities.map (·.slug), g.moduleNames)) =
      some (["3d-models", "type", "Type-Names"],
          ["e_3d_models", "type_", "type_names"]) := by
    decide +kernel
  have hslugs : ∀ a ∈ ["3d-models", "type", "Type-Names"], ∀ b ∈ ["3d-models",
      "type", "Type-Names"],
      a ≠ b → ¬ SharesName a b := by
    decide +kernel
  obtain ⟨g, haccepted, hseen⟩ := exists_eq_ok_of_seen hview
  obtain ⟨hserved, hnames⟩ := Prod.mk.inj hseen
  have hapart : g.NamesApart := by
    intro a ha b hb
    refine hslugs a.slug ?_ b.slug ?_
    · exact hserved ▸ List.mem_map_of_mem ha
    · exact hserved ▸ List.mem_map_of_mem hb
  obtain ⟨out, hout, hpaths, hindices⟩ :=
    Document.generated_apart_iff haccepted .builtin
  refine ⟨g, out, haccepted, hserved, hnames, hapart,
    hout, hpaths.mpr hapart, fun folder hfolder => ?_⟩
  obtain ⟨index, hindexed, hdeclared⟩ := hindices folder hfolder
  exact ⟨index, hindexed, hdeclared.mpr hapart⟩

/-- Two spellings of the items of an order. -/
def itemsDocument : Document where
  projectName := "items"
  modules := []
  entities := [{ slug := "order-items" }, { slug := "order_items" }]

/-- The two spellings come to one name: two services have one path, and so have
two route modules, and each index declares the module twice. -/
theorem itemsDocument_merged : ∃ g out, itemsDocument.validate = .ok g ∧
    g.servedEntities.map (·.slug) = ["order-items", "order_items"] ∧
    g.generate .builtin = .ok out ∧
    out.files.map (·.path) = [
      "src/services/order_items.rs", "src/services/order_items.rs",
        "src/services/mod.rs",
      "src/routes/order_items.rs", "src/routes/order_items.rs",
        "src/routes/mod.rs", "schema.json"] ∧
    ¬ (out.files.map (·.path)).Nodup ∧
    ∀ folder ∈ moduleFolders, ∃ index, out.IndexedBy folder index ∧
      declaredModules index = ["order_items", "order_items"] := by
  have hview : (itemsDocument.validate.toOption.map fun g =>
      (g.servedEntities.map (·.slug), g.moduleNames)) =
      some (["order-items", "order_items"], ["order_items", "order_items"]) := by
    decide +kernel
  obtain ⟨g, haccepted, hseen⟩ := exists_eq_ok_of_seen hview
  obtain ⟨hserved, hnames⟩ := Prod.mk.inj hseen
  obtain ⟨out, hout, hpaths, hindices⟩ := g.exists_generated .builtin
  rw [hnames] at hpaths hindices
  have hlisted := hpaths.trans (by decide +kernel : _ = [
    "src/services/order_items.rs", "src/services/order_items.rs",
      "src/services/mod.rs",
    "src/routes/order_items.rs", "src/routes/order_items.rs",
      "src/routes/mod.rs", "schema.json"])
  refine ⟨g, out, haccepted, hserved, hout, hlisted, ?_, hindices⟩
  rw [hlisted]
  decide

end ServiceLoom
