import ServiceLoom.Plan.Code
import ServiceLoom.Plan.EntityPlan
import ServiceLoom.Template.Identifier
import ServiceLoom.Template.Skeleton
import ServiceLoom.Template.Weaver

/-!
# Generated files

From a checked schema come a service module and a route module for every entity
that is not internal, an index for each of the two, and a manifest that holds
the schema and the bundles of every entity.
-/

namespace ServiceLoom

/-- A file with its path below the output directory. -/
structure GeneratedFile where
  path : String
  content : String
deriving DecidableEq, Repr

/-- Files, and what was found on the way that is no error. -/
structure Generation where
  files : List GeneratedFile
  warnings : List String

/-- The first file with a path. -/
def Generation.file? (g : Generation) (path : String) : Option GeneratedFile :=
  g.files.find? (·.path = path)

/-- Two generations, one after the other. -/
def Generation.append (a b : Generation) : Generation :=
  ⟨a.files ++ b.files, a.warnings ++ b.warnings⟩

/-- Puts the fragments and methods of a set into a skeleton. -/
def FragmentSet.weave (w : Template.Weaver) (s : FragmentSet) :
    Template.Weaver :=
  let w :=
    s.hooks.foldl (fun w (h, f) => w.inject h.marker (Code.fragment h f)) w
  s.methods.foldl (fun w m => w.appendMethod (Code.method m)) w

namespace SchemaGraph

/-- The entities that get a service. -/
def servedEntities (g : SchemaGraph) : List Entity :=
  g.entities.filter (!·.isSystem)

/-- The service module of an entity, and the warnings. -/
def service [Pattern.Engine] (l : BundleLibrary) (g : SchemaGraph)
    (e : Entity) : Except Template.WeaveError (String × List String) := do
  let plan := EntityPlan.ofEntity l g e
  let skeleton ← Template.Weaver.parse Template.serviceSkeleton
  let woven := plan.fragmentSets.foldl FragmentSet.weave skeleton
  return (woven.render (Template.contextOf e.slug),
    plan.warnings ++ woven.warnings)

/-- The line that declares the module of an entity. -/
def moduleLine (e : Entity) : String :=
  "pub mod " ++ Template.moduleName e.slug ++ ";\n"

/-- The index of the services. -/
def servicesIndex (entities : List Entity) : String :=
  Template.generatedHeader ++ "\n" ++ String.join (entities.map moduleLine)

/-- The line that adds the routes of an entity to the router. -/
def mergeLine (e : Entity) : String :=
  let module := Template.moduleName e.slug
  "\n        .merge(" ++ module ++ "::routes(Arc::new(services::" ++
    module ++ "::" ++
    Template.serviceName e.slug ++ "::new(repo.clone()))))"

/-- The index of the routes, with the router of all services. -/
def routesIndex (entities : List Entity) : String :=
  Template.generatedHeader ++
    "use std::sync::Arc;\n\nuse axum::Router;\nuse erpforge_core::Repository;\n\n" ++
    "use crate::services;\n\n" ++
    String.join (entities.map moduleLine) ++
    "\n/// Router serving every generated entity from one repository.\n" ++
    "pub fn router(repo: Arc<dyn Repository>) -> Router \x7b\n" ++
    "    Router::new()" ++
    String.join (entities.map mergeLine) ++
    "\n\x7d\n"

/-- The service modules and their index. -/
def services [Pattern.Engine] (l : BundleLibrary) (g : SchemaGraph) :
    Except Template.WeaveError Generation := do
  let modules ← g.servedEntities.mapM fun e => do
    let (content, warnings) ← g.service l e
    return (GeneratedFile.mk ("src/services/" ++
      Template.moduleName e.slug ++ ".rs") content, warnings)
  return {
    files := modules.map (·.1) ++
      [⟨"src/services/mod.rs", servicesIndex g.servedEntities⟩]
    warnings := modules.flatMap (·.2) }

/-- The route module of an entity. -/
def routeFile (e : Entity) : GeneratedFile :=
  ⟨"src/routes/" ++ Template.moduleName e.slug ++ ".rs",
    Template.substitute (Template.contextOf e.slug) Template.routesSkeleton⟩

/-- The route modules and their index. -/
def routes (g : SchemaGraph) : Generation where
  files := g.servedEntities.map routeFile ++
    [⟨"src/routes/mod.rs", routesIndex g.servedEntities⟩]
  warnings := []

/-- The manifest. -/
def manifest (l : BundleLibrary) (g : SchemaGraph) : Generation :=
  let bundles := g.servedEntities.map fun e =>
    Json.object [("entity", .string e.slug),
      ("bundles", .strings (Selection.ofEntity l g.modules e).names)]
  ⟨[⟨"schema.json",
    (Json.object (g.toMembers ++ [("bundles", .array bundles)])).pretty⟩], []⟩

/-- All files of a schema. -/
def generate [Pattern.Engine] (l : BundleLibrary) (g : SchemaGraph) :
    Except Template.WeaveError Generation := do
  let services ← g.services l
  return ((Generation.mk [] g.warnings).append services).append
    (g.routes.append (g.manifest l))

end SchemaGraph

end ServiceLoom
