import ServiceLoom.Schema.Defect
import ServiceLoom.Schema.Graph
import ServiceLoom.Schema.Reference
import ServiceLoom.Schema.SystemEntities

/-!
# Checking a schema

A schema is checked as a whole, and the first defect ends the check: first the
slugs of all entities, then, entity by entity among those of modules that are
switched on, the references field by field and the child relations.
-/

namespace ServiceLoom

/-- The first defect among the slugs, given those that came before. -/
def checkSlugs (index : Nat) (earlier : List String) : List Entity →
    Except Defect Unit
  | [] => .ok ()
  | e :: rest =>
    if Text.isBlank e.slug then .error (.missingSlug index)
    else if earlier.contains e.slug then .error (.duplicateSlug e.slug)
    else checkSlugs (index + 1) (e.slug :: earlier) rest

/-- Whether an entity of one module may use an entity of another: the modules
are the same, or the second is the shared one. -/
def mayReach (sourceModule targetModule : String) : Bool :=
  sourceModule = targetModule ||
    (targetModule = sharedModule && sourceModule ≠ sharedModule)

/-- Refuses a use across module boundaries. -/
def checkBoundary (source sourceModule target targetModule via : String) :
    Except Defect Unit :=
  if mayReach sourceModule targetModule then .ok ()
  else .error (.moduleBoundary source via target sourceModule targetModule)

/-- What the references and child relations of an entity are checked against. -/
structure Surroundings where
  /-- All entities of the document. -/
  entities : List Entity
  config : ModuleConfig

namespace Surroundings

def slugs (s : Surroundings) : List String := s.entities.map (·.slug)

/-- The first entity with a slug. -/
def entity? (s : Surroundings) (slug : String) : Option Entity :=
  s.entities.find? (·.slug = slug)

/-- The module of the entity with a slug. -/
def moduleOf (s : Surroundings) (slug : String) : String :=
  ((s.entity? slug).map s.config.moduleOf).getD defaultModule

/-- Whether the entity with a slug belongs to a module that is switched on. -/
def isActive (s : Surroundings) (slug : String) : Bool :=
  s.config.isEnabled (s.moduleOf slug)

/-- The entities of the modules that are switched on, each with its module. -/
def active (s : Surroundings) : List Entity :=
  (s.entities.filter fun e =>
      s.config.isEnabled (s.config.moduleOf e)).map fun e =>
        { e with module := some (s.config.moduleOf e) }

/-- The reference of a field, if it is one. -/
def checkField (s : Surroundings) (source : String) (f : Field) :
    Except Defect (Option ReferenceEdge) :=
  match f.resolve s.slugs with
  | .notReference => .ok none
  | .ambiguous _ found => .error (.ambiguousReference source f.name found)
  | .unresolved base =>
    if f.requiresTarget then .error (.unresolvedReference source f.name base)
    else .ok none
  | .target slug explicit =>
    let module := s.moduleOf slug
    if !s.config.isEnabled module then
      .error (.disabledModuleReference source f.name slug module)
    else do
      checkBoundary source (s.moduleOf source) slug
        module ("field '" ++ f.name ++ "'")
      return some ⟨source, f.name, slug, explicit, f.isMultiple⟩

/-- The child edge of a child relation. A relation without a slug is ignored. -/
def checkChild (s : Surroundings) (parent : String) (c : ChildRelation) :
    Except Defect (Option ChildEdge) :=
  let slug := Text.trim c.entity
  if slug = "" then .ok none
  else match s.entity? slug with
    | none => .error (.unknownChild parent slug)
    | some child =>
      let module := s.moduleOf slug
      if !s.isActive slug then .error (.disabledChildModule parent slug module)
      else
        match (c.foreignKey.map Text.trim).filter (· ≠ "") with
        | none => .error (.missingForeignKey parent slug none)
        | some key =>
          if !child.hasField key then
            .error (.missingForeignKey parent slug (some key))
          else do
            checkBoundary parent (s.moduleOf parent) slug module "child relation"
            return some ⟨parent, slug, key⟩

/-- The results of a check that has one, in order; the first defect ends it. -/
def collect {α β : Type} (check : α → Except Defect (Option β)) : List α →
    Except Defect (List β)
  | [] => .ok []
  | x :: rest => do
    let found ← check x
    let more ← collect check rest
    return found.toList ++ more

/-- The references and child relations of an entity. -/
def checkEntity (s : Surroundings) (e : Entity) :
    Except Defect (List ReferenceEdge × List ChildEdge) := do
  let edges ← collect (s.checkField e.slug) e.fields
  let children ← collect (s.checkChild e.slug) e.children
  return (edges, children)

/-- The references and child relations of a list of entities. -/
def checkEntities (s : Surroundings) :
    List Entity → Except Defect (List ReferenceEdge × List ChildEdge)
  | [] => .ok ([], [])
  | e :: rest => do
    let (edges, children) ← s.checkEntity e
    let (moreEdges, moreChildren) ← s.checkEntities rest
    return (edges ++ moreEdges, children ++ moreChildren)

end Surroundings

/-- The graph of a document under module settings, or its first defect. -/
def Document.validateWith (d : Document) (config : ModuleConfig) :
    Except Defect SchemaGraph := do
  checkSlugs 0 [] d.entities
  let s : Surroundings := ⟨d.entities, config⟩
  let (edges, children) ← s.checkEntities s.active
  return {
    projectName := d.projectName
    modules := config
    entities := s.active ++ systemEntities s.active config
    edges
    children
    warnings := d.entities.filterMap fun e => (config.assign e).2 }

/-- The graph of a document under its own module settings, or its first
defect. -/
def Document.validate (d : Document) : Except Defect SchemaGraph :=
  d.validateWith (ModuleConfig.ofSettings d.modules)

end ServiceLoom
