import ServiceLoom.Schema.Modules

/-!
# The graph of a schema

The entities of a schema with their references and child relations, once they
have been checked.
-/

namespace ServiceLoom

/-- A field that refers to an entity. -/
structure ReferenceEdge where
  source : String
  field : String
  target : String
  /-- Whether the target is declared, and not inferred from the name. -/
  explicit : Bool
  multiple : Bool
deriving DecidableEq, Repr

/-- A child collection that an entity manages. -/
structure ChildEdge where
  parent : String
  child : String
  foreignKey : String
deriving DecidableEq, Repr

/-- A checked schema: the entities of the modules that are switched on, in
document order, followed by the internal ones. -/
structure SchemaGraph where
  projectName : String
  modules : ModuleConfig
  entities : List Entity
  edges : List ReferenceEdge
  children : List ChildEdge
  warnings : List String

namespace SchemaGraph

/-- The entity with a slug. -/
def entity? (g : SchemaGraph) (slug : String) : Option Entity :=
  g.entities.find? (·.slug = slug)

/-- The module of an entity. -/
def moduleOf? (g : SchemaGraph) (slug : String) : Option String :=
  (g.entity? slug).bind (·.module)

/-- The reference of a field. -/
def edge? (g : SchemaGraph) (source field : String) : Option ReferenceEdge :=
  g.edges.find? fun e => e.source = source && e.field = field

/-- The references of an entity, in field order. -/
def edgesFrom (g : SchemaGraph) (source : String) : List ReferenceEdge :=
  g.edges.filter (·.source = source)

/-- The references to an entity. -/
def edgesTo (g : SchemaGraph) (target : String) : List ReferenceEdge :=
  g.edges.filter (·.target = target)

/-- The child relations of an entity. -/
def childrenOf (g : SchemaGraph) (parent : String) : List ChildEdge :=
  g.children.filter (·.parent = parent)

/-- The first child relation that manages an entity. -/
def parentOf? (g : SchemaGraph) (child : String) : Option ChildEdge :=
  g.children.find? (·.child = child)

end SchemaGraph

def ReferenceEdge.toJson (e : ReferenceEdge) : Json :=
  .object [("source", .string e.source), ("field", .string e.field),
    ("target", .string e.target), ("explicit", .bool e.explicit),
    ("multiple", .bool e.multiple)]

def ChildEdge.toJson (c : ChildEdge) : Json :=
  .object [("parent", .string c.parent), ("child", .string c.child),
    ("foreign_key", .string c.foreignKey)]

/-- The members of a graph's document. -/
def SchemaGraph.toMembers (g : SchemaGraph) : List (String × Json) :=
  [("project_name", .string g.projectName), ("modules", g.modules.toJson),
    ("entities", .array (g.entities.map (·.toJson))),
    ("edges", .array (g.edges.map (·.toJson))),
    ("children", .array (g.children.map (·.toJson)))]

def SchemaGraph.toJson (g : SchemaGraph) : Json := .object g.toMembers

end ServiceLoom
