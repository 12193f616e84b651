/-!
# Defects of a schema

Why a schema is refused: the rule that is broken, where, and in which words.
-/

namespace ServiceLoom

/-- A structural defect of a schema. -/
inductive Defect where
  | missingSlug (index : Nat)
  | duplicateSlug (slug : String)
  | unresolvedReference (entity field base : String)
  | ambiguousReference (entity field : String) (found : List String)
  | disabledModuleReference (entity field target module : String)
  | moduleBoundary (entity via target sourceModule targetModule : String)
  | unknownChild (entity child : String)
  | missingForeignKey (entity child : String) (foreignKey : Option String)
  | disabledChildModule (entity child module : String)
deriving DecidableEq, Repr

namespace Defect

/-- The name of the broken rule. -/
def rule : Defect → String
  | missingSlug .. => "MissingSlug"
  | duplicateSlug .. => "DuplicateSlug"
  | unresolvedReference .. => "UnresolvedReference"
  | ambiguousReference .. => "AmbiguousReference"
  | disabledModuleReference .. => "DisabledModuleReference"
  | moduleBoundary .. => "ModuleBoundaryViolation"
  | unknownChild .. => "UnknownChildEntity"
  | missingForeignKey .. => "MissingForeignKey"
  | disabledChildModule .. => "DisabledChildModule"

/-- The slug of the entity with the defect. -/
def entity? : Defect → Option String
  | missingSlug _ => none
  | duplicateSlug slug => some slug
  | unresolvedReference entity .. => some entity
  | ambiguousReference entity .. => some entity
  | disabledModuleReference entity .. => some entity
  | moduleBoundary entity .. => some entity
  | unknownChild entity .. => some entity
  | missingForeignKey entity .. => some entity
  | disabledChildModule entity .. => some entity

/-- A name between single quotes. -/
def quoted (s : String) : String := "'" ++ s ++ "'"

def message : Defect → String
  | missingSlug index =>
      "entity at index " ++ toString index ++ " is missing a slug"
  | duplicateSlug slug => "duplicate entity slug " ++ quoted slug
  | unresolvedReference entity field base =>
    "field " ++ quoted (entity ++ "." ++ field) ++
      " is a reference but no entity matches " ++
      quoted base
  | ambiguousReference entity field found =>
    "field " ++ quoted (entity ++ "." ++ field) ++ " could refer to any of [" ++
      ", ".intercalate found ++ "]; set reference_entity explicitly"
  | disabledModuleReference entity field target module =>
    "field " ++ quoted (entity ++ "." ++ field) ++
      " references " ++ quoted target ++
      " in disabled module " ++ quoted module
  | moduleBoundary entity via target sourceModule targetModule =>
    quoted entity ++ " (" ++ sourceModule ++ ") cannot reach " ++
      quoted target ++ " (" ++
      targetModule ++ ") via " ++ via ++
        ": only same-module or shared targets are allowed, " ++
      "and shared entities may only reach shared ones"
  | unknownChild entity child =>
    "entity " ++ quoted entity ++ " declares child " ++
      quoted child ++ ", which does not exist"
  | missingForeignKey entity child foreignKey =>
    "child " ++ quoted child ++ " of " ++ quoted entity ++
      " has no foreign key field " ++
      (foreignKey.map quoted).getD "(none declared)"
  | disabledChildModule entity child module =>
    "entity " ++ quoted entity ++ " declares child " ++
      quoted child ++ " in disabled module " ++
      quoted module

end Defect

end ServiceLoom
