import ServiceLoom.Schema.Entity

/-!
# Where references point

A field that may be a reference is resolved against the slugs of a document. The
base is the declared target, or the field's name without its ending; it is tried
as it stands and in three plural forms, and if none of these is a slug, the
shortest slug that starts with the base is taken. The order of the slugs never
matters.
-/

namespace ServiceLoom

/-- Where a field points. -/
inductive Resolution where
  /-- The field is no reference. -/
  | notReference
  | target (slug : String) (explicit : Bool)
  /-- Several plural forms of an inferred base are slugs. -/
  | ambiguous (base : String) (found : List String)
  | unresolved (base : String)
deriving DecidableEq, Repr

/-- The text without an ending, if it has it. -/
def withoutEnding? (ending text : String) : Option String :=
  if Field.endsIn ending text then
    some (String.ofList
      (text.toList.take (text.toList.length - ending.toList.length)))
  else none

/-- The name that is looked for among the slugs. -/
def Field.referenceBase (f : Field) : String :=
  match f.explicitTarget with
  | some slug => slug
  | none =>
    ((withoutEnding? "_ids" f.name).orElse fun _ =>
      withoutEnding? "_id" f.name).getD f.name

/-- The base and its plural forms, in order of preference. -/
def pluralForms (base : String) : List String :=
  [base, base ++ "s", base ++ "es"] ++
    ((withoutEnding? "y" base).map fun stem => stem ++ "ies").toList

/-- Whether a slug is preferred to another: it is shorter in bytes, or as long
and before it in order. -/
def isPreferred (a b : String) : Bool :=
  a.utf8ByteSize < b.utf8ByteSize || (a.utf8ByteSize == b.utf8ByteSize && a < b)

/-- The most preferred slug of a list. -/
def preferred? : List String → Option String
  | [] => none
  | slug :: rest =>
    match preferred? rest with
    | some best => if isPreferred best slug then some best else some slug
    | none => some slug

/-- Where a field points among the given slugs. -/
def Field.resolve (f : Field) (slugs : List String) : Resolution :=
  if !f.isReferenceLike then .notReference
  else
    let base := f.referenceBase
    let explicit := f.explicitTarget.isSome
    if base = "" then .unresolved base
    else match (pluralForms base).filter slugs.contains with
      | first :: rest =>
        if !explicit && !rest.isEmpty then .ambiguous base (first :: rest)
        else .target first explicit
      | [] =>
        match preferred? (slugs.filter fun s =>
            base.toList.isPrefixOf s.toList) with
        | some slug => .target slug explicit
        | none => .unresolved base

end ServiceLoom
