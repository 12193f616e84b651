import ServiceLoom.Schema.Names
import ServiceLoom.Text.Literal
import ServiceLoom.Dict

/-!
# Identifiers of generated code

A slug may hold any characters. This module makes the names of modules and types
from it.
-/

namespace ServiceLoom.Template

/-- Words that cannot name a module. -/
def keywords : List String :=
  ["as", "async", "await", "box", "break", "const", "continue", "crate", "dyn",
    "else", "enum", "extern", "fn", "for", "gen", "if", "impl", "in", "let",
    "loop", "match", "mod", "move", "mut", "pub", "ref", "return", "self",
    "static", "struct", "super", "trait", "type", "unsafe", "use", "where",
    "while", "yield"]

/-- A character of a module name: lower-case letters, digits and underscores. -/
def moduleChar (c : Char) : Char :=
  if c.isAlphanum || c == '_' then c.toLower else '_'

/-- Whether a name is empty or starts with a digit. -/
def needsLetter : List Char → Bool
  | [] => true
  | c :: _ => c.isDigit

/-- The module name of a slug. -/
def moduleName (slug : String) : String :=
  let cs := slug.toList.map moduleChar
  let cs := if needsLetter cs then 'e' :: '_' :: cs else cs
  let name := String.ofList cs
  if keywords.contains name then name ++ "_" else name

/-- The type name of a slug. -/
def typeName (slug : String) : String :=
  let cs := (Names.pascal slug).toList.filter Char.isAlphanum
  String.ofList (if needsLetter cs then 'E' :: cs else cs)

/-- The name of a slug's service. -/
def serviceName (slug : String) : String := typeName slug ++ "Service"

/-- The values of the placeholders for a slug. -/
def contextOf (slug : String) : Dict String :=
  Dict.ofEntries [
    ("EntityName", typeName slug),
    ("slug", slug),
    ("slug_literal", Text.Literal.encode slug),
    ("module", moduleName slug),
    ("route", Text.Literal.encode ("/api/" ++ slug)),
    ("item_route", Text.Literal.encode ("/api/" ++ slug ++ "/\x7bid\x7d"))]

end ServiceLoom.Template
