import ServiceLoom.Plan.Fragment
import ServiceLoom.Text.Literal

/-!
# The code of fragments and methods

Every fragment is written as one statement that calls the runtime library, and
every method as a function that does. Texts of a schema occur in the code as
escaped literals only.
-/

namespace ServiceLoom.Code

open Text.Literal (encode)

/-- The indentation of a statement. -/
def bodyIndent : String := "        "

/-- The indentation of a method. -/
def itemIndent : String := "    "

/-- Parts with commas between them. -/
def commaList (parts : List String) : String := ", ".intercalate parts

/-- A call with its arguments. -/
def call (function : String) (arguments : List String) : String :=
  function ++ "(" ++ commaList arguments ++ ")"

/-- A floating-point literal. -/
def float (x : Float) : String := Decimal.codeLayout.write x

def bool (b : Bool) : String := if b then "true" else "false"

/-- A slice of text literals. -/
def slice (items : List String) : String :=
  "&[" ++ commaList (items.map encode) ++ "]"

/-- An optional text literal. -/
def option : Option String → String
  | some s => call "Some" [encode s]
  | none => "None"

mutual

/-- The tokens that stand for a value inside the macro that builds values. -/
def valueTokens : Json → String
  | .null => "null"
  | .bool b => if b then "true" else "false"
  | .number n => n.text
  | .string s => encode s
  | .array items => "[" ++ commaList (itemTokens items) ++ "]"
  | .object members => "\x7b" ++ commaList (memberTokens members) ++ "\x7d"

def itemTokens : List Json → List String
  | [] => []
  | x :: rest => valueTokens x :: itemTokens rest

def memberTokens : List (String × Json) → List String
  | [] => []
  | (k, x) :: rest => (encode k ++ ": " ++ valueTokens x) :: memberTokens rest

end

/-- An expression for a value. -/
def value (j : Json) : String := "serde_json::json!(" ++ valueTokens j ++ ")"

/-- A statement that may refuse. -/
def attempt (function : String) (arguments : List String) : String :=
  call function arguments ++ "?;"

/-- A statement that cannot refuse. -/
def perform (function : String) (arguments : List String) : String :=
  call function arguments ++ ";"

def textCase : TextCase → String
  | .trim => "ops::TextCase::Trim"
  | .upper => "ops::TextCase::Upper"
  | .lower => "ops::TextCase::Lower"

def auditAction : AuditAction → String
  | .create => "ops::AuditAction::Create"
  | .update => "ops::AuditAction::Update"
  | .delete => "ops::AuditAction::Delete"

/-- The record on which a check over several fields looks. -/
def subject (h : Hook) : String :=
  if h.action = .update then "&merged(&existing, &data)" else "&data"

/-- The parents whose totals a write may change. -/
def parents (h : Hook) (key : String) : String :=
  match h.action with
  | .create => "&[result.get(" ++ key ++ ")]"
  | .update => "&[existing.get(" ++ key ++ "), result.get(" ++ key ++ ")]"
  | .delete => "&[existing.get(" ++ key ++ ")]"

/-- The statement of a fragment at a hook. -/
def statement (h : Hook) : Fragment → String
  | .fieldRules =>
    attempt "Self::field_rules().validate"
      ["repo", "Self::SLUG", subject h,
        if h.action = .update then "WriteMode::Update(id)"
        else "WriteMode::Create"]
  | .deleteGuard => attempt "Self::delete_guard().check" ["repo", "id"]
  | .defaultValue field v =>
      perform "ops::default_value" ["&mut data", encode field, value v]
  | .forceValue field v =>
      perform "ops::force_value" ["&mut data", encode field, value v]
  | .coerceNumber field message =>
    attempt "ops::coerce_number" ["&mut data", encode field, encode message]
  | .normalize field case =>
    perform "ops::normalize_text" ["&mut data", encode field, textCase case]
  | .normalizeDate field =>
      perform "ops::normalize_date" ["&mut data", encode field]
  | .require field message =>
      attempt "ops::require" ["&data", encode field, encode message]
  | .rejectBlank field message =>
    attempt "ops::reject_blank" ["&data", encode field, encode message]
  | .requireAny fields message =>
    attempt "ops::require_any" ["&data", slice fields, encode message]
  | .atLeast field least message =>
    attempt "ops::at_least" ["&data", encode field, float least, encode message]
  | .fixedValue field v message =>
    attempt "ops::fixed_value" ["&data", encode field,
      "&" ++ value v, encode message]
  | .unique field message =>
    attempt "ops::require_unique"
      ["repo", "Self::SLUG", "&data", encode field,
        if h.action = .update then "Some(id)" else "None", encode message]
  | .oneOf field options default message =>
    attempt "ops::one_of"
      ["&mut data", encode field, slice options, option default, encode message]
  | .checkDate field allowPast invalidMessage pastMessage =>
    attempt "ops::check_date"
      ["&data", encode field, bool allowPast, encode invalidMessage,
        encode pastMessage]
  | .validDate field message =>
      attempt "ops::valid_date" ["&data", encode field, encode message]
  | .dateOrder start finish message =>
    attempt "ops::date_order" [subject h, encode start,
      encode finish, encode message]
  | .sequence field label width message =>
    attempt "ops::next_sequence"
      ["repo", "Self::SLUG", "&mut data", encode field, encode label,
        toString width, encode message]
  | .dueDate issue due days =>
    perform "ops::due_date" ["&mut data", encode issue,
      encode due, toString days]
  | .invoiceTotals taxRate onlyIfTouched =>
    perform (if onlyIfTouched then "ops::invoice_totals_if_touched"
      else "ops::invoice_totals")
      ["&mut data", float taxRate]
  | .lineTotal quantity unitPrice target message =>
    attempt "ops::line_total"
      ["&mut data", if h.action = .update then "Some(&existing)" else "None",
        encode quantity, encode unitPrice, encode target, encode message]
  | .recalculateParent foreignKey parentSlug taxRate =>
    attempt "ops::recalculate_totals"
      ["repo", "Self::SLUG", encode foreignKey, encode parentSlug,
        parents h (encode foreignKey), float taxRate]
  | .audit =>
    attempt "ops::audit"
      ["repo", auditAction h.action, "Self::SLUG",
        if h.action = .create then "&record_id(&result).unwrap_or_default()"
        else "id"]

/-- The line of a fragment at a hook. -/
def fragment (h : Hook) (f : Fragment) : String :=
  bodyIndent ++ statement h f ++ "\n"

def fieldKind : FieldKind → String
  | .text => "FieldKind::Text"
  | .integer => "FieldKind::Integer"
  | .number => "FieldKind::Number"
  | .boolean => "FieldKind::Boolean"

/-- A step in a chain of calls, if its condition holds. -/
def stepIf (condition : Bool) (name : String) : String :=
  if condition then "." ++ name ++ "()" else ""

/-- A step in a chain of calls, if there is an argument for it. -/
def stepWith {α : Type} (name : String) (write : α → String) : Option α → String
  | some x => "." ++ call name [write x]
  | none => ""

/-- The expression that builds a rule. -/
def rule (r : FieldRule) : String :=
  call "FieldRule::new" [encode r.field, encode r.label, fieldKind r.kind] ++
    stepIf r.required "required" ++
    stepIf r.unique "unique" ++
    stepIf r.multiple "multiple" ++
    stepWith "min_length" toString r.minLength ++
    stepWith "max_length" toString r.maxLength ++
    stepWith "pattern" encode r.pattern ++
    stepWith "min" float r.min ++
    stepWith "max" float r.max ++
    (if r.options.isEmpty then "" else "." ++ call "options" [slice r.options]) ++
    stepWith "references" encode r.reference

/-- An expression that builds something from a list with one item a line. -/
def listed (function : String) (items : List String) : String :=
  function ++ "(vec![\n" ++
    String.join (items.map fun item => bodyIndent ++ "    " ++ item ++ ",\n") ++
      bodyIndent ++ "])"

/-- The expression that builds a rule set. -/
def ruleSet (s : RuleSet) : String := listed "RuleSet::new" (s.rules.map rule)

/-- The expression that builds a dependent of a guard. -/
def dependent (d : DependentSpec) : String :=
  call "DependentSpec::new" [encode d.entity, encode d.displayField] ++
    String.join (d.fields.map fun f =>
      "." ++ call (if f.multiple then "via_many" else "via") [encode f.name])

/-- The expression that builds a guard. -/
def deleteGuard (g : DeleteGuard) : String :=
  listed "DeleteGuard::new" (g.dependents.map dependent)

/-- A function with a signature and a body. -/
def function (signature body : String) : String :=
  "\n" ++ itemIndent ++ signature ++ " \x7b\n" ++ bodyIndent ++
    body ++ "\n" ++ itemIndent ++ "\x7d\n"

/-- The signature of a public method. -/
def signature (name : String) (parameters : List String)
    (answer : String) : String :=
  "pub fn " ++ call name ("&self" :: parameters) ++
    " -> Result<" ++ answer ++ ", ServiceError>"

/-- A call of the runtime library on the service's collection. -/
def collectionCall (name : String) (arguments : List String) : String :=
  call ("ops::" ++ name) (["self.repo.as_ref()", "Self::SLUG"] ++ arguments)

/-- The code of a method. -/
def method : Method → String
  | .fieldRules rules =>
    function "fn field_rules() -> &'static RuleSet"
      ("static RULES: LazyLock<RuleSet> = LazyLock::new(|| " ++
        ruleSet rules ++ ");\n" ++
        bodyIndent ++ "&RULES")
  | .deleteGuard guard =>
      function "fn delete_guard() -> DeleteGuard" (deleteGuard guard)
  | .adjustStock name field =>
    function (signature name ["id: &str", "delta: f64"] "Record")
      (collectionCall "adjust_stock" ["id", encode field, "delta"])
  | .findBy name field =>
    function (signature name ["value: &str"] "Vec<Record>")
      (collectionCall "find_by" [encode field, "value"])
  | .expired name field =>
    function (signature name [] "Vec<Record>")
      (collectionCall "expired" [encode field])
  | .moveStock name =>
    function (signature name ["id: &str",
      "target_location: &str", "quantity: f64"] "()")
      (collectionCall "move_stock" ["id", "target_location", "quantity"])

end ServiceLoom.Code
