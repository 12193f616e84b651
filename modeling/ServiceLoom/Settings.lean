import ServiceLoom.Toml.Parser

/-!
# Settings

What the settings file of a project can say: where files are written, how much
is logged, and which bundles must not be used. Keys that are not known are
ignored, and everything may be left out.
-/

namespace ServiceLoom

/-- The settings of a project. -/
structure Settings where
  outputDir : Option String := none
  /-- The filter for log output. -/
  logLevel : Option String := none
  /-- The bundles that must not be used. -/
  disabledBundles : List String := []
deriving DecidableEq, Repr

namespace Settings

def text? : Toml → Option String
  | .string s => some s
  | _ => none

/-- A list of texts. -/
def texts? : Toml → Option (List String)
  | .array items => items.mapM text?
  | _ => none

/-- An entry that may be left out. -/
def optional? {α : Type} (entries : Toml.Entries) (key : String)
    (decode : Toml → Option α) : Option (Option α) :=
  match Dict.get? entries key with
  | some v => (decode v).map some
  | none => some none

/-- The disabled bundles: a table that may name them, or a list that starts with
them. A date counts as a table that names none. -/
def disabled? : Toml → Option (List String)
  | .table _ entries => (optional? entries "disabled" texts?).map (·.getD [])
  | .array [] => some []
  | .array (first :: _) => texts? first
  | .datetime _ => some []
  | _ => none

/-- The settings that the entries of a document give. -/
def ofEntries? (entries : Toml.Entries) : Option Settings := do
  return {
    outputDir := ← optional? entries "output_dir" text?
    logLevel := ← optional? entries "log_level" text?
    disabledBundles := (← optional? entries "bundles" disabled?).getD [] }

/-- The settings in a text. -/
def read? (text : String) : Option Settings :=
  (Toml.parse? text).bind ofEntries?

end Settings

end ServiceLoom
