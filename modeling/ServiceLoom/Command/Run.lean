import ServiceLoom.Command.Arguments
import ServiceLoom.Output.FileTree
import ServiceLoom.Schema.Decoder
import ServiceLoom.Schema.Validation
import ServiceLoom.Settings

/-!
# Running the program

A run reads the settings and the schema, generates all files, and saves them.
**Either a run fails before anything is written, or every file has been
generated when the first one is saved.**
-/

namespace ServiceLoom.Command

/-- Why a run fails. -/
inductive RunError where
  | settings (path : String)
  | unreadable (path : String)
  | notASchema
  | aborted
  | unwritten (e : WriteError)
deriving DecidableEq, Repr

def RunError.message : RunError → String
  | settings path => "failed to load " ++ path
  | unreadable path => "failed to read " ++ path
  | notASchema => "schema is not a valid SDF document"
  | aborted => "generation aborted; nothing was written"
  | unwritten e => e.message

/-- Where files are written if nothing says otherwise. -/
def defaultOutput : String := "generated"

/-- The settings file as it was found. -/
inductive SettingsFile where
  | missing
  | unreadable
  | text (s : String)

/-- The settings of a run. -/
def Arguments.settings (a : Arguments) : SettingsFile → Except RunError Settings
  | .missing => .ok {}
  | .unreadable => .error (.settings a.config)
  | .text s =>
    match Settings.read? s with
    | some settings => .ok settings
    | none => .error (.settings a.config)

/-- The bundles that a run may use. -/
def Arguments.library (a : Arguments) (s : Settings) : BundleLibrary :=
  ⟨Bundle.all, s.disabledBundles ++ a.disabled⟩

/-- The directory below which a run writes. -/
def Arguments.outputDir (a : Arguments) (s : Settings) : String :=
  (a.output.orElse fun _ => s.outputDir).getD defaultOutput

/-- The files that a run generates from the text of a schema. -/
def Arguments.generate [Pattern.Engine] (a : Arguments) (s : Settings)
    (schema : String) : Except RunError Generation :=
  match Document.read? schema with
  | none => .error .notASchema
  | some d =>
    match d.validate with
    | .error _ => .error .aborted
    | .ok g =>
      match g.generate (a.library s) with
      | .error _ => .error .aborted
      | .ok made => .ok made

/-- The settings file that a path names. -/
def settingsFile (t : FileTree) (path : String) : SettingsFile :=
  match t.lookup path with
  | .missing => .missing
  | .directory => .unreadable
  | .file s => .text s

/-- A run on a file tree: the tree afterwards, and why the run failed if it
did. -/
def Arguments.run [Pattern.Engine] (a : Arguments) (t : FileTree) :
    FileTree × Option RunError :=
  match a.settings (settingsFile t a.config) with
  | .error e => (t, some e)
  | .ok s =>
    match t.lookup a.input with
    | .missing => (t, some (.unreadable a.input))
    | .directory => (t, some (.unreadable a.input))
    | .file schema =>
      match a.generate s schema with
      | .error e => (t, some e)
      | .ok made =>
        if a.dryRun then (t, none)
        else match t.save (a.outputDir s) made.files with
          | (t, .ok _) => (t, none)
          | (t, .error e) => (t, some (.unwritten e))

/-- How the program ends. -/
inductive Outcome where
  | success
  /-- The command line was not understood. -/
  | misused
  | failed (e : RunError)
deriving DecidableEq, Repr

/-- The exit code. -/
def Outcome.exitCode : Outcome → Nat
  | success => 0
  | failed _ => 1
  | misused => 2

/-- The program on a file tree. -/
def execute [Pattern.Engine] (args : List String) (t : FileTree) :
    FileTree × Outcome :=
  match Invocation.parse? args with
  | none => (t, .misused)
  | some .help => (t, .success)
  | some (.run a) =>
    match a.run t with
    | (t, none) => (t, .success)
    | (t, some e) => (t, .failed e)

end ServiceLoom.Command
