import ServiceLoom.Command.Run
import ServiceLoom.Pattern.Builtin

/-!
# The program

The command line on the real file system: what is read and written here is
decided in `Command`.
-/

namespace ServiceLoom.Command

/-- How the program is used. -/
def usage : String :=
  "\n".intercalate [
    "Generate CRUD services and routes from an SDF schema",
    "",
    "Usage: erpforge [OPTIONS] --input <INPUT>",
    "",
    "Options:",
    "  -i, --input <INPUT>                    Input SDF schema (JSON)",
    "  -o, --output <OUTPUT>                  Output directory (overrides output_dir in the config file)",
    "  -c, --config <CONFIG>                  Config file [default: erpforge.toml]",
    "      --log-level <LOG_LEVEL>            Log filter (overrides log_level in the config file)",
    "      --disable-bundle <DISABLE_BUNDLE>  Bundle to disable; may be repeated",
    "      --dry-run                          Validate and generate, but write nothing",
    "  -h, --help                             Print help"]

/-- The settings file that a path names. -/
def readSettings (path : String) : IO SettingsFile := do
  try
    return .text (← IO.FS.readFile path)
  catch
    | .noFileOrDirectory .. => return .missing
    | _ => return .unreadable

/-- The file that a path names, if it can be read. -/
def readSchema (path : String) : IO (Option String) := do
  try
    return some (← IO.FS.readFile path)
  catch _ => return none

/-- Writes one file below a directory. -/
def writeFile (directory : String) (f : GeneratedFile) :
    IO (Option WriteError) := do
  if mayEscape f.path then return some (.refused f.path)
  let path := joinPath directory f.path
  let parent := parentPath path
  try
    if parent ≠ "" then IO.FS.createDirAll parent
  catch _ => return some (.noDirectory parent)
  try
    IO.FS.writeFile path f.content
    return none
  catch _ => return some (.noFile path)

/-- Writes files up to the first failure. -/
def writeFiles (directory : String) : List GeneratedFile →
    IO (Option WriteError)
  | [] => return none
  | f :: rest => do
    match ← writeFile directory f with
    | some e => return some e
    | none => writeFiles directory rest

/-- A run on the real file system. -/
def Arguments.perform [Pattern.Engine] (a : Arguments) :
    IO (Option RunError) := do
  match a.settings (← readSettings a.config) with
  | .error e => return some e
  | .ok s =>
    match ← readSchema a.input with
    | none => return some (.unreadable a.input)
    | some schema =>
      match a.generate s schema with
      | .error e => return some e
      | .ok made =>
        for warning in made.warnings do IO.println ("WARN " ++ warning)
        if a.dryRun then
          for f in made.files do IO.println ("INFO would write " ++ f.path)
          return none
        else return (← writeFiles (a.outputDir s) made.files).map .unwritten

/-- How a run on the real file system ends. -/
def perform [Pattern.Engine] (args : List String) : IO Outcome := do
  match Invocation.parse? args with
  | none =>
    IO.eprintln usage
    return .misused
  | some .help =>
    IO.println usage
    return .success
  | some (.run a) =>
    match ← a.perform with
    | none => return .success
    | some e =>
      IO.eprintln ("Error: " ++ e.message)
      return .failed e

end ServiceLoom.Command

def main (args : List String) : IO UInt32 := do
  return (← ServiceLoom.Command.perform args).exitCode.toUInt32
