/-!
# Arguments of the command line

Options have a long name, and most of them a letter too. A value follows its
option as the next argument or directly (`--output=dir`, `-odir`, `-o=dir`); one
that looks like an option is no value. An option may be given once, except for
the one that disables a bundle, and there are no other arguments.
-/

namespace ServiceLoom.Command

/-- The options of the program. -/
inductive Switch where
  | input | output | config | logLevel | disableBundle | dryRun | help
deriving DecidableEq, Repr

namespace Switch

def all : List Switch := [input, output, config, logLevel,
      disableBundle, dryRun, help]

/-- The long name. -/
def name : Switch → String
  | input => "input"
  | output => "output"
  | config => "config"
  | logLevel => "log-level"
  | disableBundle => "disable-bundle"
  | dryRun => "dry-run"
  | help => "help"

def letter? : Switch → Option Char
  | input => some 'i'
  | output => some 'o'
  | config => some 'c'
  | help => some 'h'
  | _ => none

def takesValue : Switch → Bool
  | dryRun | help => false
  | _ => true

/-- The option with a long name. -/
def ofName? (name : String) : Option Switch := all.find? (·.name = name)

/-- The option with a letter. -/
def ofLetter? (c : Char) : Option Switch := all.find? (·.letter? = some c)

end Switch

/-- The options that were given. -/
structure Given where
  input : Option String := none
  output : Option String := none
  config : Option String := none
  logLevel : Option String := none
  disabled : List String := []
  dryRun : Bool := false
deriving DecidableEq, Repr

/-- A value for an option that must not have one yet. -/
def once? (earlier : Option String) (value : String) : Option (Option String) :=
  if earlier.isNone then some (some value) else none

/-- A path for an option that must not have one yet. -/
def oncePath? (earlier : Option String) (value : String) :
    Option (Option String) :=
  if value = "" then none else once? earlier value

/-- The options with one more value. -/
def Given.set? (g : Given) (s : Switch) (value : String) : Option Given :=
  match s with
  | .input => do return { g with input := ← oncePath? g.input value }
  | .output => do return { g with output := ← oncePath? g.output value }
  | .config => do return { g with config := ← oncePath? g.config value }
  | .logLevel => do return { g with logLevel := ← once? g.logLevel value }
  | .disableBundle => some { g with disabled := g.disabled ++ [value] }
  | .dryRun | .help => none

/-- What the program is asked to do. -/
structure Arguments where
  /-- The schema document. -/
  input : String
  /-- The output directory; it takes precedence over the settings. -/
  output : Option String
  /-- The settings file. -/
  config : String
  logLevel : Option String
  disabled : List String
  /-- Everything is done but nothing written. -/
  dryRun : Bool
deriving DecidableEq, Repr

/-- What a command line means. -/
inductive Invocation where
  | help
  | run (a : Arguments)
deriving DecidableEq, Repr

/-- The settings file that is looked for if none is named. -/
def defaultConfig : String := "erpforge.toml"

/-- The arguments, if the schema document is named. -/
def Given.finish? (g : Given) : Option Invocation :=
  g.input.map fun input =>
    .run ⟨input, g.output, g.config.getD defaultConfig,
      g.logLevel, g.disabled, g.dryRun⟩

/-- One argument by its form. -/
inductive Word where
  /-- Two hyphens alone, after which no argument is an option. -/
  | endOfOptions
  | long (name : String) (value : Option String)
  | short (letter : Char) (value : Option String)
  | other

/-- The part before the first equals sign, and the part after it. -/
def splitAtEquals (cs : List Char) : String × Option String :=
  let name := String.ofList (cs.takeWhile (· ≠ '='))
  match cs.dropWhile (· ≠ '=') with
  | [] => (name, none)
  | _ :: value => (name, some (String.ofList value))

/-- The value that directly follows a letter. -/
def attachedValue : List Char → Option String
  | [] => none
  | '=' :: value => some (String.ofList value)
  | value => some (String.ofList value)

/-- The form of an argument. -/
def Word.ofText (text : String) : Word :=
  match text.toList with
  | ['-', '-'] => endOfOptions
  | '-' :: '-' :: cs =>
    let (name, value) := splitAtEquals cs
    long name value
  | '-' :: c :: cs => short c (attachedValue cs)
  | _ => other

/-- Whether an argument can be the value of the option before it. -/
def isValue (text : String) : Bool :=
  match Word.ofText text with
  | .other => true
  | _ => false

/-- What the options given so far and the remaining arguments mean. None if they
cannot be understood. -/
def parseFrom? (g : Given) : List String → Option Invocation
  | [] => g.finish?
  | text :: rest =>
    let given (s : Option Switch) (attached : Option String) :
        Option Invocation :=
      match s, attached, rest with
      | some .help, none, _ => some .help
      | some .dryRun, none, rest =>
        if g.dryRun then none else parseFrom? { g with dryRun := true } rest
      | some s, some value, rest =>
          (g.set? s value).bind fun g => parseFrom? g rest
      | some s, none, value :: rest =>
        if isValue value then
          (g.set? s value).bind fun g => parseFrom? g rest
        else none
      | _, _, _ => none
    match Word.ofText text with
    | .endOfOptions => if rest.isEmpty then g.finish? else none
    | .long name value => given (Switch.ofName? name) value
    | .short c value =>
      if c = 'h' then some .help else given (Switch.ofLetter? c) value
    | .other => none
termination_by args => args.length
decreasing_by all_goals simp_all; try omega

/-- What a command line means. None if it cannot be understood. -/
def Invocation.parse? (args : List String) : Option Invocation :=
  parseFrom? {} args

end ServiceLoom.Command
