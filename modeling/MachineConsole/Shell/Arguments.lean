import MachineConsole.Text.Pieces

/-!
Contract: the command line of the console.

Owns:
- `Options`, and `Request.ofArguments`, which reads them from arguments;
- the help text.

Arguments are read from the left, and the first that asks for help or the version, or that is wrong,
decides. An argument that begins with a dash is an option and never a value, unless it is the dash
alone or follows the double dash.
-/

namespace MachineConsole.Shell

/-- The options of a run. -/
structure Options where
  config? : Option String
  commands : List String
  demo : Bool
  plain : Bool
  batch : Bool
  scripts : List String
deriving DecidableEq, Repr

def Options.none : Options :=
  { config? := Option.none
    commands := []
    demo := false
    plain := false
    batch := false
    scripts := [] }

/-- What a command line asks for. -/
inductive Request where
  | help
  | version
  | misuse
  | run (options : Options)
deriving DecidableEq, Repr

/-- The options of the command line. -/
inductive Flag where
  | config
  | execute
  | demo
  | plain
  | batch
  | help
  | version
deriving DecidableEq, Repr

namespace Flag

def ofLongName? : String → Option Flag
  | "config" => some .config
  | "execute" => some .execute
  | "demo" => some .demo
  | "plain" => some .plain
  | "batch" => some .batch
  | "help" => some .help
  | "version" => some .version
  | _ => none

def ofLetter? : Char → Option Flag
  | 'e' => some .execute
  | 'h' => some .help
  | 'V' => some .version
  | _ => none

/-- Whether an option takes a value. -/
def takesValue : Flag → Bool
  | .config | .execute => true
  | _ => false

end Flag

/-- Whether an argument can be the value of an option. -/
def isValue (argument : String) : Bool :=
  argument = "-" || argument.toList.head? != some '-'

namespace Options

/-- The options after one with a value. -/
def withValue? (options : Options) (flag : Flag) (value : String) : Option Options :=
  match flag with
  | .config =>
    if options.config?.isSome || value = "" then Option.none
    else some { options with config? := some value }
  | .execute => some { options with commands := options.commands ++ [value] }
  | _ => Option.none

/-- The options after one without a value, which may be given once. -/
def withSwitch? (options : Options) : Flag → Option Options
  | .demo => if options.demo then Option.none else some { options with demo := true }
  | .plain => if options.plain then Option.none else some { options with plain := true }
  | .batch => if options.batch then Option.none else some { options with batch := true }
  | _ => Option.none

/-- The options after a script. -/
def withScript? (options : Options) (script : String) : Option Options :=
  if script = "" then Option.none else some { options with scripts := options.scripts ++ [script] }

end Options

namespace Request

/-- Reads arguments that are all scripts. -/
def ofScripts (options : Options) : List String → Request
  | [] => .run options
  | script :: rest =>
    match options.withScript? script with
    | some extended => ofScripts extended rest
    | none => .misuse

/-- How an argument begins. -/
inductive Shape where
  | script
  | scriptsOnly
  | option (flag : Flag) (attached? : Option String)
  | unknown
deriving DecidableEq, Repr

/-- A letter with what is attached to it; an equality sign in between belongs to neither. -/
def shapeOfLetter (letter : Char) (attached : List Char) : Shape :=
  match Flag.ofLetter? letter with
  | none => .unknown
  | some flag =>
    if flag.takesValue then
      match attached with
      | [] => .option flag none
      | '=' :: value => .option flag (some (String.ofList value))
      | value => .option flag (some (String.ofList value))
    else .option flag none

/-- A long name with what is attached to it by an equality sign. -/
def shapeOfName (text : List Char) : Shape :=
  let (name, attached?) := match Text.cut? '=' text with
    | some (name, value) => (name, some (String.ofList value))
    | none => (text, none)
  match Flag.ofLongName? (String.ofList name) with
  | none => .unknown
  | some flag =>
    if attached?.isSome && !flag.takesValue then .unknown else .option flag attached?

def shapeOf (argument : String) : Shape :=
  match argument.toList with
  | ['-', '-'] => .scriptsOnly
  | '-' :: '-' :: text => shapeOfName text
  | '-' :: letter :: attached => shapeOfLetter letter attached
  | _ => .script

/-- Reads arguments. -/
def read (options : Options) : List String → Request
  | [] => .run options
  | argument :: rest =>
    match shapeOf argument with
    | .unknown => .misuse
    | .scriptsOnly => ofScripts options rest
    | .script =>
      match options.withScript? argument with
      | some extended => read extended rest
      | none => .misuse
    | .option .help _ => .help
    | .option .version _ => .version
    | .option flag (some value) =>
      match options.withValue? flag value with
      | some extended => read extended rest
      | none => .misuse
    | .option flag none =>
      if flag.takesValue then
        match rest with
        | [] => .misuse
        | value :: rest =>
          match if isValue value then options.withValue? flag value else none with
          | some extended => read extended rest
          | none => .misuse
      else
        match options.withSwitch? flag with
        | some extended => read extended rest
        | none => .misuse

/-- What arguments ask for. -/
def ofArguments (arguments : List String) : Request :=
  read Options.none arguments

end Request

/-- The lines of the help text. -/
def helpLines : List String :=
  ["Interactive command shell for emulated machines",
    "",
    "Usage: monitor [OPTIONS] [SCRIPTS]...",
    "",
    "Arguments:",
    "  [SCRIPTS]...  Scripts to include before the prompt",
    "",
    "Options:",
    "      --config <CONFIG>    TOML file with a \x60[monitor]\x60 table",
    "  -e, --execute <COMMAND>  Run a command after the scripts (repeatable)",
    "      --demo               Create a demo machine with a few peripherals",
    "      --plain              Do not print a prompt",
    "      --batch              Exit after the scripts and commands instead of reading stdin",
    "  -h, --help               Print help",
    "  -V, --version            Print version"]

end MachineConsole.Shell
