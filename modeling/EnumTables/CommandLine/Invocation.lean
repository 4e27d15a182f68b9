import EnumTables.CommandLine.Arguments
import EnumTables.Config

/-!
What a command line asks for: one of three commands, a help text, or nothing because it is misused.
Words that neither the program nor the command takes are reported together, by the program.
-/

namespace EnumTables.CommandLine

structure Source where
  config : Option String
  classes : List String
  deriving DecidableEq, Repr

inductive Command where
  | generate (output : String) (source : Source)
  | check (source : Source)
  | init (directory : String)
  deriving DecidableEq, Repr

inductive Request where
  | help (lines : List String)
  | misuse (program : String) (cause : Misuse)
  | run (verbose : Bool) (command : Command)
  deriving DecidableEq, Repr

inductive Setting where
  | verbose
  | config (path : String)
  | reference (text : String)
  deriving DecidableEq, Repr

/-! ## Interfaces -/

def helpOption : OptionForm Setting := ⟨["-h", "--help"], .help⟩

def sourceOptions : List (OptionForm Setting) :=
  [helpOption, ⟨["--config"], .value .config⟩, ⟨["--class"], .value .reference⟩]

def sourceHelp : List String :=
  ["options:",
    "  -h, --help            show this help message and exit",
    "  --config CONFIG       Path to the generator configuration (default:",
    "                        ./" ++ Config.fileName ++ " if present)",
    "  --class MODULE:CLASS  Domain class to process; may be repeated and replaces",
    "                        the configured list"]

def commandLabel : String := "COMMAND"

def outputLabel : String := "OUTPUT_DIR"

def defaultDirectory : String := "."

inductive CommandName where
  | generate
  | check
  | init
  deriving DecidableEq, Repr

namespace CommandName

def all : List CommandName := [generate, check, init]

def text : CommandName → String
  | .generate => "generate"
  | .check => "check"
  | .init => "init"

def ofText? (text : String) : Option CommandName :=
  all.find? fun name => name.text = text

end CommandName

namespace Interface

def top : Interface Setting where
  program := "enumtab"
  options := [helpOption, ⟨["-v", "--verbose"], .mark .verbose⟩]
  operands := .command commandLabel (CommandName.all.map CommandName.text)
  help :=
    ["usage: enumtab [-h] [-v] COMMAND ...",
      "",
      "enumtab: generate Rust data tables from Python enums",
      "",
      "positional arguments:",
      "  COMMAND",
      "    generate     Generate one Rust source file per domain class",
      "    check        Check that every domain class can be rendered",
      "    init         Create a starter configuration file",
      "",
      "options:",
      "  -h, --help     show this help message and exit",
      "  -v, --verbose  Enable debug logging"]

def generate : Interface Setting where
  program := "enumtab generate"
  options := sourceOptions
  operands := .required outputLabel
  help :=
    ["usage: enumtab generate [-h] [--config CONFIG] [--class MODULE:CLASS]",
      "                        OUTPUT_DIR",
      "",
      "Render each configured enum class into a Rust source file in OUTPUT_DIR.",
      "",
      "positional arguments:",
      "  OUTPUT_DIR            Directory to write the generated files to",
      ""] ++ sourceHelp

def check : Interface Setting where
  program := "enumtab check"
  options := sourceOptions
  operands := .none
  help :=
    ["usage: enumtab check [-h] [--config CONFIG] [--class MODULE:CLASS]",
      "",
      "Resolve and render every configured enum class without writing any files.",
      ""] ++ sourceHelp

def init : Interface Setting where
  program := "enumtab init"
  options := [helpOption]
  operands := .optional
  help :=
    ["usage: enumtab init [-h] [directory]",
      "",
      "Write a starter " ++ Config.fileName ++ " into a directory.",
      "",
      "positional arguments:",
      "  directory   Directory to create the configuration in (default: current",
      "              directory)",
      "",
      "options:",
      "  -h, --help  show this help message and exit"]

end Interface

/-! ## Requests -/

/-- The source that settings name; of several configuration files the last counts. -/
def Source.ofSettings (settings : List Setting) : Source where
  config := (settings.filterMap fun
    | .config path => some path
    | _ => none).getLast?
  classes := settings.filterMap fun
    | .reference text => some text
    | _ => none

namespace CommandName

def interface : CommandName → Interface Setting
  | .generate => .generate
  | .check => .check
  | .init => .init

def command (name : CommandName) (given : Given Setting) : Command :=
  match name with
  | .generate => .generate (given.operands.headD "") (.ofSettings given.settings)
  | .check => .check (.ofSettings given.settings)
  | .init => .init (given.operands.headD defaultDirectory)

end CommandName

namespace Request

def ofHalt (interface : Interface Setting) : Halt → Request
  | .help => .help interface.help
  | .misuse cause => .misuse interface.program cause

def unlessExtra (extras : List String) (request : Request) : Request :=
  if extras.isEmpty then request else .misuse Interface.top.program (.unrecognized extras)

def ofCommand (given : Given Setting) (name : CommandName) (words : List String) : Request :=
  match name.interface.read words with
  | .error halt => ofHalt name.interface halt
  | .ok own =>
    unlessExtra (given.extras ++ own.extras)
      (.run (given.settings.contains .verbose) (name.command own))

/-- What a command line asks for. Without a command it is the help text. -/
def ofArguments (words : List String) : Request :=
  match Interface.top.read words with
  | .error halt => ofHalt .top halt
  | .ok given => match given.operands.head?.bind CommandName.ofText? with
    | some name => ofCommand given name given.operands.tail
    | none => unlessExtra given.extras (.help Interface.top.help)

end Request

end EnumTables.CommandLine
