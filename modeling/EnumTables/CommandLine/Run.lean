import EnumTables.CommandLine.Invocation
import EnumTables.Config.Reading
import EnumTables.Generation

/-!
Runs of the program: what a command line prints, how the run ends, and what it leaves of the files.
A foreseen failure is one line on the error stream and the exit code 1; `check` goes on after one,
`generate` stops. Log records go to the error stream, between the lines of the run.
-/

namespace EnumTables.CommandLine

inductive Line where
  | output (text : String)
  | error (text : String)
  deriving DecidableEq, Repr

inductive Ending where
  | exit (code : Nat)
  | failure (failure : Failure)
  | configFailure (failure : ConfigFailure)

structure Interpreter where
  release : Release
  yaml : Yaml.Runtime

namespace Interpreter

def usual : Interpreter :=
  ⟨.named, .ofLevels 480⟩

end Interpreter

structure Outcome where
  tree : FileTree
  lines : List Line
  ending : Ending

def logSource : String := "enumtab.cli.main"

namespace Line

/-- The lines of log records. Unless all are asked for, those of low levels are left out. -/
def ofLog (verbose : Bool) (log : List LogRecord) : List Line :=
  (log.filter fun record => verbose || record.level.isSevere).map fun record => .error record.line

def report (text : String) : Line :=
  .error ("Error: " ++ text)

end Line

namespace Outcome

def after (lines : List Line) (outcome : Outcome) : Outcome :=
  { outcome with lines := lines ++ outcome.lines }

def text (lines : List String) : String :=
  String.join (lines.map fun line => line ++ "\n")

def output (outcome : Outcome) : String :=
  text (outcome.lines.filterMap fun
    | .output line => some line
    | .error _ => none)

def errors (outcome : Outcome) : String :=
  text (outcome.lines.filterMap fun
    | .error line => some line
    | .output _ => none)

def ofFailure (tree : FileTree) (failure : Failure) : Outcome :=
  match failure.report? with
  | some report => ⟨tree, [.report report], .exit 1⟩
  | none => ⟨tree, [], .failure failure⟩

def ofConfigFailure (tree : FileTree) (failure : ConfigFailure) : Outcome :=
  match failure.report? with
  | some report => ⟨tree, [.report report], .exit 1⟩
  | none => ⟨tree, [], .configFailure failure⟩

def ofFileError (tree : FileTree) (error : FileError) : Outcome :=
  ⟨tree, [], .failure (.exception error.raised)⟩

end Outcome

/-! ## Configuration -/

def configPath (directory : Place) : FilePath :=
  FilePath.ofPlace (directory ++ [Config.fileName])

namespace Source

def loadDefault (runtime : Yaml.Runtime) (tree : FileTree) : Except ConfigFailure Config :=
  match tree.contains (configPath tree.working) with
  | .ok true => Config.load runtime tree (configPath tree.working)
  | .ok false => .ok Config.default
  | .error error => .error (.exception error.raised)

/-- The configuration of a run. References on the command line stand for those of the file. -/
def load (source : Source) (runtime : Yaml.Runtime) (tree : FileTree) :
    Except ConfigFailure Config := do
  let config ← match source.config with
    | some path => Config.load runtime tree (FilePath.ofText path)
    | none => loadDefault runtime tree
  return if source.classes.isEmpty then config else { config with domainClasses := source.classes }

/-- The directories in which modules are looked for: that of the configuration file if one was
named, and the working directory. -/
def roots (source : Source) (working : Place) : List Place :=
  match source.config with
  | some path => [((FilePath.ofText path).place working).dropLast, working]
  | none => [working]

def rootRecords (source : Source) (working : Place) : List LogRecord :=
  (source.roots working).reverse.map fun root =>
    ⟨.debug, logSource, "Added " ++ (FilePath.ofPlace root).text ++ " to the import path"⟩

def workspace (source : Source) (release : Release) (tree : FileTree) : Workspace :=
  .fresh release tree (source.roots tree.working)

def withConfig (source : Source) (runtime : Yaml.Runtime) (tree : FileTree) (verbose : Bool)
    (run : Config → Outcome) : Outcome :=
  match source.load runtime tree with
  | .error failure => .ofConfigFailure tree failure
  | .ok config => (run config).after (Line.ofLog verbose (source.rootRecords tree.working))

end Source

/-! ## Commands -/

def quoted (path : FilePath) : String :=
  "'" ++ path.text ++ "'"

def generate (interpreter : Interpreter) (tree : FileTree) (verbose : Bool) (output : String)
    (source : Source) : Outcome :=
  source.withConfig interpreter.yaml tree verbose fun config =>
    if config.domainClasses.isEmpty then
      ⟨tree, [.output "No domain classes configured. Nothing to generate."], .exit 0⟩
    else if (FilePath.ofText output).hasNul then .ofFileError tree .impossibleName
    else
      let directory := FilePath.ofPlace ((FilePath.ofText output).place tree.working)
      let (workspace, ⟨log, result⟩) :=
        (source.workspace interpreter.release tree).generate directory config.prelude config.suffix
          config.domainClasses
      let outcome : Outcome := match result with
        | .ok paths => ⟨workspace.tree, paths.map fun path => .output ("  " ++ path.name), .exit 0⟩
        | .error failure => .ofFailure workspace.tree failure
      outcome.after (.output ("Generating " ++ Decimal.numeral config.domainClasses.length ++
        " domain class(es) into " ++ quoted directory ++ "...") :: Line.ofLog verbose log)

/-- Renders references without writing them. `sound` says that none has failed so far. -/
def checkAll (workspace : Workspace) (verbose : Bool) (prelude : String) (sound : Bool) :
    List String → Outcome
  | [] =>
    if sound then ⟨workspace.tree, [.output "No issues found."], .exit 0⟩
    else ⟨workspace.tree, [], .exit 1⟩
  | reference :: rest => match workspace.renderClass reference prelude with
    | (workspace, ⟨log, .ok (name, _)⟩) =>
      (checkAll workspace verbose prelude sound rest).after
        (Line.ofLog verbose log ++ [.output ("  " ++ name ++ ": ok")])
    | (workspace, ⟨log, .error failure⟩) => match failure.report? with
      | some report =>
        (checkAll workspace verbose prelude false rest).after
          (Line.ofLog verbose log ++ [.report (reference ++ ": " ++ report)])
      | none => ⟨workspace.tree, Line.ofLog verbose log, .failure failure⟩

def check (interpreter : Interpreter) (tree : FileTree) (verbose : Bool) (source : Source) :
    Outcome :=
  source.withConfig interpreter.yaml tree verbose fun config =>
    if config.domainClasses.isEmpty then
      ⟨tree, [.output "No domain classes configured. Nothing to check."], .exit 0⟩
    else
      checkAll (source.workspace interpreter.release tree) verbose config.prelude true
        config.domainClasses

def init (tree : FileTree) (directory : String) : Outcome :=
  let path := FilePath.ofText directory
  let place := path.place tree.working
  if path.hasNul then .ofFileError tree .impossibleName
  else match tree.contains (FilePath.ofPlace place), tree.contains (configPath place) with
  | .error error, _ => .ofFileError tree error
  | .ok false, _ =>
    ⟨tree, [.report ("directory " ++ quoted (FilePath.ofPlace place) ++ " does not exist.")],
      .exit 1⟩
  | .ok true, .error error => .ofFileError tree error
  | .ok true, .ok true =>
    ⟨tree, [.report ("configuration already exists at " ++ quoted (configPath place) ++ ".")],
      .exit 1⟩
  | .ok true, .ok false => match tree.write (configPath place) (Config.starter []) with
    | .error error => .ofFileError tree error
    | .ok tree =>
      ⟨tree, [.output ("Created configuration at " ++ quoted (configPath place) ++ ".")], .exit 0⟩

namespace Request

def perform (interpreter : Interpreter) (tree : FileTree) : Request → Outcome
  | .help lines => ⟨tree, lines.map Line.output, .exit 0⟩
  | .misuse program cause => ⟨tree, [.error (program ++ ": error: " ++ cause.message)], .exit 2⟩
  | .run verbose (.generate output source) => generate interpreter tree verbose output source
  | .run verbose (.check source) => check interpreter tree verbose source
  | .run _ (.init directory) => init tree directory

end Request

def run (interpreter : Interpreter) (tree : FileTree) (words : List String) : Outcome :=
  (Request.ofArguments words).perform interpreter tree

end EnumTables.CommandLine
