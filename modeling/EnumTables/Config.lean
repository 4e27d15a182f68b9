import EnumTables.FileTree
import EnumTables.Fault
import EnumTables.Identifier
import EnumTables.SourceUnit
import EnumTables.Yaml.Writer

/-!
The configuration of the generator: which enumerations are generated, the first line of every unit,
and what the names of generated files end with.
-/

namespace EnumTables

structure Config where
  domainClasses : List String
  prelude : String
  suffix : String
  deriving DecidableEq, Repr

namespace Config

def default : Config := ⟨[], SourceUnit.defaultPrelude, Identifier.defaultSuffix⟩

def fileName : String := "enumtab.yaml"

def classesKey : String := "domain-classes"

def preludeKey : String := "prelude"

def suffixKey : String := "file-suffix"

def starterHead : String :=
  "# enumtab generator configuration\n# List enum classes as 'package.module:ClassName'.\n"

def write (config : Config) : String :=
  starterHead ++ Yaml.Writer.mapping
    [(classesKey, .list config.domainClasses), (preludeKey, .text config.prelude),
      (suffixKey, .text config.suffix)]

def starter (classes : List String) : String :=
  write { default with domainClasses := classes }

end Config

inductive ConfigFailure where
  | absent (path : FilePath)
  | unreadable (path : FilePath) (cause : Raised)
  | malformed (path : FilePath)
  | notMapping (path : FilePath)
  | invalid (path : FilePath) (faults : List Fault)
  | undecodable
  | exception (raised : Raised)

namespace ConfigFailure

def report? : ConfigFailure → Option String
  | .absent path => some ("Generator config file not found: " ++ path.text)
  | .unreadable path cause =>
    some ("Cannot read generator config file '" ++ path.text ++ "': " ++ cause.message)
  | .malformed path => some ("Invalid YAML in '" ++ path.text ++ "'")
  | .notMapping path => some (path.text ++ ": generator config must be a YAML mapping")
  | .invalid path _ => some ("Invalid generator config '" ++ path.text ++ "'")
  | .undecodable | .exception _ => none

end ConfigFailure

end EnumTables
