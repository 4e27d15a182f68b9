import EnumTables.FileTree
import EnumTables.StandardModule

/-!
Importing modules by dotted names. The parts of a name are imported one after the other: a file
holds a module, and a directory holds further parts. What was imported stays in the table, and a
module that raises an exception does not get into it.
-/

namespace EnumTables

inductive LoadedModule where
  | described (scope : Scope)
  | package (directories : List Place)
  | standard (hasParts : Bool)

structure ModuleTable where
  release : Release
  loaded : List (String × LoadedModule)

namespace ModuleTable

def initial (release : Release) : ModuleTable :=
  ⟨release, StandardModule.early.map fun module =>
    (module, .standard (StandardModule.hasParts module))⟩

def find? (table : ModuleTable) (name : String) : Option LoadedModule :=
  table.loaded.lookup name

def add (table : ModuleTable) (name : String) (module : LoadedModule) : ModuleTable :=
  { table with loaded := table.loaded ++ [(name, module)] }

def source? (tree : FileTree) (name : String) (directories : List Place) : Option ModuleModel :=
  directories.findSome? fun directory => match tree.node? (directory ++ [name ++ ".py"]) with
    | some (.module model) => some model
    | _ => none

def portions (tree : FileTree) (name : String) (directories : List Place) : List Place :=
  (directories.map fun directory => directory ++ [name]).filter fun place =>
    (tree.node? place).any Node.isDirectory

def load (tree : FileTree) (release : Release) (fullName name : String)
    (directories : List Place) : Except Raised LoadedModule :=
  match StandardModule.isKnown fullName, source? tree name directories,
    portions tree name directories with
  | true, _, _ => .ok (.standard (StandardModule.hasParts fullName))
  | false, some model, _ => do return .described (← model.run release fullName)
  | false, none, [] => .error ⟨"ModuleNotFoundError", "No module named " ++ Text.quote fullName⟩
  | false, none, found => .ok (.package found)

def LoadedModule.directories? : LoadedModule → Option (List Place)
  | .package directories => some directories
  | .standard true => some []
  | _ => none

def partless (fullName parent : String) : Raised :=
  ⟨"ModuleNotFoundError",
    "No module named " ++ Text.quote fullName ++ "; " ++ Text.quote parent ++ " is not a package"⟩

def importPart (tree : FileTree) (roots : List Place) (table : ModuleTable) (parent : Option String)
    (name : String) : Except Raised ModuleTable :=
  let fullName := match parent with
    | none => name
    | some parent => parent ++ "." ++ name
  match table.find? fullName, parent with
  | some _, _ => .ok table
  | none, none => do return table.add fullName (← load tree table.release fullName name roots)
  | none, some parent => match (table.find? parent).bind LoadedModule.directories? with
    | none => .error (partless fullName parent)
    | some directories => do
      return table.add fullName (← load tree table.release fullName name directories)

/-- Imports the parts of a name below `parent`. Parts that were imported before a failure stay. -/
def importParts (tree : FileTree) (roots : List Place) (table : ModuleTable)
    (parent : Option String) : List String → ModuleTable × Except Raised Unit
  | [] => (table, .ok ())
  | name :: rest => match table.importPart tree roots parent name with
    | .error raised => (table, .error raised)
    | .ok table =>
      let fullName := match parent with
        | none => name
        | some parent => parent ++ "." ++ name
      importParts tree roots table (some fullName) rest

def importModule (tree : FileTree) (roots : List Place) (table : ModuleTable) (name : String) :
    ModuleTable × Except Raised Unit :=
  if name.toList.head? == some '.' then
    (table, .error (.typeError
      ("the 'package' argument is required to perform a relative import for " ++ Text.quote name)))
  else table.importParts tree roots none (Text.split '.' name)

end ModuleTable

end EnumTables
