import EnumTables.Failure
import EnumTables.ModuleTable

/-!
References to enumerations: a module name and a dotted path of attributes in it. A reference is
followed by importing the module and reading one attribute after the other.
-/

namespace EnumTables

inductive Destination where
  | module (name : String)
  | entity (scope : Scope) (entity : Entity)

namespace Destination

def moduleContents : List (String × String) :=
  [("str", "__name__ __package__"), ("dict", "__dict__ __annotations__"),
    ("object", "__doc__ __loader__ __spec__")]

def fileContents : List (String × String) :=
  [("str", "__file__ __cached__"), ("dict", "__builtins__")]

def packageContents : List (String × String) :=
  [("list", "__path__"), ("NoneType", "__file__")]

def implied? (found : LoadedModule) (name : String) : Option Entity :=
  let contents := match found with
    | .package _ => moduleContents ++ packageContents
    | .standard true => moduleContents ++ fileContents ++ packageContents
    | .described _ | .standard false => moduleContents ++ fileContents
  let type := (contents.find? fun row => (Text.split ' ' row.2).contains name).map Prod.fst |>.or
    ((StandardClass.attributeKind? StandardClass.object name).map NativeKind.typeOnObject)
  if name = "__class__" then some (.cls (.builtin "module"))
  else type.map fun type => .unnamed type name

def defined? (found : LoadedModule) (module name : String) : Option Destination :=
  match found with
  | .described scope => match scope.names.lookup name with
    | some cls => some (.entity scope (.cls cls))
    | none => (TypeForm.moduleName? scope name).map fun form => .entity scope (.ofForm form)
  | .standard _ => match StandardModule.linked? module name with
    | some linked => some (.module linked)
    | none => (StandardModule.entity? module name).map (.entity (StandardModule.scope module))
  | .package _ => none

/-- An attribute of a module: a part of it that was imported, or what it has itself. -/
def ofModule? (table : ModuleTable) (module name : String) : Option Destination := do
  let path := module ++ "." ++ name
  let found ← table.find? module
  ((table.find? path).map fun _ => .module path).or <| (defined? found module name).or <|
    (implied? found name).map fun entity => .entity ⟨table.release, module, [], []⟩ entity

def read (table : ModuleTable) (place : Destination) (name : String) : Except Raised Destination :=
  match place with
  | .module path => match ofModule? table path name with
    | some found => .ok found
    | none => .error (.attributeError
        ("module " ++ Text.quote path ++ " has no attribute " ++ Text.quote name))
  | .entity scope found => do return .entity scope (← scope.read found name)

end Destination

structure Reference where
  text : String
  module : String
  path : String

namespace Reference

def splitLast (separator : Char) (text : List Char) : List Char × List Char :=
  let behind := (text.reverse.takeWhile (· != separator)).reverse
  (text.take (text.length - behind.length - 1), behind)

/-- Reads a reference: a colon ends the name of the module; without a colon the last point does.
Both parts must be there. -/
def ofText? (text : String) : Option Reference :=
  let chars := text.toList
  let (module, path) :=
    if chars.contains ':' then
      (chars.takeWhile (· != ':'), (chars.dropWhile (· != ':')).drop 1)
    else if chars.contains '.' then splitLast '.' chars
    else ([], chars)
  if module.isEmpty || path.isEmpty then none
  else some ⟨text, String.ofList module, String.ofList path⟩

def names (reference : Reference) : List String :=
  Text.split '.' reference.path

def follow (table : ModuleTable) (reference : Reference) :
    Destination → List String → Except Failure Destination
  | place, [] => .ok place
  | place, name :: rest => match place.read table name with
    | .ok next => follow table reference next rest
    | .error raised =>
      if raised.kind = "AttributeError" then .error (.attributeMissing reference.text name)
      else .error (.exception raised)

def locate (table : ModuleTable) (reference : Reference) :
    Except Failure (Scope × ClassObject) := do
  match ← reference.follow table (.module reference.module) reference.names with
  | .entity scope (.cls name) =>
    let cls := ClassObject.ofName scope name
    if cls.enumeration.isSome then .ok (scope, cls) else .error (.notEnumeration reference.text)
  | _ => .error (.notEnumeration reference.text)

def resolve (tree : FileTree) (roots : List Place) (table : ModuleTable) (text : String) :
    ModuleTable × Except Failure (Scope × ClassObject) :=
  match ofText? text with
  | none => (table, .error (.malformed text))
  | some reference => match table.importModule tree roots reference.module with
    | (table, .error raised) =>
      (table, .error (if raised.isImportError then .unimportable reference.module raised
        else .exception raised))
    | (table, .ok ()) => (table, reference.locate table)

end Reference

end EnumTables
