import EnumTables.Text.Basic

/-!
File paths: the slashes in front and the names between slashes. Empty names and single dots are
left out; double dots are kept, because what they lead to depends on the files.
-/

namespace EnumTables

structure FilePath where
  root : String
  parts : List String
  deriving DecidableEq, Repr

namespace FilePath

def upward : String := ".."

/-- The slashes in front of a path: two are kept, any other number counts as one. -/
def rootOf (text : List Char) : String :=
  match (text.takeWhile (· == '/')).length with
  | 0 => ""
  | 2 => "//"
  | _ => "/"

def ofText (text : String) : FilePath :=
  ⟨rootOf text.toList, (Text.split '/' text).filter fun name => name ≠ "" && name ≠ "."⟩

def isAbsolute (path : FilePath) : Bool :=
  path.root ≠ ""

def text (path : FilePath) : String :=
  if path.root = "" && path.parts.isEmpty then "."
  else path.root ++ String.intercalate "/" path.parts

def join (path other : FilePath) : FilePath :=
  if other.isAbsolute then other else ⟨path.root, path.parts ++ other.parts⟩

def child (path : FilePath) (name : String) : FilePath :=
  path.join (ofText name)

def parent (path : FilePath) : FilePath :=
  ⟨path.root, path.parts.dropLast⟩

def name (path : FilePath) : String :=
  path.parts.getLastD ""

def ofPlace (place : List String) : FilePath :=
  ⟨"/", place⟩

def follow (place : List String) (name : String) : List String :=
  if name = upward then place.dropLast else place ++ [name]

/-- The place that a path leads to from a working directory, without looking at files. -/
def place (path : FilePath) (working : List String) : List String :=
  path.parts.foldl follow (if path.isAbsolute then [] else working)

def hasNul (path : FilePath) : Bool :=
  path.parts.any fun name => name.toList.contains '\x00'

end FilePath

end EnumTables
