import EnumTables.ClassModel
import EnumTables.FilePath
import EnumTables.Raised
import EnumTables.Text.Quoted

/-!
File trees: directories and files at places, with a working directory, and what reading, writing
and making directories do to them. A place is the list of names from the root to it.
-/

namespace EnumTables

abbrev Place := List String

inductive Node where
  | directory
  | text (content : String)
  | bytes (content : List UInt8)
  | module (model : ModuleModel)

namespace Node

def isDirectory : Node → Bool
  | .directory => true
  | _ => false

end Node

inductive Obstacle where
  | notFound
  | exists
  | notDirectory
  | isDirectory
  | nameTooLong
  deriving DecidableEq, Repr

namespace Obstacle

def report : Obstacle → Nat × String
  | .notFound => (2, "No such file or directory")
  | .exists => (17, "File exists")
  | .notDirectory => (20, "Not a directory")
  | .isDirectory => (21, "Is a directory")
  | .nameTooLong => (36, "File name too long")

def kind : Obstacle → String
  | .notFound => "FileNotFoundError"
  | .exists => "FileExistsError"
  | .notDirectory => "NotADirectoryError"
  | .isDirectory => "IsADirectoryError"
  | .nameTooLong => "OSError"

end Obstacle

inductive FileError where
  | blocked (obstacle : Obstacle) (path : FilePath)
  | impossibleName

namespace FileError

def raised : FileError → Raised
  | .blocked obstacle path =>
    ⟨obstacle.kind, "[Errno " ++ Decimal.numeral obstacle.report.1 ++ "] " ++
      obstacle.report.2 ++ ": " ++ Text.quote path.text⟩
  | .impossibleName => .valueError "embedded null byte"

end FileError

structure FileTree where
  working : Place
  nodes : List (Place × Node)

inductive Target where
  | found (place : Place) (node : Node)
  /-- Nothing is there, and the directory that it would be in exists. -/
  | absent (place : Place)

namespace FileTree

def longestName : Nat := 255

def longestPath : Nat := 4095

def node? (tree : FileTree) (place : Place) : Option Node :=
  if place.isEmpty then some .directory else tree.nodes.lookup place

def putInto (place : Place) (node : Node) : List (Place × Node) → List (Place × Node)
  | [] => [(place, node)]
  | (other, old) :: rest =>
    if other = place then (place, node) :: rest else (other, old) :: putInto place node rest

theorem lookup_putInto (place other : Place) (node : Node) (nodes : List (Place × Node)) :
    (putInto place node nodes).lookup other =
      if other = place then some node else nodes.lookup other := by
  induction nodes with
  | nil =>
    by_cases h : other = place
    · simp [putInto, h]
    · simp [putInto, h, List.lookup_cons, beq_false_of_ne h]
  | cons entry rest ih =>
    obtain ⟨first, old⟩ := entry
    by_cases same : first = place
    · subst same
      by_cases h : other = first
      · simp [putInto, h]
      · simp [putInto, h, List.lookup_cons, beq_false_of_ne h]
    · by_cases h : other = first
      · simp [putInto, same, h]
      · simp [putInto, same, List.lookup_cons, beq_false_of_ne h, ih]

def put (tree : FileTree) (place : Place) (node : Node) : FileTree :=
  { tree with nodes := putInto place node tree.nodes }

theorem node?_put (tree : FileTree) (place other : Place) (node : Node) (h : place ≠ []) :
    (tree.put place node).node? other = if other = place then some node else tree.node? other := by
  by_cases root : other = []
  · simp [node?, root, h.symm]
  · simp [node?, put, root, lookup_putInto]

def plant (tree : FileTree) (place : Place) (node : Node) : FileTree :=
  let above := (List.range place.length).map fun length => place.take length
  let tree := above.foldl (fun tree directory =>
    if (tree.node? directory).isSome then tree else tree.put directory .directory) tree
  tree.put place node

def remove (tree : FileTree) (place : Place) : FileTree :=
  { tree with nodes := tree.nodes.filter fun entry => !place.isPrefixOf entry.1 }

def below (tree : FileTree) (place : Place) : List (Place × Node) :=
  (tree.nodes.filter fun entry => place.isPrefixOf entry.1).map fun entry =>
    (entry.1.drop place.length, entry.2)

def enter (tree : FileTree) (place : Place) (name : String) : Except Obstacle Target :=
  match tree.node? place with
  | some .directory =>
    if name = FilePath.upward then .ok (.found place.dropLast .directory)
    else if longestName < name.utf8ByteSize then .error .nameTooLong
    else match tree.node? (place ++ [name]) with
      | some node => .ok (.found (place ++ [name]) node)
      | none => .ok (.absent (place ++ [name]))
  | some _ => .error .notDirectory
  | none => .error .notFound

def follow (tree : FileTree) : Target → List String → Except Obstacle Target
  | target, [] => .ok target
  | .absent _, _ :: _ => .error .notFound
  | .found place _, name :: rest => do
    let target ← tree.enter place name
    follow tree target rest

def target (tree : FileTree) (path : FilePath) : Except FileError Target :=
  if path.hasNul then .error .impossibleName
  else if longestPath < path.text.utf8ByteSize then .error (.blocked .nameTooLong path)
  else
    let start := if path.isAbsolute then [] else tree.working
    (tree.follow (.found start .directory) path.parts).mapError (FileError.blocked · path)

def contains (tree : FileTree) (path : FilePath) : Except FileError Bool :=
  match tree.target path with
  | .ok (.found _ _) => .ok true
  | .ok (.absent _) | .error .impossibleName | .error (.blocked .notFound _)
  | .error (.blocked .notDirectory _) => .ok false
  | .error error => .error error

def isDirectory (tree : FileTree) (path : FilePath) : Bool :=
  match tree.target path with
  | .ok (.found _ node) => node.isDirectory
  | _ => false

def read (tree : FileTree) (path : FilePath) : Except FileError Node := do
  match ← tree.target path with
  | .found _ node =>
    if node.isDirectory then .error (.blocked .isDirectory path) else .ok node
  | .absent _ => .error (.blocked .notFound path)

def write (tree : FileTree) (path : FilePath) (content : String) : Except FileError FileTree := do
  match ← tree.target path with
  | .found place node =>
    if node.isDirectory then .error (.blocked .isDirectory path)
    else .ok (tree.put place (.text content))
  | .absent place => .ok (tree.put place (.text content))

def makeDirectory (tree : FileTree) (path : FilePath) : Except FileError FileTree := do
  match ← tree.target path with
  | .found _ _ => .error (.blocked .exists path)
  | .absent place => .ok (tree.put place .directory)

def ensureDirectory (tree : FileTree) (path : FilePath) : Except FileError FileTree :=
  match tree.makeDirectory path with
  | .ok tree => .ok tree
  | .error (.blocked .notFound path) => .error (.blocked .notFound path)
  | .error error => if tree.isDirectory path then .ok tree else .error error

/-- Makes a directory at the end of a path, and those above it where they are absent. Directories
that were made before a failure stay. -/
def makeDirectories (tree : FileTree) (path : FilePath) : FileTree × Except FileError Unit :=
  match tree.ensureDirectory path with
  | .ok tree => (tree, .ok ())
  | .error error =>
    if _h : error matches .blocked .notFound _ ∧ path.parts ≠ [] then
      match makeDirectories tree path.parent with
      | (tree, .error error) => (tree, .error error)
      | (tree, .ok ()) => match tree.ensureDirectory path with
        | .ok tree => (tree, .ok ())
        | .error error => (tree, .error error)
    else (tree, .error error)
termination_by path.parts.length
decreasing_by
  have nonempty : 0 < path.parts.length := List.length_pos_iff.mpr _h.2
  simp only [FilePath.parent, List.length_dropLast]
  omega

end FileTree

end EnumTables
