import EnumTables.DomainClass.Loading
import EnumTables.Drain
import EnumTables.Identifier
import EnumTables.Reference
import EnumTables.SourceUnit

/-!
Generation of source files: each reference is followed, its enumeration loaded and written as a
source unit, and the unit put into a file. The first failure ends the run; files that were written
before it stay.
-/

namespace EnumTables

/-- Where references are looked up: files, the directories in which modules are looked for, the
modules imported so far, and the streams in them that were read. -/
structure Workspace where
  tree : FileTree
  roots : List Place
  modules : ModuleTable
  spent : Spent

namespace Workspace

def logSource : String := "enumtab.codegen.generate"

def resolve (workspace : Workspace) (reference : String) :
    Workspace × Except Failure (Scope × ClassObject) :=
  let (modules, outcome) :=
    Reference.resolve workspace.tree workspace.roots workspace.modules reference
  ({ workspace with modules := modules }, outcome)

def loadedRecord (cls : DomainClass) : LogRecord :=
  ⟨.debug, logSource, "Loaded " ++ cls.name ++ ": " ++ Decimal.numeral cls.properties.length ++
    " properties, " ++ Decimal.numeral cls.variants.length ++ " variants"⟩

def fresh (release : Release) (tree : FileTree) (roots : List Place) : Workspace :=
  ⟨tree, roots, .initial release, []⟩

def emissionFailure (className : String) : EmissionError → Failure
  | .raised cause => .exception cause
  | error => .emission className error

def render (spent : Spent) (scope : Scope) (cls : ClassObject) (prelude : String) :
    Spent × Logged (Except Failure (String × String)) :=
  match DomainClass.load scope cls with
  | ⟨log, .error failure⟩ => (spent, ⟨log, .error failure⟩)
  | ⟨log, .ok loaded⟩ =>
    let (loaded, spent) := loaded.drained.run spent
    (spent, do
      let emitted : Except EmissionError String ←
        ⟨log ++ [loadedRecord loaded], ()⟩ >>= fun _ => SourceUnit.emit loaded prelude
      match emitted with
      | .ok text => return .ok (loaded.name, text)
      | .error error => return .error (emissionFailure loaded.name error))

def renderClass (workspace : Workspace) (reference prelude : String) :
    Workspace × Logged (Except Failure (String × String)) :=
  match workspace.resolve reference with
  | (workspace, .ok (scope, cls)) =>
    let (spent, outcome) := render workspace.spent scope cls prelude
    ({ workspace with spent := spent }, outcome)
  | (workspace, .error failure) => (workspace, ⟨[], .error failure⟩)

def writingFailure (path : FilePath) : FileError → Failure
  | .impossibleName => .exception FileError.impossibleName.raised
  | error => .unwritable path error.raised

def writeSource (workspace : Workspace) (text : String) (path : FilePath) :
    Workspace × Except Failure Unit :=
  match workspace.tree.makeDirectories path.parent with
  | (tree, .error error) => ({ workspace with tree := tree }, .error (writingFailure path error))
  | (tree, .ok ()) => match tree.write path text with
    | .ok tree => ({ workspace with tree := tree }, .ok ())
    | .error error => ({ workspace with tree := tree }, .error (writingFailure path error))

abbrev Generated := Workspace × Logged (Except Failure (List FilePath))

def Generated.after (log : List LogRecord) (generated : Generated) : Generated :=
  (generated.1, ⟨log ++ generated.2.log, generated.2.result⟩)

def generate (output : FilePath) (prelude suffix : String) (workspace : Workspace) :
    List String → Generated
  | [] => (workspace, ⟨[], .ok []⟩)
  | reference :: rest => match workspace.renderClass reference prelude with
    | (workspace, ⟨log, .error failure⟩) => (workspace, ⟨log, .error failure⟩)
    | (workspace, ⟨log, .ok (name, text)⟩) =>
      let path := output.child (Identifier.fileName name suffix)
      match workspace.writeSource text path with
      | (workspace, .error failure) => (workspace, ⟨log, .error failure⟩)
      | (workspace, .ok ()) =>
        let written : LogRecord := ⟨.info, logSource, "Wrote " ++ path.text⟩
        match generate output prelude suffix workspace rest with
        | (workspace, ⟨others, result⟩) =>
          (workspace, ⟨log ++ [written] ++ others, result.map (path :: ·)⟩)

end Workspace

end EnumTables
