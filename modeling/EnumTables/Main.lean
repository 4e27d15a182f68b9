import EnumTables.CommandLine.Run

/-!
The command line program: brings the files that a run looks at into a file tree, runs, prints, and
writes the files that changed.
-/

namespace EnumTables.CommandLine

def Request.inputs (working : Place) : Request → List FilePath
  | .help _ | .misuse _ _ => []
  | .run _ (.generate _ source) | .run _ (.check source) =>
    [source.config.elim (configPath working) FilePath.ofText]
  | .run _ (.init directory) =>
    let place := (FilePath.ofText directory).place working
    [FilePath.ofPlace place, configPath place]

/-- Puts the file at the end of a path into a tree. What is there but cannot be read is taken for a
directory. -/
def plantFile (tree : FileTree) (path : FilePath) : IO FileTree := do
  let place := path.place tree.working
  try
    return tree.plant place (.bytes (← IO.FS.readBinFile path.text).toList)
  catch
    | .noFileOrDirectory .. => return tree
    | _ => return tree.plant place .directory

def writeFile (place : Place) (text : String) : IO Unit := do
  IO.FS.createDirAll (FilePath.ofPlace place).parent.text
  IO.FS.writeFile (FilePath.ofPlace place).text text

def writeFiles (tree : FileTree) : IO Unit := do
  for (place, node) in tree.nodes do
    match node with
    | .text text => writeFile place text
    | _ => pure ()

namespace Ending

/-- Exit code of a run: failures without a report end it like those with one. -/
def code : Ending → Nat
  | .exit code => code
  | .failure _ | .configFailure _ => 1

def complaint : Ending → String
  | .failure (.exception raised) | .configFailure (.exception raised) =>
    raised.kind ++ ": " ++ raised.message ++ "\n"
  | .failure _ => "a member does not fit a domain class\n"
  | .configFailure _ => "the configuration is not text\n"
  | .exit _ => ""

end Ending

def program (words : List String) : IO UInt32 := do
  let working := (FilePath.ofText (← IO.currentDir).toString).parts
  let start := (FileTree.mk working []).plant working .directory
  let tree ← ((Request.ofArguments words).inputs working).foldlM plantFile start
  let outcome := run .usual tree words
  writeFiles outcome.tree
  IO.print outcome.output
  IO.eprint (outcome.errors ++ outcome.ending.complaint)
  return UInt32.ofNat outcome.ending.code

end EnumTables.CommandLine

def main (words : List String) : IO UInt32 :=
  EnumTables.CommandLine.program words
