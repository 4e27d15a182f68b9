import EnumTables.Config
import EnumTables.DomainClass.Reading
import EnumTables.Value.Text
import EnumTables.Yaml.Document

/-!
Reading a configuration from a file. Settings may be written with hyphens or underscores; of both
the one with hyphens counts, and the other is not expected. Faults of settings come first, in a
fixed order, and then those of other entries, in the order of the file.
-/

namespace EnumTables.Config

open Checked (both)

/-- A setting under the first of its names that is there, which is also where its faults are. -/
def setting {α : Type} (entries : List (String × Value)) (name other : String) (absent : α)
    (read : Value → Checked α) : Checked α :=
  match entries.lookup name, entries.lookup other with
  | some value, _ => (read value).within (.key name)
  | none, some value => (read value).within (.key other)
  | none, none => .ok absent

def readTexts : Value → Checked (List String)
  | .collection .list items | .collection .set items => .parts Value.readText items 0
  | _ => .fault .notList

def otherName (name : String) : String :=
  String.ofList (name.toList.map fun c => if c = '-' then '_' else c)

def usedName (entries : List (String × Value)) (name : String) : String :=
  if (entries.lookup name).isSome then name else otherName name

def entryFault? (used : List String) (key : Value) : Option Fault :=
  match key with
  | .text name => if used.contains name then none else some ⟨[key.step], .unexpected⟩
  | _ => some ⟨[key.step], .keyNotText⟩

def readOthers (used : List String) (keys : List Value) : Checked Unit :=
  match keys.filterMap (entryFault? used) with
  | [] => .ok ()
  | faults => .error faults

def readEntries (entries : List (Value × Value)) : Checked Config :=
  let named := entries.filterMap fun
    | (.text name, value) => some (name, value)
    | _ => none
  let used := [classesKey, preludeKey, suffixKey].map (usedName named)
  both (fun config _ => config)
    (both (fun classes rest => ⟨classes, rest.1, rest.2⟩)
      (setting named classesKey (otherName classesKey) default.domainClasses readTexts)
      (both Prod.mk
        (setting named preludeKey (otherName preludeKey) default.prelude Value.readText)
        (setting named suffixKey (otherName suffixKey) default.suffix Value.readText)))
    (readOthers used (entries.map Prod.fst))

def unifyLines : List Char → List Char
  | '\r' :: '\n' :: rest => '\n' :: unifyLines rest
  | '\r' :: rest => '\n' :: unifyLines rest
  | c :: rest => c :: unifyLines rest
  | [] => []

def textOf : Node → Option String
  | .text content => some content
  | .bytes content => String.fromUTF8? ⟨content.toArray⟩
  | _ => none

def ofText (runtime : Yaml.Runtime) (path : FilePath) (text : String) :
    Except ConfigFailure Config :=
  match Yaml.read runtime (String.ofList (unifyLines text.toList)) with
  | .error .malformed => .error (.malformed path)
  | .error (.exception raised) => .error (.exception raised)
  | .ok .null => .ok default
  | .ok (.mapping _ entries) => (readEntries entries).mapError (.invalid path)
  | .ok _ => .error (.notMapping path)

def load (runtime : Yaml.Runtime) (tree : FileTree) (path : FilePath) :
    Except ConfigFailure Config :=
  match tree.read path with
  | .error (.blocked .notFound _) => .error (.absent path)
  | .error .impossibleName => .error (.exception FileError.impossibleName.raised)
  | .error error => .error (.unreadable path error.raised)
  | .ok node => match textOf node with
    | none => .error .undecodable
    | some text => ofText runtime path text

end EnumTables.Config
