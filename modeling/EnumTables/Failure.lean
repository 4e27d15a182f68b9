import EnumTables.Accessor
import EnumTables.FileTree
import EnumTables.Schema

/-!
What can end the work on a domain class. Most failures are foreseen and have a report; exceptions of
described modules outside of accessors, values and declared types that cannot be displayed, and
variants without a usable name are not.
-/

namespace EnumTables

inductive Failure where
  | malformed (reference : String)
  | unimportable (module : String) (cause : Raised)
  | attributeMissing (reference name : String)
  | notEnumeration (reference : String)
  | signature (className accessor : String) (cause : Raised)
  | unreadable (className variant accessor : String) (cause : Raised)
  | emission (className : String) (error : EmissionError)
  | unwritable (path : FilePath) (cause : Raised)
  | exception (raised : Raised)
  /-- What was read from the class does not fit a domain class. -/
  | invalid (faults : List Fault)

namespace Failure

def report? : Failure → Option String
  | .malformed reference =>
    some ("Invalid domain class reference '" ++ reference ++ "': expected 'module:ClassName'")
  | .unimportable module cause =>
    some ("Cannot import module '" ++ module ++ "': " ++ cause.message)
  | .attributeMissing reference name =>
    some ("'" ++ reference ++ "' not found: no attribute '" ++ name ++ "'")
  | .notEnumeration reference => some ("'" ++ reference ++ "' is not an Enum class")
  | .signature className accessor cause =>
    some ("Cannot evaluate the return annotation of " ++ className ++ "." ++ accessor ++ ": " ++
      cause.message)
  | .unreadable className variant accessor cause =>
    some ("Reading '" ++ accessor ++ "' of " ++ className ++ "." ++ variant ++ " failed: " ++
      cause.message)
  | .emission className error => some (error.message className)
  | .unwritable path cause =>
    some ("Cannot write source file '" ++ path.text ++ "': " ++ cause.message)
  | .exception _ | .invalid _ => none

end Failure

end EnumTables
