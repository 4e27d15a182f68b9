/-!
Exceptions raised by described classes and modules.
-/

namespace EnumTables

structure Raised where
  kind : String
  message : String
  deriving DecidableEq, Repr

namespace Raised

def typeError (message : String) : Raised := ⟨"TypeError", message⟩

def attributeError (message : String) : Raised := ⟨"AttributeError", message⟩

def valueError (message : String) : Raised := ⟨"ValueError", message⟩

def isImportError (raised : Raised) : Bool :=
  raised.kind = "ImportError" || raised.kind = "ModuleNotFoundError"

/-- The exception ends the whole run and is not treated as a failure of what raised it. -/
def endsRun (raised : Raised) : Bool :=
  raised.kind = "SystemExit" || raised.kind = "KeyboardInterrupt" ||
    raised.kind = "GeneratorExit" || raised.kind = "BaseException"

end Raised

end EnumTables
