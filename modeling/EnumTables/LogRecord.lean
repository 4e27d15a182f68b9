/-!
Log records: what a run reports besides its result.
-/

namespace EnumTables

inductive LogLevel where
  | debug
  | info
  | warning
  | error
  deriving DecidableEq, Repr

namespace LogLevel

def name : LogLevel → String
  | .debug => "DEBUG"
  | .info => "INFO"
  | .warning => "WARNING"
  | .error => "ERROR"

def isSevere : LogLevel → Bool
  | .warning | .error => true
  | .debug | .info => false

end LogLevel

structure LogRecord where
  level : LogLevel
  source : String
  message : String
  deriving DecidableEq, Repr

def LogRecord.line (record : LogRecord) : String :=
  record.level.name ++ " " ++ record.source ++ ": " ++ record.message

structure Logged (α : Type) where
  log : List LogRecord
  result : α

namespace Logged

variable {α β : Type}

def andThen (first : Logged α) (next : α → Logged β) : Logged β :=
  let second := next first.result
  ⟨first.log ++ second.log, second.result⟩

instance : Monad Logged where
  pure a := ⟨[], a⟩
  bind := andThen

end Logged

end EnumTables
