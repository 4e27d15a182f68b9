import EnumTables.Raised

/-!
Errors of reading YAML. Text that is not YAML, and data that cannot be built, are malformed; some
scalars are taken apart only when data is built, and then raise an exception of their own.
-/

namespace EnumTables.Yaml

inductive ReadError where
  | malformed
  | exception (raised : Raised)
  deriving DecidableEq, Repr

end EnumTables.Yaml
