import EnumTables.Descriptor
import EnumTables.Value

/-!
Domain classes: enumerations with the properties that all their variants share and the values that
each variant has for them.
-/

namespace EnumTables

structure Property where
  name : String
  type : Descriptor

structure Variant where
  name : String
  ordinal : Int
  values : List (String × Value)

structure DomainClass where
  name : String
  properties : List Property
  variants : List Variant

end EnumTables
