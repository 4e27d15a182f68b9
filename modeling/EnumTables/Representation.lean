import EnumTables.Descriptor

/-!
Target representations of declared types, and how a descriptor is resolved into one. Mappings have
no representation of their own: they become slices of pairs.
-/

namespace EnumTables

inductive Scalar where
  | float64
  | int32
  | bool
  deriving DecidableEq, Repr

namespace Scalar

def all : List Scalar := [.float64, .int32, .bool]

def name : Scalar → String
  | .float64 => "f64"
  | .int32 => "i32"
  | .bool => "bool"

end Scalar

inductive Representation where
  | scalar (kind : Scalar)
  /-- A variant of another enumeration, written with or without the name of the enumeration. -/
  | enumeration (name : String) (qualified : Bool)
  | text
  | position (name : String)
  | slice (element : Representation)
  | pair (first second : Representation)
  deriving DecidableEq, Repr, Inhabited

namespace Representation

def typeText : Representation → String
  | .scalar kind => kind.name
  | .enumeration name _ => name
  | .text => "&'static str"
  | .position name => name
  | .slice element => "&'static [" ++ typeText element ++ "]"
  | .pair first second => "(" ++ typeText first ++ ", " ++ typeText second ++ ")"

end Representation

structure Unsupported where
  descriptor : Descriptor

namespace Unsupported

def message (unsupported : Unsupported) : String :=
  "Unsupported property type: " ++ unsupported.descriptor.describe

end Unsupported

def Primitive.representation : Primitive → Representation
  | .float => .scalar .float64
  | .int => .scalar .int32
  | .bool => .scalar .bool
  | .text => .text

namespace Descriptor

def resolve : Descriptor → Except Unsupported Representation
  | .list element => do return .slice (← resolve element)
  | .pair first second => do
    let first ← resolve first
    return .pair first (← resolve second)
  | .map key value => do
    let key ← resolve key
    return .slice (.pair key (← resolve value))
  | .primitive kind => .ok kind.representation
  | .position name => .ok (.position name)
  | .enumeration name => .ok (.enumeration name true)
  | descriptor@(.generic ..) | descriptor@(.unclassified _) => .error ⟨descriptor⟩

end Descriptor

end EnumTables
