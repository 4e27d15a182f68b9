/-!
Descriptors of declared types: a closed language that says of each property what its declaration
was recognised as. Types that were not recognised keep their spelling, so that diagnostics can
name them. Equality of descriptors is decided node by node (`Descriptor.same_iff`).
-/

namespace EnumTables

inductive Primitive where
  | float
  | int
  | bool
  | text
  deriving DecidableEq, Repr

namespace Primitive

def all : List Primitive := [.float, .int, .bool, .text]

def name : Primitive → String
  | .float => "Float"
  | .int => "Int"
  | .bool => "Bool"
  | .text => "String"

def ofName? (name : String) : Option Primitive :=
  all.find? fun kind => kind.name = name

theorem ofName?_name (kind : Primitive) : ofName? kind.name = some kind := by
  cases kind <;> rfl

end Primitive

inductive Descriptor where
  | primitive (kind : Primitive)
  | enumeration (name : String)
  | position (name : String)
  | list (element : Descriptor)
  | pair (first second : Descriptor)
  | map (key value : Descriptor)
  /-- A type with parameters that has no form of its own. -/
  | generic (origin : String) (arguments : List Descriptor)
  /-- A type without parameters that was not recognised. -/
  | unclassified (name : String)
  deriving Repr, Inhabited

namespace Descriptor

def defaultPositionName : String := "TilePosition"

def undeclared : Descriptor := .unclassified "<unannotated>"

mutual

def describe : Descriptor → String
  | .primitive kind => kind.name
  | .enumeration name | .position name | .unclassified name => name
  | .list element => "List<" ++ describe element ++ ">"
  | .pair first second => "Pair<" ++ describe first ++ ", " ++ describe second ++ ">"
  | .map key value => "Map<" ++ describe key ++ ", " ++ describe value ++ ">"
  | .generic origin arguments =>
    origin ++ "<" ++ String.intercalate ", " (describeAll arguments) ++ ">"

def describeAll : List Descriptor → List String
  | [] => []
  | descriptor :: rest => describe descriptor :: describeAll rest

end

mutual

def same : Descriptor → Descriptor → Bool
  | .primitive kind, .primitive kind' => kind == kind'
  | .enumeration name, .enumeration name' => name == name'
  | .position name, .position name' => name == name'
  | .list element, .list element' => same element element'
  | .pair first second, .pair first' second' => same first first' && same second second'
  | .map key value, .map key' value' => same key key' && same value value'
  | .generic origin arguments, .generic origin' arguments' =>
    origin == origin' && sameAll arguments arguments'
  | .unclassified name, .unclassified name' => name == name'
  | _, _ => false

def sameAll : List Descriptor → List Descriptor → Bool
  | [], [] => true
  | left :: lefts, right :: rights => same left right && sameAll lefts rights
  | _, _ => false

end

mutual

theorem same_iff (left right : Descriptor) : same left right = true ↔ left = right := by
  cases left with
  | list element =>
    cases right <;> simp [same, same_iff element]
  | pair first second =>
    cases right <;> simp [same, same_iff first, same_iff second]
  | map key value =>
    cases right <;> simp [same, same_iff key, same_iff value]
  | generic origin arguments =>
    cases right <;> simp [same, sameAll_iff arguments]
  | _ => cases right <;> simp [same]

theorem sameAll_iff (lefts rights : List Descriptor) :
    sameAll lefts rights = true ↔ lefts = rights := by
  cases lefts with
  | nil => cases rights <;> simp [sameAll]
  | cons left lefts =>
    cases rights <;> simp [sameAll, same_iff left, sameAll_iff lefts]

end

instance : DecidableEq Descriptor := fun left right =>
  decidable_of_iff _ (same_iff left right)

end Descriptor

end EnumTables
