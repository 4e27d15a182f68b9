import EnumTables.ClassModel
import EnumTables.StandardClass

/-!
Class objects: classes of a described module after their creation, with the order in which their
bases are searched, their own attributes, and their members if they are enumerations.
-/

namespace EnumTables

structure Function where
  path : String
  parameters : List Parameter
  types : List (String × TypeForm)
  body : Body

namespace Function

def resultKey : String := "return"

end Function

inductive Getter where
  | function (function : Function)
  | memberName
  | memberValue

inductive Attribute where
  | method (function : Function)
  /-- A property; one that cannot be read has no getter. -/
  | property (getter : Option Function)
  | staticMethod (function : Function)
  | classMethod (function : Function)
  | cachedProperty (function : Function)
  | memberProperty (getter : Getter)
  | dynamicProperty (getter : Function)
  /-- A member. Read from a member it gives way to the property that it hides, if there is one. -/
  | member (hidden : Option Getter)
  | constant (value : Value)
  | nestedClass (cls : ClassName)
  | native (kind : NativeKind)

/-- A member of an enumeration: its name, what it holds, and what it is itself besides being a
member, the absent value if it is nothing else. -/
structure EnumMember where
  name : String
  held : Value
  data : Value

/-- Releases of the runtime differ in the bits that iteration over a set of bits goes through. -/
inductive Release where
  /-- The bits that have members of their own. -/
  | named
  /-- All bits of all members. -/
  | all
  deriving DecidableEq, Repr

def Release.visited (release : Release) (members : List (String × Int)) : Int :=
  match release with
  | .named => (Bits.singles members).foldl (fun mask flag => Bits.union mask flag.2) 0
  | .all => members.foldl (fun mask member => Bits.union mask member.2) 0

structure Enumeration where
  release : Release
  dataClass : Option ClassName
  dataType : Option DataType
  /-- Every name with the member that it stands for; an alias stands for an earlier member. -/
  members : List (String × EnumMember)
  listedNames : List String

namespace Enumeration

def names (enumeration : Enumeration) : List String :=
  enumeration.members.map Prod.fst

def listed (enumeration : Enumeration) : List EnumMember :=
  enumeration.listedNames.filterMap fun name => enumeration.members.lookup name

def bits (enumeration : Enumeration) : List (String × Int) :=
  enumeration.members.filterMap fun entry => entry.2.held.asBits?.map (entry.1, ·)

end Enumeration

inductive Style where
  | label
  | data
  | described

def textMethod : String := "__str__"

def inlineMethod : String := "__format__"

def displayMethod : String := "__repr__"

structure ClassObject where
  name : ClassName
  bases : List ClassName
  layout : ClassName
  order : List ClassName
  attributes : List (String × Attribute)
  styles : List (String × Style)
  positionMark : Option Value
  enumeration : Option Enumeration

/-- The classes of one module that exist so far, in order of definition. A class is known by its
edition before it has a name in the module. -/
structure Scope where
  release : Release
  module : String
  classes : List ClassObject
  names : List (String × ClassName)

namespace Scope

def class? (scope : Scope) (name : ClassName) : Option ClassObject :=
  if name.module = scope.module then
    scope.classes.find? fun cls => cls.name = name
  else none

def orderOf (scope : Scope) (name : ClassName) : List ClassName :=
  match scope.class? name with
  | some cls => cls.order
  | none => StandardClass.orderOf name.path

def layoutOf (scope : Scope) (name : ClassName) : ClassName :=
  match scope.class? name with
  | some cls => cls.layout
  | none => StandardClass.layoutOf name

/-- The base by which objects of a class are laid out, if the bases agree: the layout of that base
extends those of the others. -/
def layoutBase? (scope : Scope) : List ClassName → Option ClassName
  | [] => some StandardClass.object
  | first :: rest => rest.foldlM (fun best base =>
      let settled := scope.layoutOf best
      let asked := scope.layoutOf base
      if (scope.orderOf settled).contains asked then some best
      else if (scope.orderOf asked).contains settled then some base
      else none) first

def ownAttribute? (scope : Scope) (owner : ClassName) (name : String) : Option Attribute :=
  match scope.class? owner with
  | some cls => cls.attributes.lookup name
  | none =>
    if owner = StandardClass.enumName "Enum" && name = "name" then
      some (.memberProperty .memberName)
    else if owner = StandardClass.enumName "Enum" && name = "value" then
      some (.memberProperty .memberValue)
    else (StandardClass.attributeKind? owner name).map .native

def attributeIn? (scope : Scope) (order : List ClassName) (name : String) : Option Attribute :=
  order.findSome? fun owner => scope.ownAttribute? owner name

def attribute? (scope : Scope) (cls : ClassObject) (name : String) : Option Attribute :=
  scope.attributeIn? cls.order name

def searched (scope : Scope) (cls : ClassObject) : List ClassObject :=
  cls.order.filterMap scope.class?

def ownStyle? (scope : Scope) (owner : ClassName) (method : String) : Option Style :=
  match scope.class? owner with
  | some cls => cls.styles.lookup method
  | none =>
    if owner = StandardClass.object then some .data
    else if ["IntEnum", "StrEnum", "IntFlag"].any fun name =>
        owner = StandardClass.enumName name then
      some (if method = displayMethod then .label else .data)
    else if owner = StandardClass.enumName "Enum" then some .label
    else if owner = StandardClass.enumName "Flag" then
      if method = inlineMethod then none else some .label
    else if StandardClass.attributeKind? owner method |>.isSome then some .data
    else none

def styleIn (scope : Scope) (order : List ClassName) (method : String) : Style :=
  (order.findSome? fun owner => scope.ownStyle? owner method).getD .label

end Scope

namespace ClassObject

def isFlag (cls : ClassObject) : Bool :=
  cls.order.contains (StandardClass.enumName "Flag")

def showsData (cls : ClassObject) : Bool :=
  cls.order.contains (StandardClass.enumName "ReprEnum")

def memberClass (cls : ClassObject) (enumeration : Enumeration) : MemberClass :=
  let bits := if cls.isFlag then enumeration.bits else []
  ⟨cls.name.name, cls.name.path, cls.name.edition, cls.isFlag, cls.showsData, bits,
    enumeration.release.visited bits, []⟩

def memberValue (cls : ClassObject) (enumeration : Enumeration) (member : EnumMember) : Value :=
  .member (cls.memberClass enumeration) (some member.name) member.held member.data none

def member? (cls : ClassObject) (name : String) : Option Value :=
  cls.enumeration.bind fun enumeration =>
    (enumeration.members.lookup name).map (cls.memberValue enumeration)

end ClassObject

namespace Scope

/-- A class stands for coordinates: it is the standard one, extends it, or says so itself. -/
def isPosition (scope : Scope) (cls : ClassObject) : Bool :=
  cls.order.contains StandardClass.tilePosition ||
    ((scope.searched cls).findSome? ClassObject.positionMark).any Value.isTruthy

def genericBases : List String := ["list", "tuple", "dict", "set", "frozenset"]

def form (scope : Scope) (name : ClassName) : ClassForm :=
  let isGeneric (order : List ClassName) : Bool :=
    genericBases.any fun base => order.contains (.builtin base)
  match scope.class? name with
  | some cls => ⟨name,
      match cls.enumeration with
      | some _ => if cls.isFlag then .flags else .enumeration
      | none => .ordinary,
      scope.isPosition cls, isGeneric cls.order⟩
  | none =>
    let order := StandardClass.orderOf name.path
    ⟨name,
      if !StandardClass.isEnumeration name then .ordinary
      else if order.contains (StandardClass.enumName "Flag") then .flags else .enumeration,
      name = StandardClass.tilePosition, isGeneric order || name = .builtin "type"⟩

def identityOf (name : ClassName) : String :=
  Decimal.numeral name.edition ++ " " ++ name.qualified

/-- The members that iteration over a class gives, which only enumerations allow. -/
def listedMembers (scope : Scope) (name : ClassName) : List Value :=
  match scope.class? name with
  | some cls => cls.enumeration.elim [] fun enumeration =>
    enumeration.listed.map (cls.memberValue enumeration)
  | none => []

def classValue (scope : Scope) (name : ClassName) : Value :=
  let form := scope.form name
  .object ⟨TypeForm.metaclassOf form, .ok (TypeForm.Shown.ofClass form).display, identityOf name,
    .other, .other, form.kind != .ordinary⟩ (scope.listedMembers name)

def memberClass? (scope : Scope) (cls : MemberClass) : Option ClassObject :=
  scope.class? ⟨scope.module, cls.path, cls.edition⟩

/-! ## Written members -/

def classAt (scope : Scope) (path : String) : Except Raised ClassName :=
  match Text.split '.' path with
  | [] => missing path
  | first :: rest => match scope.names.lookup first with
    | none => missing first
    | some found => rest.foldlM (fun found name => match scope.ownAttribute? found name with
      | some (.nestedClass inner) => .ok inner
      | _ => .error (.attributeError
          ("type object " ++ Text.quote found.name ++ " has no attribute " ++ Text.quote name)))
      found
where
  missing (name : String) : Except Raised ClassName :=
    .error ⟨"NameError", "name " ++ Text.quote name ++ " is not defined"⟩

def memberAt (scope : Scope) (path name : String) : Except Raised Value := do
  match (scope.class? (← scope.classAt path)).bind fun cls => cls.member? name with
  | some value => return value
  | none => .error (.attributeError name)

mutual

def settle (scope : Scope) : Value → Except Raised Value
  | .member cls name .. => scope.memberAt cls.path (name.getD "")
  | .collection kind items => do return .collection kind (← settleItems scope items)
  | .mapping readOnly entries => do return .mapping readOnly (← settleEntries scope entries)
  | .position x y => do
    let x ← settle scope x
    return .position x (← settle scope y)
  | .record attributes => do return .record (← settleAttributes scope attributes)
  | value => .ok value

def settleItems (scope : Scope) : List Value → Except Raised (List Value)
  | [] => .ok []
  | item :: rest => do
    let item ← settle scope item
    return item :: (← settleItems scope rest)

def settleEntries (scope : Scope) : List (Value × Value) → Except Raised (List (Value × Value))
  | [] => .ok []
  | (key, value) :: rest => do
    let key ← settle scope key
    let value ← settle scope value
    return (key, value) :: (← settleEntries scope rest)

def settleAttributes (scope : Scope) : List (String × Value) → Except Raised (List (String × Value))
  | [] => .ok []
  | (name, value) :: rest => do
    let value ← settle scope value
    return (name, value) :: (← settleAttributes scope rest)

end

end Scope

end EnumTables
