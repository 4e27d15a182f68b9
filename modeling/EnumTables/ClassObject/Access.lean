import EnumTables.ClassObject.Entity
import EnumTables.Value.Method

/-!
Reading attributes of values and classes, and running the functions behind them. A body can read
attributes of one thing only, so a run that is longer than the attributes are many never ends; the
fuel of `read` is taken from that.
-/

namespace EnumTables

namespace Function

def enumerated : List String → String
  | [] => ""
  | [single] => "'" ++ single ++ "'"
  | [first, second] => "'" ++ first ++ "' and '" ++ second ++ "'"
  | names =>
    String.intercalate ", " (names.dropLast.map fun name => "'" ++ name ++ "'") ++ ", and '" ++
      names.getLastD "" ++ "'"

/-- The exception of a call with `given` arguments by place, if they do not fit the parameters. -/
def misfit? (function : Function) (given : Nat) : Option Raised :=
  let positional := function.parameters.filter Parameter.isPositional
  let required := (positional.drop given).filter fun parameter => !parameter.hasDefault
  let named := function.parameters.filter fun parameter =>
    parameter.kind = .keywordOnly && !parameter.hasDefault
  let takesMore := function.parameters.any fun parameter => parameter.kind = .variadic
  let plural (n : Nat) : String := if n = 1 then "" else "s"
  if positional.length < given && !takesMore then
    let least := (positional.filter fun parameter => !parameter.hasDefault).length
    let takes :=
      if least < positional.length then
        "from " ++ Decimal.numeral least ++ " to " ++ Decimal.numeral positional.length ++
          " positional arguments"
      else Decimal.numeral positional.length ++ " positional argument" ++ plural positional.length
    some (.typeError (function.path ++ "() takes " ++ takes ++ " but " ++ Decimal.numeral given ++
      (if given = 1 then " was given" else " were given")))
  else if !required.isEmpty then
    some (.typeError (function.path ++ "() missing " ++ Decimal.numeral required.length ++
      " required positional argument" ++ plural required.length ++ ": " ++
      enumerated (required.map Parameter.name)))
  else if !named.isEmpty then
    some (.typeError (function.path ++ "() missing " ++ Decimal.numeral named.length ++
      " required keyword-only argument" ++ plural named.length ++ ": " ++
      enumerated (named.map Parameter.name)))
  else none

def subjectName : String := "self"

def subject? (scope : Scope) (function : Function) (arguments : List Entity) : Option Entity := do
  let positional := function.parameters.filter Parameter.isPositional
  let parameter ← function.parameters.find? fun parameter => parameter.name = subjectName
  return match parameter.kind with
    | .positionalOnly | .ordinary =>
      ((positional.map Parameter.name).zip arguments).lookup subjectName |>.getD (.value .null)
    | .variadic =>
      .value (.tuple ((arguments.drop positional.length).map (Entity.toValue scope)))
    | .keywords => .value (.dict [])
    | .keywordOnly => .value .null

end Function

namespace Value

mutual

/-- Gives a mark to every stream in a value that has several owners. -/
def shared (mark : String) : Value → Value
  | .collection (.stream none) items => .collection (.stream (some mark)) (sharedItems mark 0 items)
  | .collection kind items => .collection kind (sharedItems mark 0 items)
  | .mapping readOnly entries => .mapping readOnly (sharedEntries mark 0 entries)
  | .position x y => .position (shared (mark ++ ".x") x) (shared (mark ++ ".y") y)
  | .record attributes => .record (sharedAttributes mark attributes)
  | value => value

def sharedItems (mark : String) (place : Nat) : List Value → List Value
  | [] => []
  | item :: rest =>
    shared (mark ++ "." ++ Decimal.numeral place) item :: sharedItems mark (place + 1) rest

def sharedEntries (mark : String) (place : Nat) : List (Value × Value) → List (Value × Value)
  | [] => []
  | (key, value) :: rest =>
    (key, shared (mark ++ "." ++ Decimal.numeral place) value) ::
      sharedEntries mark (place + 1) rest

def sharedAttributes (mark : String) : List (String × Value) → List (String × Value)
  | [] => []
  | (name, value) :: rest =>
    (name, shared (mark ++ "." ++ name) value) :: sharedAttributes mark rest

end

end Value

namespace Scope

def mark (scope : Scope) (edition : Nat) (owner : String) : String :=
  scope.module ++ ":" ++ Decimal.numeral edition ++ "." ++ owner

/-! ## Plans -/

/-- What reading an attribute gives without running anything, or what has to be run for it. A result
that is kept has a mark. -/
inductive Plan where
  | ready (entity : Entity)
  | run (getter : Function) (mark : Option String)
  | raise (raised : Raised)

namespace Plan

def value (value : Value) : Plan := .ready (.value value)

def missing (message : String) : Plan := .raise (.attributeError message)

def ofOption (value : Option Value) (name : String) : Plan :=
  match value with
  | some value => .value value
  | none => missing name

end Plan

def classOf (scope : Scope) (value : Value) : ClassName :=
  match value with
  | .member cls .. => ⟨scope.module, cls.path, cls.edition⟩
  | .position .. => StandardClass.tilePosition
  | value => .builtin value.typeName

def impliedAttribute? (scope : Scope) (cls : ClassObject) (name : String) : Option Attribute :=
  let constant (value : Value) : Option Attribute := some (.constant value)
  match name, cls.enumeration with
  | "__module__", _ => constant (.text scope.module)
  | "__doc__", _ => constant .null
  | "__dict__", none | "__weakref__", none => some (.native .getter)
  | "_member_names_", some enumeration =>
    constant (.list (enumeration.listedNames.map .text))
  | "_member_map_", some enumeration =>
    constant (.dict (enumeration.members.map fun entry =>
      (.text entry.1, cls.memberValue enumeration entry.2)))
  | "_value2member_map_", some enumeration =>
    constant (.dict ((enumeration.members.filter fun entry =>
      entry.1 = entry.2.name && entry.2.held.isHashable).map fun entry =>
        (entry.2.held, cls.memberValue enumeration entry.2)))
  | "_member_type_", some enumeration =>
    constant (scope.classValue (enumeration.dataClass.getD StandardClass.object))
  | _, _ => none

/-- The first attribute of a name in a search order, those that classes have by themselves
included. -/
def anyAttributeIn? (scope : Scope) (order : List ClassName) (name : String) : Option Attribute :=
  order.findSome? fun owner => (scope.ownAttribute? owner name).or
    ((scope.class? owner).bind fun cls => scope.impliedAttribute? cls name)

def nativePlan (scope : Scope) (value : Value) (name : String) (kind : NativeKind) : Plan :=
  match kind, name, value.asData with
  | .getter, "__class__", _ => .ready (.cls (scope.classOf value))
  | .getter, "__dict__", _ => .ready (.unnamed "dict" "\x7b\x7d")
  | .getter, "real", .int n | .getter, "numerator", .int n => .value (.int n)
  | .getter, "imag", .int _ => .value (.int 0)
  | .getter, "denominator", .int _ => .value (.int 1)
  | .getter, "real", .bool b | .getter, "numerator", .bool b => .value (.int (if b then 1 else 0))
  | .getter, "imag", .bool _ => .value (.int 0)
  | .getter, "denominator", .bool _ => .value (.int 1)
  | .getter, "real", .float x => .value (.float x)
  | .getter, "imag", .float _ => .value (.float ⟨0⟩)
  | .getter, "x", .position x _ => .value x
  | .getter, "y", .position _ y => .value y
  | .getter, "start", .range start _ _ => .value (.int start)
  | .getter, "stop", .range _ stop _ => .value (.int stop)
  | .getter, "step", .range _ _ step => .value (.int step)
  | .getter, "__weakref__", data => match data with
    | .int _ | .collection .tuple _ | .position .. => .missing "This object has no __weakref__"
    | _ => .value .null
  | .getter, name, _ => .ready (.unnamed "object" name)
  | .data, name, _ => .ready (.unnamed (if name = "__doc__" then "str" else "object") name)
  | kind, name, _ => .ready (.routine name value kind.typeOnObject)

def getterPlan (value : Value) : Getter → Plan
  | .function function => .run function none
  | .memberName => match value with
    | .member _ name .. => .value ((name.map Value.text).getD .null)
    | _ => .missing "_name_"
  | .memberValue => match value with
    | .member _ _ held .. => .value held
    | _ => .missing "_value_"

def attributePlan (scope : Scope) (value : Value) (name : String) : Attribute → Plan
  | .method function => .ready (.bound function (.value value))
  | .property (some getter) => .run getter none
  | .property none => .missing
    ("property " ++ Text.quote name ++ " of " ++ Text.quote value.typeName ++
      " object has no getter")
  | .staticMethod function => .ready (.function function)
  | .classMethod function => .ready (.bound function (.cls (scope.classOf value)))
  | .cachedProperty getter => match value with
    | .member cls member .. =>
      .run getter (some (scope.mark cls.edition (member.getD "" ++ "." ++ name)))
    | _ => .run getter none
  | .memberProperty getter | .member (some getter) => getterPlan value getter
  | .dynamicProperty getter => .run getter none
  | .member none =>
    .ofOption ((scope.class? (scope.classOf value)).bind fun cls => cls.member? name) name
  | .constant value => .value value
  | .nestedClass cls => .ready (.cls cls)
  | .native kind => scope.nativePlan value name kind

def instancePlan? (scope : Scope) (value : Value) (name : String) : Option Plan :=
  match value, name with
  | .member _ label .., "_name_" => some (.value ((label.map Value.text).getD .null))
  | .member _ _ held .., "_value_" => some (.value held)
  | .member .., "__objclass__" => some (.ready (.cls (scope.classOf value)))
  | .member cls label .., "_sort_order_" => (scope.memberClass? cls).bind fun owner =>
    owner.enumeration.map fun enumeration =>
      .value (.int (enumeration.listedNames.idxOf (label.getD "")))
  | .record attributes, name => (attributes.lookup name).map Plan.value
  | _, _ => none

def valuePlan (scope : Scope) (value : Value) (name : String) : Plan :=
  match scope.instancePlan? value name with
  | some plan => plan
  | none => match scope.anyAttributeIn? (scope.orderOf (scope.classOf value)) name with
    | some found => scope.attributePlan value name found
    | none => .missing
      (Text.quote value.typeName ++ " object has no attribute " ++ Text.quote name)

def classData? (scope : Scope) (cls : ClassName) (name : String) : Option Entity :=
  let form := scope.form cls
  let classes (names : List ClassName) : Entity :=
    .value (.tuple (names.map scope.classValue))
  let described := scope.class? cls
  let base := (described.map fun cls =>
    (scope.layoutBase? cls.bases).getD StandardClass.object).getD
      ((StandardClass.orderOf cls.path).getD 1 StandardClass.object)
  match name with
  | "__name__" => some (.text cls.name)
  | "__qualname__" => some (.text cls.path)
  | "__module__" => some (.text cls.module)
  | "__class__" => some (.cls (match TypeForm.metaclassOf form with
    | "EnumType" => StandardClass.enumName "EnumType"
    | _ => .builtin "type"))
  | "__mro__" => some (classes (scope.orderOf cls))
  | "__bases__" => some (classes (described.elim [] ClassObject.bases))
  | "__base__" => some (if cls = StandardClass.object then .value .null else .cls base)
  | "__dict__" => some (.unnamed "mappingproxy" "mappingproxy(\x7b\x7d)")
  | "__doc__" => some (if described.isSome then .value .null else .text "")
  | "__members__" => match form.kind, described with
    | .ordinary, _ => none
    | _, some cls => cls.enumeration.map fun enumeration =>
      .value (.mapping true (enumeration.members.map fun entry =>
        (.text entry.1, cls.memberValue enumeration entry.2)))
    | _, none => some (.value (.mapping true []))
  | name =>
    if ["__basicsize__", "__itemsize__", "__flags__", "__weakrefoffset__",
        "__dictoffset__"].contains name then some (.unnamed "int" name)
    else none

def nativeOnClass (scope : Scope) (cls : ClassName) (name : String) (kind : NativeKind) : Entity :=
  let owner := ((scope.orderOf cls).find? fun owner =>
    (scope.ownAttribute? owner name).isSome).getD cls
  let shown (what : String) : Entity := .other kind.typeOnClass (owner.path ++ "." ++ name)
    (.ok ("<" ++ what ++ " " ++ Text.quote name ++ " of " ++ Text.quote owner.path ++ " objects>"))
  match kind with
  | .method => shown "method"
  | .operator => shown "slot wrapper"
  | .getter => shown "attribute"
  | kind => .other kind.typeOnClass (owner.path ++ "." ++ name) (.ok name)

def classAttributePlan (scope : Scope) (cls : ClassName) (name : String) (missing : Plan) :
    Attribute → Plan
  | .method function | .staticMethod function => .ready (.function function)
  | .classMethod function => .ready (.bound function (.cls cls))
  | .property _ => .ready (.unnamed "property" "<property object>")
  | .cachedProperty _ => .ready (.unnamed "cached_property" "<functools.cached_property object>")
  | .memberProperty _ | .member _ | .dynamicProperty _ =>
    match (scope.class? cls).bind fun found => found.member? name with
    | some member => .value member
    | none => missing
  | .constant value => .value value
  | .nestedClass inner => .ready (.cls inner)
  | .native kind => match kind with
    | .classMethod | .classRoutine | .function =>
      .ready (.routine name (scope.classValue cls) kind.typeOnObject)
    | kind => .ready (scope.nativeOnClass cls name kind)

def classPlan (scope : Scope) (cls : ClassName) (name : String) : Plan :=
  let isEnumeration := (scope.form cls).kind != .ordinary
  let missing : Plan := .missing
    (if isEnumeration then name
    else "type object " ++ Text.quote cls.name ++ " has no attribute " ++ Text.quote name)
  match scope.classData? cls name with
  | some entity => .ready entity
  | none => match scope.anyAttributeIn? (scope.orderOf cls) name with
    | some found => scope.classAttributePlan cls name missing found
    | none =>
      let metaclass := StandardClass.orderOf (if isEnumeration then "EnumType" else "type")
      match metaclass.findSome? fun owner => StandardClass.attributeKind? owner name with
      | some kind =>
        if name = "__abstractmethods__" then .missing name
        else .ready (.routine name (scope.classValue cls) kind.typeOnObject)
      | none => missing

/-- How an attribute of something known by its type only is read. A bound function that lacks it
asks the function. -/
def objectPlan (scope : Scope) (typeName name : String) : Plan :=
  let isLacking := (scope.anyAttributeIn? (scope.orderOf (.builtin typeName)) name).isNone
  let asked := if typeName = "method" && isLacking then "function" else typeName
  scope.valuePlan (.plainObject asked "") name

def functionPlan (scope : Scope) (function : Function) (typeName name : String) : Plan :=
  match name with
  | "__name__" => .value (.text ((Text.split '.' function.path).getLastD ""))
  | "__qualname__" => .value (.text function.path)
  | "__module__" => .value (.text scope.module)
  | "__doc__" => .value .null
  | name => scope.objectPlan typeName name

def plan (scope : Scope) (entity : Entity) (name : String) : Plan :=
  match entity with
  | .value value => scope.valuePlan value name
  | .cls cls => scope.classPlan cls name
  | .function function => scope.functionPlan function "function" name
  | .bound function _ => scope.functionPlan function "method" name
  | .routine _ _ typeName | .other typeName _ _ => scope.objectPlan typeName name

/-! ## Calls -/

def endless : Raised := ⟨"RecursionError", "maximum recursion depth exceeded"⟩

def raisedText (kind text : String) : String :=
  if kind = "KeyError" then Text.quote text else text

def dataType? (cls : ClassName) : Option DataType :=
  if cls = StandardClass.tilePosition then some .position
  else if cls.module = "builtins" then
    [.integer, .float, .text, .list, .tuple, .mapping, .set].find? fun type => type.name = cls.path
  else none

def memberOf (cls : ClassObject) (enumeration : Enumeration) (value : Value) :
    Except Raised Value :=
  let isInteger := enumeration.dataType = some .integer
  match value with
  | .member found .. =>
    if found.path = cls.name.path ∧ found.edition = cls.name.edition then .ok value else search
  | _ => match cls.isFlag, value.number? with
    | true, some (.int bits) => match search with
      | .ok found => .ok found
      | .error _ => (cls.memberClass enumeration).ofBits isInteger bits
    | _, _ => search
where
  search : Except Raised Value :=
    match enumeration.members.find? fun entry => entry.2.held.same value with
    | some entry => .ok (cls.memberValue enumeration entry.2)
    | none => do
      .error (.valueError ((← value.display) ++ " is not a valid " ++ cls.name.path))

def construct (scope : Scope) (cls : ClassName) (arguments : List Value) : Except Raised Value :=
  match scope.class? cls, dataType? cls with
  | some found, _ => match found.enumeration, arguments with
    | some enumeration, [value] => memberOf found enumeration value
    | some _, [] => .error (.typeError
        "EnumType.__call__() missing 1 required positional argument: 'value'")
    | some _, _ => .error (.typeError "functional creation of enumerations")
    | none, [] => .ok (.plainObject cls.name ("<" ++ cls.qualified ++ " object>"))
    | none, _ => .error (.typeError (cls.name ++ "() takes no arguments"))
  | none, some type => type.convert arguments
  | none, none =>
    if cls = .builtin "bool" then
      .ok (.bool (arguments.head?.any Value.isTruthy))
    else .ok (.plainObject cls.name ("<" ++ cls.name ++ " object>"))

mutual

def readWithin (scope : Scope) : Nat → Entity → String → Except Raised Entity
  | 0, _, _ => .error endless
  | fuel + 1, entity, name => match scope.plan entity name with
    | .ready found => .ok found
    | .raise raised => .error raised
    | .run getter none => scope.callWithin fuel getter [entity]
    | .run getter (some mark) => do match ← scope.callWithin fuel getter [entity] with
      | .value value => return .value (value.shared mark)
      | found => return found

def callWithin (scope : Scope) : Nat → Function → List Entity → Except Raised Entity
  | 0, _, _ => .error endless
  | fuel + 1, function, arguments => match function.misfit? arguments.length with
    | some raised => .error raised
    | none => match function.subject? scope arguments with
      | some subject => scope.runWithin fuel subject function.body
      | none => .ok (.value .null)

def runWithin (scope : Scope) : Nat → Entity → Body → Except Raised Entity
  | 0, _, _ => .error endless
  | fuel + 1, subject, body => match body with
    | .nothing => .ok (.value .null)
    | .constant value => do return .value (← scope.settle value)
    | .read name => scope.readWithin fuel subject name
    | .call name => do scope.invokeWithin fuel (← scope.readWithin fuel subject name) []
    | .item index => do
      let held ← scope.readWithin fuel subject "value"
      return .value (← (held.toValue scope).item (.int index))
    | .table rows => do match ← scope.readWithin fuel subject "_name_" with
      | .value name => match (name.asText?).bind fun label => rows.lookup label with
        | some value => return .value (← scope.settle value)
        | none => return .value .null
      | _ => return .value .null
    | .raise kind text => .error ⟨kind, raisedText kind text⟩

def invokeWithin (scope : Scope) : Nat → Entity → List Entity → Except Raised Entity
  | 0, _, _ => .error endless
  | fuel + 1, entity, arguments => match entity with
    | .function function => scope.callWithin fuel function arguments
    | .bound function owner => scope.callWithin fuel function (owner :: arguments)
    | .cls cls => do
      return .value (← scope.construct cls (arguments.map (Entity.toValue scope)))
    | .routine name owner _ => match name with
      | "__str__" | "__format__" => do return .text (← owner.shown)
      | "__repr__" => do return .text (← owner.display)
      | name => do return .value (← owner.call name)
    | .value _ | .other .. => .error (.typeError
        (Text.quote (entity.typeName scope) ++ " object is not callable"))

end

/-- More steps than a run can take that reads no attribute twice. -/
def enough (scope : Scope) : Nat :=
  8 * ((scope.classes.flatMap ClassObject.attributes).length + 8)

def read (scope : Scope) (entity : Entity) (name : String) : Except Raised Entity :=
  scope.readWithin scope.enough entity name

def invoke (scope : Scope) (entity : Entity) (arguments : List Entity) : Except Raised Entity :=
  scope.invokeWithin scope.enough entity arguments

def readValue (scope : Scope) (value : Value) (name : String) (called : Bool) :
    Except Raised Value := do
  let found ← scope.read (.value value) name
  if called then return (← scope.invoke found []).toValue scope
  else return found.toValue scope

end Scope

end EnumTables
