import EnumTables.ClassObject.Body

/-!
Creation of the members of an enumeration. What a member holds is made from what is written for it
by the data type of the enumeration; a member whose value equals an earlier one's is an alias of it.
Members are created one after the other, and the functions of the class can run on a member as soon
as it holds its value.
-/

namespace EnumTables.ClassObject

/-! ## Data types -/

def memberTypeOf (scope : Scope) (cls : ClassName) : Option ClassName :=
  match scope.class? cls with
  | some found => found.enumeration.bind Enumeration.dataClass
  | none =>
    let order := StandardClass.orderOf cls.path
    [ClassName.builtin "int", .builtin "str"].find? order.contains

def isEnumeration (scope : Scope) (cls : ClassName) : Bool :=
  (scope.orderOf cls).contains (StandardClass.enumName "Enum")

/-- The data type that a search order brings; `candidate` is the first class that was passed. -/
def dataClassIn (scope : Scope) (candidate : Option ClassName) :
    List ClassName → Option ClassName
  | [] => none
  | cls :: rest =>
    if cls = StandardClass.object then dataClassIn scope candidate rest
    else if isEnumeration scope cls then
      (memberTypeOf scope cls).or (dataClassIn scope candidate rest)
    else if (scope.ownAttribute? cls "__new__").isSome then some (candidate.getD cls)
    else dataClassIn scope (candidate.or (some cls)) rest

def dataClasses (scope : Scope) (bases : List ClassName) : List ClassName :=
  (bases.filterMap fun base => dataClassIn scope none (scope.orderOf base)).eraseDups

def dataTypeOf (scope : Scope) (cls : ClassName) : Option DataType :=
  (scope.orderOf cls).findSome? Scope.dataType?

/-! ## Recipes -/

structure Recipe where
  dataType : Option DataType
  isStrict : Bool
  maker : Option Function

def makerOf : Attribute → Option Function
  | .method function | .staticMethod function | .classMethod function => some function
  | _ => none

def recipe (scope : Scope) (cls : ClassObject) (enumeration : Enumeration) : Recipe where
  dataType := enumeration.dataType
  isStrict := cls.bases.getLast?.any fun base =>
    (scope.orderOf base).contains (StandardClass.enumName "StrEnum")
  maker := (scope.searched cls).findSome? fun owner =>
    (owner.attributes.lookup "__new__").bind makerOf

def argumentsOf : Value → List Value
  | .collection .tuple items => items
  | .position x y => [x, y]
  | value => [value]

def drained (arguments : List Value) : List Value :=
  arguments.map fun
    | .collection (.stream mark) _ => .collection (.stream mark) []
    | value => value

/-- What a new member holds and what it is as data, before it is set up. -/
def ingredients (recipe : Recipe) (identity : String) (written : Value) :
    Except Raised (Value × Value) :=
  let arguments := argumentsOf written
  match recipe.dataType with
  | none =>
    if arguments.isEmpty then
      let plain := ⟨"object", .ok "<object object>", identity, .other, .other, false⟩
      .ok (.object plain [], .null)
    else .ok (written, .null)
  | some .list => .ok ((DataType.list.convert arguments).toOption.getD written, .list [])
  | some type => do
    let data ←
      if recipe.isStrict then DataType.strictText arguments else type.convert arguments
    return ((type.convert arguments).toOption.getD written, data)

/-! ## Members -/

/-- An earlier member that a value stands for. Values that can be keys are compared with each other
only; any other value is compared with all. -/
def earlier? (members : List (String × EnumMember)) (held : Value) : Option EnumMember :=
  (members.find? fun entry =>
    entry.1 = entry.2.name && (!held.isHashable || entry.2.held.isHashable) &&
      entry.2.held.same held).map Prod.snd

def checkSingleBit (value : Value) : Except Raised Bool :=
  if value.same (.int 0) then .ok false
  else do
    let lowered ← value.operate .subtract (.int 1)
    match value.operate .bitAnd lowered with
    | .ok rest => return rest.same (.int 0)
    | .error _ => .error (.typeError ("unsupported operand type(s) for &=: '" ++
        value.typeName ++ "' and '" ++ lowered.typeName ++ "'"))

/-- What is under the name of a member in its class: nothing if a base has a property of members
under that name, which is found first. -/
def slotOf (scope : Scope) (name : String) (isHidden : Bool) :
    List ClassName → Option Attribute
  | [] => some (.member none)
  | base :: rest => match scope.ownAttribute? base name with
    | none | some (.constant .null) => slotOf scope name isHidden rest
    | some (.memberProperty getter) | some (.member (some getter)) =>
      if isHidden then some (.member (some getter)) else none
    | some (.dynamicProperty getter) =>
      if isHidden then some (.member (some (.function getter))) else none
    | some _ => slotOf scope name true rest

def setUp (scope : Scope) (cls : ClassObject) (enumeration : Enumeration) (member : EnumMember)
    (written : Value) : Except Raised EnumMember := do
  let arguments := argumentsOf written
  let value := cls.memberValue enumeration member
  match scope.attribute? cls "__init__" with
  | some (.native kind) =>
    if kind = .operator && enumeration.dataType = some .list then
      return { member with data := ← DataType.list.convert (drained arguments) }
    else return member
  | some _ => do
    let setup ← scope.read (.value value) "__init__"
    discard (scope.invoke setup (arguments.map .value))
    return member
  | none => return member

def addMember (scope : Scope) (cls : ClassObject) (enumeration : Enumeration) (recipe : Recipe)
    (name : String) (written : Value) : Except Raised ClassObject := do
  let pending : Scope := { scope with classes := scope.classes ++ [cls] }
  match recipe.maker with
  | some function =>
    let made ← pending.invoke (.function function)
      (.cls cls.name :: (argumentsOf written).map .value)
    .error (.attributeError
      ("'" ++ made.typeName pending ++ "' object has no attribute '_value_'"))
  | none => do
    let mark := scope.mark cls.name.edition name
    let (held, data) ← ingredients recipe mark (written.shared mark)
    let member ← setUp pending cls enumeration ⟨name, held, data⟩ written
    let attributes := match slotOf scope name false cls.order.tail with
      | some slot => ClassBody.put cls.attributes name slot
      | none => cls.attributes
    match earlier? enumeration.members member.held with
    | some found =>
      let enumeration :=
        { enumeration with members := enumeration.members ++ [(name, found)] }
      return { cls with attributes := attributes, enumeration := some enumeration }
    | none => do
      let isListed ← if cls.isFlag then checkSingleBit member.held else pure true
      let enumeration :=
        { enumeration with
          members := enumeration.members ++ [(name, member)]
          listedNames := enumeration.listedNames ++ if isListed then [name] else [] }
      return { cls with attributes := attributes, enumeration := some enumeration }

def addMembers (scope : Scope) (cls : ClassObject) : List (String × Value) →
    Except Raised ClassObject
  | [] => .ok cls
  | (name, written) :: rest => match cls.enumeration with
    | none => .ok cls
    | some enumeration => do
      let cls ← addMember scope cls enumeration (recipe scope cls enumeration) name written
      addMembers scope cls rest

/-- Checks the order of members that the class body asks for. Aliases and sets of several bits do
not count. -/
def checkOrder (cls : ClassObject) (enumeration : Enumeration) (asked : List String) :
    Except Raised Unit :=
  let isListed (name : String) : Bool := enumeration.listedNames.contains name
  let single := asked.filter fun name =>
    !cls.isFlag || match enumeration.members.lookup name with
      | some member => isListed member.name
      | none => true
  let counted := single.filter fun name => (enumeration.members.lookup name).isNone || isListed name
  let texts (names : List String) : String :=
    Value.bracketed .list (names.map Text.quote)
  if single.isEmpty || counted = enumeration.listedNames then .ok ()
  else .error (.typeError ("member order does not match _order_:\n  " ++
    texts enumeration.listedNames ++ "\n  " ++ texts counted))

end EnumTables.ClassObject
