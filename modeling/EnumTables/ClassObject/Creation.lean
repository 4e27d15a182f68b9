import EnumTables.ClassObject.Members
import EnumTables.Linearization

/-!
Creation of class objects from their descriptions, in order of definition. A class sees the classes
before it. Its bases are looked up and checked first, then its body is run, then the order in which
the class is searched is found, and last its members are created.
-/

namespace EnumTables

namespace ClassObject

/-! ## Bases -/

def standardBase? (name : String) : Option ClassName :=
  (TypeForm.standardNames.lookup name).or <|
    if ["int", "str", "float", "list", "tuple", "dict", "set", "bytes", "object"].contains name then
      some (.builtin name)
    else none

def baseNamed (scope : Scope) (body : List (String × Attribute)) (name : String) :
    Except Raised ClassName :=
  match (Text.split '.' name).map Text.normalName with
  | [] => scope.classAt name
  | first :: rest => match body.lookup first, scope.names.lookup first, standardBase? first with
    | some (.nestedClass found), _, _ => follow found rest
    | _, some found, _ => follow found rest
    | _, none, some found => .ok found
    | _, none, none => scope.classAt first
where
  follow (found : ClassName) (rest : List String) : Except Raised ClassName :=
    rest.foldlM (fun found name => match scope.ownAttribute? found name with
      | some (.nestedClass inner) => .ok inner
      | _ => .error (.attributeError ("type object " ++ Text.quote found.name ++
          " has no attribute " ++ Text.quote name))) found

/-- An enumeration with members cannot be extended, the last base of an enumeration is one, and
there is one data type at most, which is the result. -/
def checkBases (scope : Scope) (name : String) (bases : List ClassName) :
    Except Raised (Option ClassName) :=
  if bases.any (isEnumeration scope) then
    let searched := (bases.flatMap scope.orderOf).filterMap scope.class?
    match searched.find? fun cls => cls.enumeration.any fun found => !found.listedNames.isEmpty with
    | some cls => .error (.typeError ("<enum " ++ Text.quote name ++ "> cannot extend " ++
        (TypeForm.Shown.ofClass (scope.form cls.name)).display))
    | none =>
      if bases.getLast?.any (isEnumeration scope) then match dataClasses scope bases with
        | first :: second :: rest => .error (.typeError
            ("too many data types for " ++ Text.quote name ++ ": \x7b" ++
              Value.commaSeparated ((first :: second :: rest).map fun cls =>
                (TypeForm.Shown.ofClass (scope.form cls)).display) ++ "\x7d"))
        | found => .ok found.head?
      else .error (.typeError ("new enumerations should be created as " ++
        "`EnumName([mixin_type, ...] [data_type,] enum_type)`"))
  else .ok none

def layoutBase (scope : Scope) (bases : List ClassName) : Except Raised ClassName :=
  match scope.layoutBase? bases with
  | some base => .ok base
  | none => .error (.typeError "multiple bases have instance lay-out conflict")

def layoutUnder (scope : Scope) (self base : ClassName) : ClassName :=
  let found := scope.layoutOf base
  if StandardClass.isRigid found then self else found

def searchOrder (scope : Scope) (self : ClassName) (bases : List ClassName) :
    Except Raised (List ClassName) :=
  let repeated := (bases.zipIdx.find? fun base => (bases.drop (base.2 + 1)).contains base.1)
  if bases.isEmpty then .ok [self, StandardClass.object]
  else match repeated with
    | some (base, _) => .error (.typeError ("duplicate base class " ++ base.name))
    | none => match Linearization.merge (bases.map scope.orderOf ++ [bases]) with
      | .ok order => .ok (self :: order)
      | .error left =>
        let heads := (left.filterMap List.head?).eraseDups
        .error (.typeError ("Cannot create a consistent method resolution\norder (MRO) for " ++
          "bases " ++ Value.commaSeparated (heads.map ClassName.name)))

/-! ## Texts of objects -/

/-- What a new class says itself about the text of its objects. An enumeration does not leave it to
the data type. -/
def stylesOf (scope : Scope) (order bases : List ClassName) (dataClass : Option ClassName)
    (isEnum : Bool) (attributes : List (String × Attribute)) : List (String × Style) :=
  [textMethod, inlineMethod, displayMethod].filterMap fun method =>
    if (attributes.lookup method).isSome then some (method, .described)
    else if !isEnum then none
    else
      let dataOrder := (dataClass.elim [] scope.orderOf) ++ [StandardClass.object]
      match order.tail.find? fun owner => (scope.ownStyle? owner method).isSome, bases.getLast? with
      | some owner, some last =>
        if dataOrder.contains owner then some (method, scope.styleIn (scope.orderOf last) method)
        else none
      | _, _ => none

/-! ## Classes -/

def plainClass (name : ClassName) : ClassObject :=
  ⟨name, [], StandardClass.object, [name, StandardClass.object], [], [], none, none⟩

structure Body where
  scope : Scope
  entries : EnumBody
  isEnum : Bool

namespace Body

def assign (className : String) (body : Body) (name : String) (slot : Attribute) :
    Except Raised Body :=
  if body.isEnum then do
    return { body with entries := ← body.entries.assign body.scope className name slot }
  else .ok { body with entries :=
    { body.entries with entries := ClassBody.put body.entries.entries name slot } }

def runAttributes (deferred : Bool) (path className : String) (body : Body)
    (models : List AttributeModel) : Except Raised Body :=
  models.foldlM (fun body model => do
    let slot ← ClassBody.attributeOf ⟨body.scope, body.entries.entries⟩ deferred path className
      model
    let scope : Scope := match slot with
      | .nestedClass name =>
        { body.scope with classes := body.scope.classes ++ [plainClass name] }
      | _ => body.scope
    assign className { body with scope := scope } (ClassBody.storedName className model.name) slot)
    body

def runValues (className : String) (body : Body) (values : List (String × Value)) :
    Except Raised Body :=
  values.foldlM (fun body (name, value) => do
    let value ← body.scope.settle value
    let name := ClassBody.storedName className name
    let mark := body.scope.mark body.scope.classes.length (className ++ "." ++ name)
    assign className body name (.constant (if body.isEnum then value else value.shared mark))) body

end Body

def ofName (scope : Scope) (name : ClassName) : ClassObject :=
  match scope.class? name with
  | some cls => cls
  | none =>
    let dataClass := memberTypeOf scope name
    ⟨name, [], StandardClass.layoutOf name, StandardClass.orderOf name.path, [], [], none,
      if StandardClass.isEnumeration name then
        some ⟨scope.release, dataClass, dataClass.bind (dataTypeOf scope), [], []⟩
      else none⟩

def ofBody (body : Body) (path : String) (bases : List ClassName) (dataClass : Option ClassName)
    (positionMark : Option Value) : Except Raised ClassObject := do
  let scope := body.scope
  let name : ClassName := ⟨scope.module, path, scope.classes.length⟩
  if body.isEnum && body.entries.memberNames.contains "mro" then
    .error (.valueError "invalid enum member name(s) 'mro'")
  else do
    let layout := layoutUnder scope name (← layoutBase scope bases)
    let order ← searchOrder scope name bases
    let finish (attributes : List (String × Attribute)) (enumeration : Option Enumeration) :
        ClassObject :=
      ⟨name, bases, layout, order, attributes,
        stylesOf scope order bases dataClass body.isEnum attributes, positionMark, enumeration⟩
    if body.isEnum then do
      let enumeration : Enumeration :=
        ⟨scope.release, dataClass, dataClass.bind (dataTypeOf scope), [], []⟩
      let cls ← addMembers scope (finish body.entries.attributes (some enumeration))
        (body.entries.members scope)
      match cls.enumeration, body.entries.entries.lookup "_order_" with
      | some enumeration, some slot => checkOrder cls enumeration (← EnumBody.orderIn scope slot)
      | _, _ => pure ()
      return cls
    else return finish body.entries.entries none

mutual

/-- Creates a class and the classes inside it; `outer` is the path in front of its name, and
`enclosing` the body that it stands in. -/
def create (deferred : Bool) (outer : String) (enclosing : List (String × Attribute))
    (scope : Scope) : ClassModel → Except Raised (Scope × ClassName)
  | .mk name bases members attributes nested positionMark => do
    let name := Text.normalName name
    let path := outer ++ name
    let bases ← bases.mapM (baseNamed scope enclosing)
    let dataClass ← checkBases scope name bases
    let body : Body := ⟨scope, {}, bases.any (isEnumeration scope)⟩
    let body ← body.runValues name members
    let body ← createAll deferred (path ++ ".") name body nested
    let body ← body.runAttributes deferred path name attributes
    let positionMark ← positionMark.mapM body.scope.settle
    let cls ← ofBody body path bases dataClass positionMark
    return ({ body.scope with classes := body.scope.classes ++ [cls] }, cls.name)

def createAll (deferred : Bool) (outer className : String) (body : Body) :
    List ClassModel → Except Raised Body
  | [] => .ok body
  | model :: rest => do
    let (scope, created) ← create deferred outer body.entries.entries body.scope model
    let body ← ({ body with scope := scope } : Body).assign className
      (ClassBody.storedName className created.name) (.nestedClass created)
    createAll deferred outer className body rest

end

def createTop (deferred : Bool) (scope : Scope) : List ClassModel → Except Raised Scope
  | [] => .ok scope
  | model :: rest => do
    let (scope, created) ← create deferred "" [] scope model
    let others := scope.names.filter fun entry => entry.1 != created.name
    createTop deferred { scope with names := others ++ [(created.name, created)] } rest

end ClassObject

namespace ModuleModel

def run (model : ModuleModel) (release : Release) (name : String) : Except Raised Scope := do
  let scope ← ClassObject.createTop model.deferred ⟨release, name, [], []⟩ model.classes
  match model.raises with
  | none => return scope
  | some (kind, text) => .error ⟨kind, Scope.raisedText kind text⟩

end ModuleModel

end EnumTables
