import EnumTables.Text.Name
import EnumTables.TypeForm.Evaluation

/-!
Class bodies: what a description puts under which name, entry by entry. In the body of an
enumeration a plain value becomes a member, unless its name is kept for its class, stands between
underscores, or is to be ignored; a name that is a member cannot be taken again.
-/

namespace EnumTables

namespace ClassBody

/-! ## Names -/

/-- The name under which a class keeps an attribute: two underscores in front and none behind are
completed by the name of the class. -/
def storedName (className name : String) : String :=
  let name := Text.normalName name
  let stem := className.toList.dropWhile (· == '_')
  if "__".toList.isPrefixOf name.toList && !("__".toList.isSuffixOf name.toList) &&
      !stem.isEmpty then
    "_" ++ String.ofList stem ++ name
  else name

def isPrivate (className name : String) : Bool :=
  let lead := ("_" ++ className ++ "__").toList
  decide (lead.length < name.length) && lead.isPrefixOf name.toList &&
    !("__".toList.isSuffixOf name.toList)

def isDunder (name : String) : Bool :=
  let chars := name.toList
  decide (4 < chars.length) && chars.take 2 == ['_', '_'] && chars.reverse.take 2 == ['_', '_'] &&
    chars[2]? != some '_' && chars.reverse[2]? != some '_'

def isSunder (name : String) : Bool :=
  let chars := name.toList
  decide (2 < chars.length) && chars.head? == some '_' && chars.getLast? == some '_' &&
    chars[1]? != some '_' && chars.reverse[1]? != some '_'

def allowedSunders : List String :=
  ["_order_", "_generate_next_value_", "_numeric_repr_", "_missing_", "_ignore_", "_iter_member_",
    "_iter_member_by_value_", "_iter_member_by_def_"]

def put (attributes : List (String × Attribute)) (name : String) (slot : Attribute) :
    List (String × Attribute) :=
  match attributes with
  | [] => [(name, slot)]
  | (other, old) :: rest =>
    if other = name then (name, slot) :: rest else (other, old) :: put rest name slot

/-! ## Functions -/

def inTypeOrder (parameters : List Parameter) : List Parameter :=
  [ParameterKind.ordinary, .positionalOnly, .variadic, .keywordOnly, .keywords].flatMap fun kind =>
    parameters.filter fun parameter => parameter.kind = kind

def signatureTypes (names : Names) (deferred : Bool) (model : AttributeModel) :
    Except Raised (List (String × TypeForm)) := do
  let written := ((inTypeOrder model.parameters).filterMap fun parameter =>
      parameter.type.map fun expr => (parameter.name, expr)) ++
    (model.result.toList.map fun expr => (Function.resultKey, expr))
  written.mapM fun (name, expr) => do
    if deferred then return (name, .quoted expr.source)
    else return (name, ← expr.evaluate names)

def functionOf (names : Names) (deferred : Bool) (classPath : String) (model : AttributeModel) :
    Except Raised Function := do
  return ⟨classPath ++ "." ++ Text.normalName model.name, model.parameters,
    ← signatureTypes names deferred model, model.body⟩

def attributeOf (names : Names) (deferred : Bool) (classPath className : String)
    (model : AttributeModel) : Except Raised Attribute :=
  let function := functionOf names deferred classPath model
  match model.kind with
  | .method => function.map .method
  | .property => function.map fun getter => .property (some getter)
  | .staticMethod => function.map fun function => .staticMethod { function with body := .nothing }
  | .classMethod => function.map .classMethod
  | .cachedProperty => function.map .cachedProperty
  | .memberProperty => function.map fun getter => .memberProperty (.function getter)
  | .dynamicProperty => function.map .dynamicProperty
  | .lambda => .ok (.method ⟨classPath ++ ".<lambda>", model.parameters, [], model.body⟩)
  | .writeOnly => .ok (.property none)
  | .constant value => do
    let value ← names.scope.settle value
    return .constant (value.shared
      (names.scope.mark names.scope.classes.length (className ++ "." ++ model.name)))
  | .nestedClass =>
    .ok (.nestedClass ⟨names.scope.module, classPath ++ "." ++ Text.normalName model.name,
      names.scope.classes.length⟩)

end ClassBody

/-- The body of an enumeration as far as it was run: what is under every name, which names are
members, and which are ignored. -/
structure EnumBody where
  entries : List (String × Attribute) := []
  memberNames : List String := []
  ignored : List String := []

namespace EnumBody

def plainValue? (scope : Scope) : Attribute → Option Value
  | .constant value => some value
  | .nestedClass cls => some (scope.classValue cls)
  | _ => none

def displayOf (scope : Scope) (name : String) (slot : Attribute) : Spoken :=
  (TypeForm.ofAttribute scope name slot).display

def notIterable (scope : Scope) (name : String) (slot : Attribute) : Raised :=
  .typeError (Text.quote (TypeForm.ofAttribute scope name slot).objectType ++
    " object is not iterable")

/-- The names that a value lists: texts between commas and blanks, or the elements of a
collection. -/
def namesIn (value : Value) : Except Raised (List String) :=
  match value.asText? with
  | some text => .ok ((text.toList.map fun c => if c = ',' then ' ' else c).splitBy
      (fun left right => Text.isBlank left == Text.isBlank right) |>.filter
      (fun part => !part.any Text.isBlank) |>.map String.ofList)
  | none => do return (← value.iterated).filterMap Value.asText?

def assign (scope : Scope) (className : String) (body : EnumBody) (name : String)
    (slot : Attribute) : Except Raised EnumBody :=
  let stored : EnumBody := { body with entries := ClassBody.put body.entries name slot }
  let taken (earlier : Attribute) : Except Raised EnumBody := do .error (.typeError
    (Text.quote name ++ " already defined as " ++ (← displayOf scope name earlier)))
  if ClassBody.isPrivate className name then .ok stored
  else if ClassBody.isSunder name then
    if !ClassBody.allowedSunders.contains name then .error (.valueError
      ("_sunder_ names, such as " ++ Text.quote name ++ ", are reserved for future Enum use"))
    else if name = "_ignore_" then match plainValue? scope slot with
      | some value => do
        let ignored ← namesIn value
        match ignored.filter body.memberNames.contains with
        | [] => return { stored with ignored := ignored }
        | already => .error (.valueError ("_ignore_ cannot specify already set names: \x7b" ++
            Value.commaSeparated (already.map Text.quote) ++ "\x7d"))
      | none => .error (notIterable scope name slot)
    else .ok stored
  else if name = "__order__" then
    .ok { body with entries := ClassBody.put body.entries "_order_" slot }
  else if ClassBody.isDunder name then .ok stored
  else match body.entries.lookup name, plainValue? scope slot with
    | earlier, value =>
      if body.memberNames.contains name then taken (earlier.getD slot)
      else if body.ignored.contains name || value.isNone then .ok stored
      else match earlier with
        | some earlier => taken earlier
        | none => .ok { stored with memberNames := body.memberNames ++ [name] }

def members (scope : Scope) (body : EnumBody) : List (String × Value) :=
  body.entries.filterMap fun (name, slot) =>
    if body.memberNames.contains name then (plainValue? scope slot).map (name, ·) else none

def attributes (body : EnumBody) : List (String × Attribute) :=
  body.entries.filter fun (name, _) =>
    !body.memberNames.contains name && !body.ignored.contains name && name != "_ignore_" &&
      name != "_order_"

/-- The order of members that an attribute asks for; an empty value asks for none. -/
def orderIn (scope : Scope) (slot : Attribute) : Except Raised (List String) :=
  match plainValue? scope slot with
  | some value => if value.isTruthy then namesIn value else .ok []
  | none => .error (notIterable scope "_order_" slot)

end EnumBody

end EnumTables
