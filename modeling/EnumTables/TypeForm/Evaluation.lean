import EnumTables.ClassObject.Looks
import EnumTables.TypeForm.Names

/-!
Looking up written types in a module, and the types of a function's signature. An expression is
evaluated among names: those of a class body first, then those of the module. Strings stand for
types that are looked up later, when the module is complete; `resolveWith` replaces them at any
depth, and `withoutMetadata` leaves nothing of metadata.
-/

namespace EnumTables

/-- Names among which expressions are evaluated: a module, and the body of a class so far. -/
structure Names where
  scope : Scope
  body : List (String × Attribute)

namespace TypeForm

def ofAttribute (scope : Scope) (name : String) : Attribute → TypeForm
  | .constant value => .ofValue (scope.dressed value)
  | .nestedClass inner => .cls (scope.form inner)
  | .method function => (Entity.function function).toForm scope
  | .staticMethod function => .named function.path (.ok "<staticmethod object>") "staticmethod"
  | .classMethod function => .named function.path (.ok "<classmethod object>") "classmethod"
  | .property _ => .named "<property object>" (.ok "<property object>") "property"
  | .cachedProperty _ => .named "<functools.cached_property object>"
    (.ok "<functools.cached_property object>") "cached_property"
  | .memberProperty _ =>
    .named "<enum.property object>" (.ok "<enum.property object>") "property"
  | .dynamicProperty _ => .named "<types.DynamicClassAttribute object>"
    (.ok "<types.DynamicClassAttribute object>") "DynamicClassAttribute"
  | .member _ | .native _ => .named name (.ok name) "object"

def lookup (names : Names) (name : String) : Except Raised TypeForm :=
  match names.body.lookup name with
  | some found => .ok (ofAttribute names.scope name found)
  | Option.none => moduleForm names.scope name

def part? (form : TypeForm) (name : String) : Option TypeForm :=
  let isLabel := name = "__name__" || name = "__qualname__"
  match form with
  | .alias label origin _ =>
    if isLabel || name = "_name" then some (.quoted label)
    else if name = "__origin__" then some (.cls origin)
    else Option.none
  | .special label => if isLabel || name = "_name" then some (.quoted label) else Option.none
  | .named label _ "TypeVar" => match name with
    | "__name__" => some (.quoted label)
    | "__bound__" => some .none
    | "__constraints__" => some (.group [])
    | "__covariant__" | "__contravariant__" => some (.object (.bool false))
    | _ => Option.none
  | .named label _ "NewType" =>
    if isLabel then some (.quoted label)
    else if name = "__supertype__" then some (builtin "int")
    else Option.none
  | .applied spelling origin arguments => match origin, name with
    | .decorated, "__args__" => some (.group (arguments.take 1))
    | .decorated, "__metadata__" => some (.group (arguments.drop 1))
    | .decorated, "__origin__" => arguments.head?
    | .union, "__origin__" => some (.special "Union")
    | .literal, "__origin__" => some (.special "Literal")
    | .cls form, "__origin__" => some (.cls form)
    | _, "__args__" => some (.group (arguments.flatMap fun
        | .items forms => forms
        | argument => [argument]))
    | .cls form, "__name__" | .cls form, "__qualname__" => some (.quoted (match spelling with
        | .alias label => label
        | .plain => form.name.path))
    | _, _ => Option.none
  | .forward text => if name = "__forward_arg__" then some (.quoted text) else Option.none
  | _ => Option.none

/-- The class or form that answers for the attributes that a form of its own does not have. -/
def deputy? (form : TypeForm) (name : String) : Option TypeForm :=
  let isDunder := "__".toList.isPrefixOf name.toList && "__".toList.isSuffixOf name.toList
  match form with
  | .alias _ origin _ => if isDunder then Option.none else some (.cls origin)
  | .applied .plain (.cls origin) _ => some (.cls origin)
  | .applied _ origin arguments => match origin with
    | .cls form => if isDunder then Option.none else some (.cls form)
    | .decorated => arguments.head?
    | .union | .literal | .alternative => Option.none
  | _ => Option.none

/-- The form says no more than the name of an attribute that it does not have. -/
def isTerse : TypeForm → Bool
  | .alias .. | .special _ => true
  | .applied .plain (.cls _) _ | .applied _ .alternative _ => false
  | .applied .. => true
  | _ => false

def ofEntity (scope : Scope) : Entity → TypeForm
  | .value value => .ofValue (scope.dressed value)
  | found => found.toForm scope

def attributeOf (scope : Scope) (form : TypeForm) (name : String) : Except Raised TypeForm :=
  match form, part? form name, deputy? form name with
  | .named module _ "module", _, _ => moduleAttribute module name
  | _, some part, _ => .ok part
  | form, Option.none, deputy =>
    match deputy with
    | Option.none =>
      if isTerse form then .error (.attributeError name) else plainly form
    | some deputy => plainly deputy
where
  plainly (form : TypeForm) : Except Raised TypeForm := do
    return ofEntity scope (← scope.read (.ofForm form) name)

/-! ## Operations -/

def dressed (scope : Scope) : TypeForm → TypeForm
  | .object value => .object (scope.dressed value)
  | form => form

def asValue (scope : Scope) (form : TypeForm) : Value :=
  (Entity.ofForm form).toValue scope

def isTruthy : TypeForm → Bool
  | .items forms | .group forms => !forms.isEmpty
  | form => match form.toValue? with
    | some value => value.isTruthy
    | Option.none => true

def memberNamed (scope : Scope) (cls : ClassName) (key : TypeForm) : Except Raised TypeForm :=
  match key.unhashable? with
  | some typeName => .error (.typeError ("unhashable type: '" ++ typeName ++ "'"))
  | Option.none =>
    match key.asText?.bind fun name => (scope.class? cls).bind fun found => found.member? name with
    | some member => .ok (.object (scope.dressed member))
    | Option.none => do .error ⟨"KeyError", ← key.display⟩

def element (forms : List TypeForm) (kind : String) (key : TypeForm) : Except Raised TypeForm :=
  match key.toValue?.bind Value.number? with
  | some (.int index) => match Value.pick forms index with
    | some form => .ok form
    | Option.none => .error ⟨"IndexError", kind ++ " index out of range"⟩
  | _ => .error (.typeError
      (kind ++ " indices must be integers or slices, not " ++ key.objectType))

def subscript (scope : Scope) (subject key : TypeForm) : Except Raised TypeForm :=
  match subject with
  | .cls form => match form.kind with
    | .ordinary => apply subject key
    | _ => memberNamed scope form.name key
  | .items forms => element forms "list" key
  | .group forms => element forms "tuple" key
  | subject => match subject.toValue? with
    | some value => do return .ofValue (← value.item (asValue scope key))
    | Option.none => apply subject key

def operate (operator : Operator) (left right : TypeForm) : Except Raised TypeForm :=
  let refused := Value.unsupportedOperands operator left.objectType right.objectType
  match left.toValue?, right.toValue? with
  | some m, some n => do return .ofValue (← m.operate operator n)
  | _, _ => match operator, left, right with
    | .bitOr, _, _ => join left right
    | .add, .items forms, .items others => .ok (.items (forms ++ others))
    | .add, .group forms, .group others => .ok (.group (forms ++ others))
    | _, _, _ => .error refused

def signed (sign : Sign) (operand : TypeForm) : Except Raised TypeForm :=
  match operand.toValue? with
  | some value => do return .ofValue (← value.sign sign)
  | Option.none =>
    let symbol := match sign with
      | .plus => "+"
      | .minus => "-"
      | .complement => "~"
    .error (.typeError
      ("bad operand type for unary " ++ symbol ++ ": '" ++ operand.objectType ++ "'"))

def order? (left right : TypeForm) : Option Ordering := do
  let left ← left.toValue?
  let right ← right.toValue?
  match left.number?, right.number?, left.asText?, right.asText? with
  | some (.int m), some (.int n), _, _ => some (compare m n)
  | _, _, some s, some t => some (compare s t)
  | _, _, _, _ => Option.none

def holds (comparison : Comparison) (left right : TypeForm) : Except Raised Bool :=
  let ordered (symbol : String) (test : Ordering → Bool) : Except Raised Bool :=
    match order? left right with
    | some order => .ok (test order)
    | Option.none =>
      .error (.typeError ("'" ++ symbol ++ "' not supported between instances of '" ++
        left.objectType ++ "' and '" ++ right.objectType ++ "'"))
  let contained : Except Raised Bool := match right with
    | .items forms | .group forms => .ok (forms.any (same left))
    | .quoted text => match left with
      | .quoted part => .ok ((text.splitOn part).length != 1 || part.isEmpty)
      | left => .error (.typeError
          ("'in <string>' requires string as left operand, not " ++ left.objectType))
    | right => .error (.typeError
        ("argument of type '" ++ right.objectType ++ "' is not iterable"))
  match comparison with
  | .equal | .identical => .ok (same left right)
  | .different | .notIdentical => .ok (!same left right)
  | .less => ordered "<" (· == .lt)
  | .atMost => ordered "<=" (· != .gt)
  | .greater => ordered ">" (· == .gt)
  | .atLeast => ordered ">=" (· != .lt)
  | .contained => contained
  | .notContained => contained.map (!·)

def holdAll : TypeForm → List Comparison → List TypeForm → Except Raised Bool
  | left, comparison :: comparisons, right :: rest => do
    if ← holds comparison left right then holdAll right comparisons rest else return false
  | _, _, _ => .ok true

def ofSet (forms : List TypeForm) : Except Raised TypeForm :=
  match unhashableIn? false forms, toValues? forms with
  | some typeName, _ => .error (.typeError ("unhashable type: '" ++ typeName ++ "'"))
  | Option.none, some values => .ok (.object (.collection .set (Value.distinctItems values)))
  | Option.none, Option.none =>
    let kept := distinct same forms
    let shown (parts : List String) : String := "\x7b" ++ Value.commaSeparated parts ++ "\x7d"
    .ok (.named (shown (kept.map printed)) (shown <$> kept.mapM display) "set")

def ofMapping (keys values : List TypeForm) : Except Raised TypeForm :=
  match unhashableIn? false keys, toValues? keys, toValues? values with
  | some typeName, _, _ => .error (.typeError ("unhashable type: '" ++ typeName ++ "'"))
  | Option.none, some keys, some values => .ok (.object (.dict ((keys.zip values).foldl
      (fun entries entry => Value.insertEntry entries entry.1 entry.2) [])))
  | Option.none, _, _ =>
    let shown (parts : List String) : String := "\x7b" ++ Value.commaSeparated parts ++ "\x7d"
    let entries := keys.zip values
    .ok (.named (shown (entries.map fun entry => entry.1.printed ++ ": " ++ entry.2.printed))
      (shown <$> entries.mapM fun entry => do
        let key ← entry.1.display
        return key ++ ": " ++ (← entry.2.display)) "dict")

/-! ## Expressions -/

mutual

def evaluate (names : Names) : Expression → Except Raised TypeForm
  | .name name => lookup names name
  | .constant value => do return ofEntity names.scope (.value (← names.scope.settle value))
  | .ellipsis => .ok .ellipsis
  | .attribute subject name => do attributeOf names.scope (← evaluate names subject) name
  | .index subject argument => do
    let subject ← evaluate names subject
    subscript names.scope subject (← evaluate names argument)
  | .call subject arguments => do
    let subject ← evaluate names subject
    let arguments ← evaluateAll names arguments
    let found ← names.scope.invoke (.ofForm subject)
      (arguments.map fun form => .value (asValue names.scope form))
    return ofEntity names.scope found
  | .tuple parts => do return .group (← evaluateAll names parts)
  | .list parts => do return .items (← evaluateAll names parts)
  | .set parts => do ofSet (← evaluateAll names parts)
  | .mapping keys values => do
    let keys ← evaluateAll names keys
    ofMapping keys (← evaluateAll names values)
  | .signed sign operand => do
    let found ← signed sign (← evaluate names operand)
    return found.dressed names.scope
  | .operation operator left right => do
    let left ← evaluate names left
    let found ← operate operator left (← evaluate names right)
    return found.dressed names.scope
  | .comparison first comparisons others => do
    let first ← evaluate names first
    return .object (.bool (← holdAll first comparisons (← evaluateAll names others)))
  | .negation operand => do return .object (.bool (!(← evaluate names operand).isTruthy))
  | .both left right => do
    let left ← evaluate names left
    if left.isTruthy then evaluate names right else return left
  | .either left right => do
    let left ← evaluate names left
    if left.isTruthy then return left else evaluate names right
  | .conditional yes test no => do
    if (← evaluate names test).isTruthy then evaluate names yes else evaluate names no
  | .function => .ok (.named "<lambda>" (.ok "<function <lambda>>") "function")

def evaluateAll (names : Names) : List Expression → Except Raised (List TypeForm)
  | [] => .ok []
  | expression :: rest => do
    let form ← evaluate names expression
    return form :: (← evaluateAll names rest)

end

end TypeForm

namespace TypeExpr

mutual

def expression? : TypeExpr → Option Expression
  | .name path => Expression.ofText? path
  | .subscript origin arguments => do
    let origin ← Expression.ofText? origin
    match ← expressions? arguments with
    | [single] => return .index origin single
    | arguments => return .index origin (.tuple arguments)
  | .union alternatives => do match ← expressions? alternatives with
    | [] => none
    | first :: rest => return rest.foldl (.operation .bitOr) first
  | .quoted expr => some (.constant (.text expr.source))
  | .raw text => Expression.ofText? text
  | .literal value => some (.constant value)
  | .sequence exprs => do return .list (← expressions? exprs)

def expressions? : List TypeExpr → Option (List Expression)
  | [] => some []
  | expr :: rest => do
    let expression ← expression? expr
    return expression :: (← expressions? rest)

end

def evaluate (names : Names) (expr : TypeExpr) : Except Raised TypeForm :=
  match expr.expression? with
  | some expression => TypeForm.evaluate names expression
  | none => .error ⟨"SyntaxError", "invalid syntax"⟩

end TypeExpr

namespace TypeForm

/-! ## Strings as types -/

/-- Strings among the arguments of a plain application stand for types, and so do those in a list of
parameters where `opened` says so. -/
def deferArguments (opened : Bool) : List TypeForm → Except Raised (List TypeForm)
  | [] => .ok []
  | .items forms :: rest => do
    let forms ← if opened then deferArguments false forms else pure forms
    return .items forms :: (← deferArguments opened rest)
  | form :: rest => do
    let form ← match form.asText? with
      | some text => deferred text
      | Option.none => pure form
    return form :: (← deferArguments opened rest)

mutual

def resolveWith (expand : String → Except Raised TypeForm) : TypeForm → Except Raised TypeForm
  | .forward text => expand text
  | .applied spelling origin arguments => match origin with
    | .literal => .ok (.applied spelling origin arguments)
    | .decorated => do match ← resolveFirst expand arguments with
      | [] => return .applied spelling origin []
      | subject :: metadata => decorate subject metadata
    | .cls form => do
      let opened := form.name = .collection "Callable"
      if spelling = .plain then discard (deferArguments opened arguments)
      withArguments spelling origin
        (← resolveArguments expand (spelling = .plain) opened arguments)
    | origin => do
      withArguments spelling origin (← resolveArguments expand false false arguments)
  | form => .ok form

/-- Replaces strings in arguments. A string itself stands for a type where `strings` says so, and
what is in a list is an argument where `opened` says so. -/
def resolveArguments (expand : String → Except Raised TypeForm) (strings opened : Bool) :
    List TypeForm → Except Raised (List TypeForm)
  | [] => .ok []
  | .items forms :: rest => do
    let forms ← if opened then resolveArguments expand strings false forms else pure forms
    return .items forms :: (← resolveArguments expand strings opened rest)
  | form :: rest => do
    let form ← match strings, form.asText? with
      | true, some text => expand text
      | _, _ => resolveWith expand form
    return form :: (← resolveArguments expand strings opened rest)

def resolveFirst (expand : String → Except Raised TypeForm) :
    List TypeForm → Except Raised (List TypeForm)
  | [] => .ok []
  | form :: rest => do
    let form ← resolveWith expand form
    return form :: rest

end

def expansionBound : Nat := 200

/-- What a string stands for in a module. A string that is being looked up already stays as it
is. -/
def expand (scope : Scope) : Nat → List String → String → Except Raised TypeForm
  | 0, _, _ => .error Scope.endless
  | fuel + 1, pending, text =>
    if pending.contains text then .ok (.forward text)
    else match Expression.ofText? text with
      | Option.none => deferred text
      | some expression => do
        let form ← asType "Forward references must evaluate to types."
          (← evaluate ⟨scope, []⟩ expression)
        resolveWith (expand scope fuel (text :: pending)) form

def resolveSigned (scope : Scope) (form : TypeForm) : Except Raised TypeForm :=
  match form with
  | .none => .ok noneType
  | form => do
    let form ← match form.asText? with
      | some text => deferred text
      | Option.none => pure form
    resolveWith (expand scope expansionBound []) form

mutual

def withoutMetadata : TypeForm → Except Raised TypeForm
  | .applied spelling origin arguments => match origin with
    | .decorated => match arguments with
      | [] => .ok (.applied spelling origin [])
      | subject :: _ => withoutMetadata subject
    | .literal => .ok (.applied spelling origin arguments)
    | origin => do withArguments spelling origin (← withoutMetadataAll arguments)
  | .items forms => do return .items (← withoutMetadataAll forms)
  | form => .ok form

def withoutMetadataAll : List TypeForm → Except Raised (List TypeForm)
  | [] => .ok []
  | form :: rest => do
    let form ← withoutMetadata form
    return form :: (← withoutMetadataAll rest)

end

end TypeForm

namespace Function

def signature (scope : Scope) (function : Function) : Except Raised (List (String × TypeForm)) := do
  let types ← function.types.mapM fun (name, form) => do
    return (name, ← TypeForm.resolveSigned scope form)
  types.mapM fun (name, form) => do return (name, ← form.withoutMetadata)

end Function

end EnumTables
