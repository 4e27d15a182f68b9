import EnumTables.Expression.Reading
import EnumTables.TypeForm
import EnumTables.Value.Operation

/-!
Application of type forms to arguments, and unions. `unionOf` and `alternative` keep unions flat and
without repetition. Where a type is expected the absent value stands for its class, and a string for
the type that it spells; several forms at once stand for no type.
-/

namespace EnumTables.TypeForm

/-! ## Strings -/

def deferred (text : String) : Except Raised TypeForm :=
  if text.isEmpty then .error ⟨"IndexError", "string index out of range"⟩
  else if text.toList.contains '\x00' then
    .error (.valueError "source code string cannot contain null bytes")
  else if (Expression.ofText? text).isSome then .ok (.forward text)
  else .error
    ⟨"SyntaxError", "Forward reference must be an expression -- got " ++ Text.quote text⟩

def converted (form : TypeForm) : Except Raised TypeForm :=
  match form, form.asText? with
  | .none, _ => .ok noneType
  | _, some text => deferred text
  | form, Option.none => .ok form

def clipped (text : String) : String :=
  String.ofList (text.toList.take 100)

def asType (message : String) (form : TypeForm) : Except Raised TypeForm := do
  match ← form.converted with
  | .special name =>
    .error (.typeError ("Plain typing." ++ name ++ " is not valid as type argument"))
  | .group forms =>
    let shown ← (TypeForm.group forms).display
    .error (.typeError (message ++ " Got " ++ clipped shown ++ "."))
  | form => .ok form

def unionArgument : String := "Union[arg, ...]: each arg must be a type."

def genericArgument : String := "Parameters to generic types must be types."

/-! ## Unions -/

def distinct (equal : TypeForm → TypeForm → Bool) (forms : List TypeForm) : List TypeForm :=
  forms.foldl
    (fun kept form => if kept.any fun other => equal other form then kept else kept ++ [form]) []

def sides : TypeForm → List TypeForm
  | .applied _ .union arguments | .applied _ .alternative arguments => arguments
  | form => [form]

/-- A union of forms: flat, without repetition, and no union if one side is left. -/
def unionOf (origin : Origin) (forms : List TypeForm) : TypeForm :=
  match distinct same (forms.flatMap sides) with
  | [single] => single
  | forms => .applied .plain origin forms

def namedUnion (forms : List TypeForm) : Except Raised TypeForm :=
  match unhashableIn? false (forms.flatMap sides) with
  | some typeName => .error (.typeError ("unhashable type: '" ++ typeName ++ "'"))
  | Option.none => .ok (unionOf .union forms)

/-- The union that the operator makes; the absent value stands for its class. -/
def alternative (forms : List TypeForm) : TypeForm :=
  unionOf .alternative (forms.map fun
    | .none => noneType
    | form => form)

def withArguments (spelling : Spelling) (origin : Origin) (arguments : List TypeForm) :
    Except Raised TypeForm :=
  match origin with
  | .union => namedUnion arguments
  | .alternative => .ok (alternative arguments)
  | _ => .ok (.applied spelling origin arguments)

def isTypingForm : TypeForm → Bool
  | .alias .. | .special _ | .forward .. => true
  | .named _ _ typeName => typeName = "TypeVar" || typeName = "NewType"
  | .applied .plain (.cls _) _ | .applied _ .alternative _ => false
  | .applied .. => true
  | _ => false

/-- The form is a class or a plain application of one, which the operator joins directly. -/
def isJoinable : TypeForm → Bool
  | .none | .cls _ | .applied .plain (.cls _) _ | .applied _ .alternative _ => true
  | _ => false

def join (left right : TypeForm) : Except Raised TypeForm :=
  let refuse : Except Raised TypeForm :=
    .error (Value.unsupportedOperands .bitOr left.objectType right.objectType)
  match left, right with
  | .none, .none => refuse
  | _, _ =>
    if left.isJoinable && right.isJoinable then .ok (alternative [left, right])
    else if left.isTypingForm || right.isTypingForm then do
      let left ← asType unionArgument left
      namedUnion [left, ← asType unionArgument right]
    else refuse

/-! ## Parameters -/

def parts : TypeForm → List TypeForm
  | .group forms => forms
  | form => [form]

/-- Two values that a literal type keeps apart: of other types, or different. -/
def sameLiteral (left right : TypeForm) : Bool :=
  left.objectType == right.objectType && same left right

/-- A literal type. Literal types among its arguments are opened, and repetitions are dropped if all
arguments can be elements of a set. -/
def literal (arguments : List TypeForm) : TypeForm :=
  let arguments := arguments.flatMap fun
    | .applied _ .literal inner => inner
    | form => [form]
  .applied .plain .literal
    (if (unhashableIn? false arguments).isSome then arguments else distinct sameLiteral arguments)

/-- The list of parameters of a callable form. A single list or ellipsis in it is the list. -/
def parameterList : List TypeForm → TypeForm
  | [.items forms] => .items forms
  | [.group forms] => .group forms
  | [.ellipsis] => .ellipsis
  | forms => .items forms

def callable (spelling : Spelling) (origin : ClassForm) (arguments : List TypeForm) :
    Except Raised TypeForm :=
  match spelling, arguments with
  | .plain, [parameters, result] => do
    let parameters ← match parameters with
      | .ellipsis => pure TypeForm.ellipsis
      | .items forms | .group forms => pure (parameterList forms)
      | form => do
        let shown ← form.asText?.elim form.display .ok
        .error (.typeError
          ("Expected a list of types, an ellipsis, ParamSpec, or Concatenate. Got " ++ shown))
    return .applied spelling (.cls origin) [parameters, result]
  | .alias _, [parameters, result] => do
    let result ← asType "Callable[args, result]: result must be a type." result
    let parameters ← match parameters with
      | .ellipsis => pure TypeForm.ellipsis
      | .items forms | .group forms => do pure (parameterList (← forms.mapM converted))
      | form => do pure (parameterList [← converted form])
    return .applied spelling (.cls origin) [parameters, result]
  | _, _ => .error (.typeError "Callable must be used as Callable[[arg, ...], result].")

def decorate (subject : TypeForm) (metadata : List TypeForm) : Except Raised TypeForm :=
  let belongs := match subject with
    | .object (.member ..) => true
    | .ellipsis | .items _ | .object _ => false
    | _ => true
  match subject with
  | .applied _ .decorated inner => .ok (.applied .plain .decorated (inner ++ metadata))
  | subject =>
    if belongs then .ok (.applied .plain .decorated (subject :: metadata))
    else .error (.attributeError
      ("'" ++ subject.objectType ++ "' object has no attribute '__module__'"))

def checkCount (head : String) (expected given : Nat) : Except Raised Unit :=
  if given = expected then .ok ()
  else
    let amount := if expected < given then "many" else "few"
    .error (.typeError ("Too " ++ amount ++ " arguments for " ++ head ++ "; actual " ++
      Decimal.numeral given ++ ", expected " ++ Decimal.numeral expected))

/-- Types given to an alias. An alias for tuples takes an ellipsis at the end. -/
def aliasArguments (arity : Option Nat) (arguments : List TypeForm) :
    Except Raised (List TypeForm) :=
  match arity, arguments.reverse with
  | Option.none, .ellipsis :: first :: others => do
    let types ← (first :: others).reverse.mapM (asType "Tuple[t, ...]: t must be a type.")
    return types ++ [.ellipsis]
  | Option.none, [.ellipsis] => .ok arguments
  | Option.none, _ => arguments.mapM (asType "Tuple[t0, t1, ...]: each t must be a type.")
  | some _, _ => arguments.mapM (asType genericArgument)

/-! ## Variables -/

mutual

def hasVariable : TypeForm → Bool
  | .named _ _ typeName => typeName = "TypeVar"
  | .applied _ .literal _ => false
  | .applied _ _ arguments => hasVariableIn arguments
  | .items forms => hasVariableIn forms
  | _ => false

def hasVariableIn : List TypeForm → Bool
  | [] => false
  | form :: rest => hasVariable form || hasVariableIn rest

end

mutual

def substitute (replacement : TypeForm) : TypeForm → Except Raised TypeForm
  | .named name display typeName =>
    .ok (if typeName = "TypeVar" then replacement else .named name display typeName)
  | .applied spelling origin arguments => match origin with
    | .literal => .ok (.applied spelling origin arguments)
    | origin => do withArguments spelling origin (← substituteIn replacement arguments)
  | .items forms => do return .items (← substituteIn replacement forms)
  | form => .ok form

def substituteIn (replacement : TypeForm) : List TypeForm → Except Raised (List TypeForm)
  | [] => .ok []
  | form :: rest => do
    let form ← substitute replacement form
    return form :: (← substituteIn replacement rest)

end

def reapply (form : TypeForm) (arguments : List TypeForm) : Except Raised TypeForm := do
  if form.hasVariable then
    match arguments with
    | [single] => substitute (← asType genericArgument single) form
    | arguments =>
      checkCount (← form.display) 1 arguments.length
      return form
  else .error (.typeError ((← form.display) ++ " is not a generic class"))

/-! ## Application -/

def apply (subject argument : TypeForm) : Except Raised TypeForm :=
  let arguments := argument.parts
  match subject with
  | .cls form =>
    if form.name = .collection "Callable" then callable .plain form arguments
    else if form.name = .decorated then match argument, arguments with
      | .group _, subject :: first :: rest => do
        decorate (← asType "Annotated[t, ...]: t must be a type." subject) (first :: rest)
      | _, _ => .error (.typeError
        "Annotated[...] should be used with at least two arguments (a type and an annotation).")
    else if form.isGeneric then .ok (.applied .plain (.cls form) arguments)
    else .error (.typeError ("type '" ++ form.name.name ++ "' is not subscriptable"))
  | .alias "Callable" origin _ => callable (.alias "Callable") origin arguments
  | .alias name origin arity => do
    let arguments ← aliasArguments arity arguments
    match arity with
    | some expected => checkCount ("typing." ++ name) expected arguments.length
    | Option.none => pure ()
    return .applied (.alias name) (.cls origin) arguments
  | .special "Optional" => do
    namedUnion [← asType "typing.Optional requires a single type." argument, noneType]
  | .special "Union" =>
    if arguments.isEmpty then .error (.typeError "Cannot take a Union of no types.")
    else do namedUnion (← arguments.mapM (asType unionArgument))
  | .special "Literal" => .ok (literal arguments)
  | .applied spelling origin inner => reapply (.applied spelling origin inner) arguments
  | form => .error (.typeError ("'" ++ form.objectType ++ "' object is not subscriptable"))

end EnumTables.TypeForm
