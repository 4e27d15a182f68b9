import EnumTables.Raised
import EnumTables.Text.Basic
import EnumTables.TypeExpr
import EnumTables.Value.Conversion

/-!
Type forms: what a written type stands for once its names are looked up. Classes are known by
module and path; parameterised forms keep how they were spelled, because standard and typing
spellings of one type are different forms. Values are forms as well: strings stand for types that
are looked up later, and lists and tuples can hold types.
-/

namespace EnumTables

/-- A class by the module that defines it and its dotted path there; of the classes of a module with
one path the edition tells which it is. -/
structure ClassName where
  module : String
  path : String
  edition : Nat
  deriving DecidableEq, Repr

namespace ClassName

def name (cls : ClassName) : String :=
  (Text.split '.' cls.path).getLastD ""

def standard (module path : String) : ClassName := ⟨module, path, 0⟩

def builtin (path : String) : ClassName := standard "builtins" path

def collection (path : String) : ClassName := standard "collections.abc" path

def anything : ClassName := standard "typing" "Any"

def decorated : ClassName := standard "typing" "Annotated"

/-- The path with its module, which goes unsaid for standard classes. -/
def qualified (cls : ClassName) : String :=
  if cls.module = "builtins" then cls.path else cls.module ++ "." ++ cls.path

end ClassName

inductive ClassKind where
  | ordinary
  | enumeration
  | flags
  deriving DecidableEq, Repr

structure ClassForm where
  name : ClassName
  kind : ClassKind
  isPosition : Bool
  isGeneric : Bool
  deriving DecidableEq, Repr

inductive Spelling where
  | plain
  | alias (name : String)
  deriving DecidableEq, Repr

inductive Origin where
  | cls (form : ClassForm)
  | union
  | alternative
  | literal
  | decorated
  deriving DecidableEq, Repr

inductive TypeForm where
  | none
  | ellipsis
  | cls (form : ClassForm)
  /-- An alias for a class that is not applied to anything; `arity` counts the arguments it
  takes. -/
  | alias (name : String) (origin : ClassForm) (arity : Option Nat)
  | special (name : String)
  | named (name : String) (display : Spoken) (typeName : String)
  | object (value : Value)
  | quoted (text : String)
  /-- A string that stands for a type to be looked up later. -/
  | forward (text : String)
  | items (forms : List TypeForm)
  | group (forms : List TypeForm)
  | applied (spelling : Spelling) (origin : Origin) (arguments : List TypeForm)
  deriving Inhabited

namespace TypeForm

def builtin (path : String) : TypeForm :=
  .cls ⟨.builtin path, .ordinary, false, false⟩

def noneType : TypeForm := builtin "NoneType"

/-! ## Values -/

mutual

def ofValue : Value → TypeForm
  | .null => .none
  | .text s => .quoted s
  | .collection .list values => .items (ofValues values)
  | .collection .tuple values => .group (ofValues values)
  | value => .object value

def ofValues : List Value → List TypeForm
  | [] => []
  | value :: rest => ofValue value :: ofValues rest

end

mutual

def toValue? : TypeForm → Option Value
  | .none => some .null
  | .quoted s => some (.text s)
  | .object value => some value
  | .items forms => (toValues? forms).map Value.list
  | .group forms => (toValues? forms).map Value.tuple
  | _ => Option.none

def toValues? : List TypeForm → Option (List Value)
  | [] => some []
  | form :: rest => match toValue? form, toValues? rest with
    | some value, some values => some (value :: values)
    | _, _ => Option.none

end

def asText? : TypeForm → Option String
  | .quoted text => some text
  | .object value => value.asText?
  | _ => Option.none

/-! ## Display -/

def isNoneType : TypeForm → Bool
  | .cls form => form.name = .builtin "NoneType"
  | _ => false

/-- How a form is displayed: on its own, inside another one, and as a side of a union that the
operator made. -/
structure Shown where
  display : String
  brief : String
  side : String
  parameters : String

namespace Shown

def everywhere (text : String) : Shown := ⟨text, text, text, text⟩

def ofClass (form : ClassForm) : Shown :=
  let display := match form.kind with
    | .enumeration => "<enum " ++ Text.quote form.name.name ++ ">"
    | .flags => "<flag " ++ Text.quote form.name.name ++ ">"
    | .ordinary =>
      if form.name = .anything then form.name.qualified
      else "<class '" ++ form.name.qualified ++ "'>"
  let side := if form.name = .builtin "NoneType" then "None" else form.name.qualified
  ⟨display, form.name.qualified, side, form.name.qualified⟩

def applied (spelling : Spelling) (origin : Origin) (parameters : List Shown) : String :=
  let briefs := Value.commaSeparated (parameters.map brief)
  match origin with
  | .alternative => String.intercalate " | " (parameters.map side)
  | .union => match parameters with
    | [left, right] =>
      if left.side = "None" then "typing.Optional[" ++ right.brief ++ "]"
      else if right.side = "None" then "typing.Optional[" ++ left.brief ++ "]"
      else "typing.Union[" ++ briefs ++ "]"
    | _ => "typing.Union[" ++ briefs ++ "]"
  | .literal => "typing.Literal[" ++ Value.commaSeparated (parameters.map display) ++ "]"
  | .decorated =>
    "typing.Annotated[" ++ Value.commaSeparated
      ((parameters.take 1).map brief ++ (parameters.drop 1).map display) ++ "]"
  | .cls form =>
    let head := match spelling with
      | .plain => form.name.qualified
      | .alias name => "typing." ++ name
    let inside :=
      if parameters.isEmpty then "()"
      else if form.name = .collection "Callable" then
        Value.commaSeparated (parameters.map Shown.parameters)
      else briefs
    head ++ "[" ++ inside ++ "]"

end Shown

mutual

def shown : TypeForm → Except Raised Shown
  | .none => .ok (.everywhere "None")
  | .ellipsis => .ok ⟨"Ellipsis", "...", "...", "..."⟩
  | .cls form => .ok (.ofClass form)
  | .alias name _ _ => .ok (.everywhere ("typing." ++ name))
  | .special name => .ok (.everywhere ("typing." ++ name))
  | .named _ display _ => do return .everywhere (← display)
  | .object value => do return .everywhere (← value.display)
  | .quoted text => .ok (.everywhere (Text.quote text))
  | .forward text => .ok (.everywhere ("ForwardRef(" ++ Text.quote text ++ ")"))
  | .items forms => do
    let shown ← shownAll forms
    let display := "[" ++ Value.commaSeparated (shown.map Shown.display) ++ "]"
    return ⟨display, display, display,
      "[" ++ Value.commaSeparated (shown.map Shown.brief) ++ "]"⟩
  | .group forms => do
    return .everywhere (match ← shownAll forms with
      | [single] => "(" ++ single.display ++ ",)"
      | shown => "(" ++ Value.commaSeparated (shown.map Shown.display) ++ ")")
  | .applied spelling origin arguments => do
    return .everywhere (Shown.applied spelling origin (← shownAll arguments))

def shownAll : List TypeForm → Except Raised (List Shown)
  | [] => .ok []
  | form :: rest => do
    let form ← shown form
    return form :: (← shownAll rest)

end

def display (form : TypeForm) : Spoken :=
  form.shown.map Shown.display

/-! ## Equality -/

mutual

def same : TypeForm → TypeForm → Bool
  | .none, .none | .ellipsis, .ellipsis => true
  | .cls form, .cls form' => form.name == form'.name
  | .alias name _ _, .alias name' _ _ => name == name'
  | .special name, .special name' => name == name'
  | .named name _ _, .named name' _ _ => name == name'
  | .object value, .object value' => value.same value'
  | .quoted text, .quoted text' => text == text'
  | .forward text, .forward text' => text == text'
  | .items forms, .items forms' | .group forms, .group forms' => sameAll forms forms'
  | .applied spelling origin arguments, .applied spelling' origin' arguments' =>
    match origin, origin' with
    | .union, .union | .union, .alternative | .alternative, .union | .alternative, .alternative =>
      arguments.length == arguments'.length && allIn arguments arguments'
    | _, _ => spelling == spelling' && origin == origin' && sameAll arguments arguments'
  | _, _ => false

def sameAll : List TypeForm → List TypeForm → Bool
  | [], [] => true
  | left :: lefts, right :: rights => same left right && sameAll lefts rights
  | _, _ => false

def allIn : List TypeForm → List TypeForm → Bool
  | [], _ => true
  | left :: lefts, rights => rights.any (same left) && allIn lefts rights

end

/-! ## Hashing -/

mutual

/-- The name of the type that keeps a form out of a set. What stands in a callable form is no list
of its own. -/
def unhashable? : TypeForm → Option String
  | .items _ => some "list"
  | .object value => value.unhashable?
  | .group forms => unhashableIn? false forms
  | .applied _ origin arguments => unhashableIn? (match origin with
    | .cls form => form.name = .collection "Callable"
    | _ => false) arguments
  | _ => Option.none

/-- The first such name among some forms, in which lists are opened if `opened` says so. -/
def unhashableIn? (opened : Bool) : List TypeForm → Option String
  | [] => Option.none
  | .items forms :: rest =>
    if opened then (unhashableIn? false forms).or (unhashableIn? opened rest) else some "list"
  | form :: rest => (unhashable? form).or (unhashableIn? opened rest)

end

/-! ## Types of forms -/

def abstractCollections : List String := ["ChainMap", "UserDict", "UserList", "UserString"]

def metaclassOf (form : ClassForm) : String :=
  match form.kind with
  | .ordinary =>
    if form.name = .anything then "_AnyMeta"
    else if form.name.module = "collections.abc" ||
        (form.name.module = "collections" && abstractCollections.contains form.name.path) then
      "ABCMeta"
    else "type"
  | .enumeration | .flags => "EnumType"

def objectType : TypeForm → String
  | .none => "NoneType"
  | .ellipsis => "ellipsis"
  | .cls form => metaclassOf form
  | .alias "Callable" .. => "_CallableType"
  | .alias "Tuple" .. => "_TupleType"
  | .alias .. => "_SpecialGenericAlias"
  | .special name => if name = "Literal" then "_LiteralSpecialForm" else "_SpecialForm"
  | .named _ _ typeName => typeName
  | .object value => value.typeName
  | .quoted _ => "str"
  | .forward _ => "ForwardRef"
  | .items _ => "list"
  | .group _ => "tuple"
  | .applied _ .alternative _ => "types.UnionType"
  | .applied _ .union _ => "_UnionGenericAlias"
  | .applied .plain (.cls form) _ =>
    if form.name = .collection "Callable" then "_CallableGenericAlias" else "types.GenericAlias"
  | .applied _ .literal _ => "_LiteralGenericAlias"
  | .applied _ .decorated _ => "_AnnotatedAlias"
  | .applied (.alias "Callable") .. => "_CallableGenericAlias"
  | .applied .. => "_GenericAlias"

def printed (form : TypeForm) : String :=
  match form.display with
  | .ok s => s
  | .error _ => "<unprintable " ++ form.objectType ++ " object>"

end TypeForm

end EnumTables
