import EnumTables.Descriptor
import EnumTables.TypeForm

/-!
The descriptor of a type form. Primitive types are recognised exactly, classes by what they are,
and the standard containers with the right number of parameters; every other form keeps its name
or its display.
-/

namespace EnumTables

namespace ClassForm

def primitive? (form : ClassForm) : Option Primitive :=
  if form.name.module = "builtins" then
    match form.name.path with
    | "bool" => some .bool
    | "int" => some .int
    | "float" => some .float
    | "str" => some .text
    | _ => none
  else none

def spelledName (form : ClassForm) : String :=
  if form.name = .builtin "NoneType" then "None" else form.name.path

/-- The descriptor of a class. Being an enumeration counts before being a position. -/
def descriptor (form : ClassForm) : Descriptor :=
  match form.primitive? with
  | some kind => .primitive kind
  | none => match form.kind with
    | .enumeration | .flags => .enumeration form.name.name
    | .ordinary =>
      if form.isPosition then .position form.name.name else .unclassified form.spelledName

end ClassForm

namespace Origin

def spelledName : Origin → String
  | .cls form => form.spelledName
  | .union => "Union"
  | .alternative => "UnionType"
  | .literal => "Literal"
  | .decorated => "Annotated"

def isList : Origin → Bool
  | .cls form => form.name = .builtin "list" || form.name = .collection "Sequence"
  | _ => false

def isTuple : Origin → Bool
  | .cls form => form.name = .builtin "tuple"
  | _ => false

def isMapping : Origin → Bool
  | .cls form => form.name = .builtin "dict" || form.name = .collection "Mapping"
  | _ => false

end Origin

namespace TypeForm

def isEllipsis : TypeForm → Bool
  | .ellipsis => true
  | _ => false

/-- The descriptor of a parameterised form, given the descriptors of its parameters and which of
them are ellipses. -/
def describeApplied (origin : Origin) (parameters : List (Bool × Descriptor)) : Descriptor :=
  match parameters with
  | [(_, element)] =>
    if origin.isList then .list element else generic
  | [(_, first), (secondIsEllipsis, second)] =>
    if origin.isTuple then
      if secondIsEllipsis then .list first else .pair first second
    else if origin.isMapping then .map first second
    else generic
  | _ => generic
where
  generic : Descriptor :=
    .generic origin.spelledName ((parameters.filter fun parameter => !parameter.1).map Prod.snd)

mutual

/-- The descriptor of a form. One that is kept by its display may refuse to be displayed. -/
def describe : TypeForm → Except Raised Descriptor
  | .cls form => .ok form.descriptor
  | .applied _ origin arguments => do return describeApplied origin (← describeAll arguments)
  | .alias _ origin _ => .ok (describeApplied (.cls origin) [])
  | .special name => .ok (.unclassified name)
  | .named name display typeName =>
    if typeName = "set" || typeName = "dict" then .unclassified <$> display
    else .ok (.unclassified name)
  | .none => .ok (.unclassified "None")
  | .ellipsis => .unclassified <$> display .ellipsis
  | .object value => .unclassified <$> display (.object value)
  | .quoted text => .unclassified <$> display (.quoted text)
  | .forward text => .unclassified <$> display (.forward text)
  | .items forms => .unclassified <$> display (.items forms)
  | .group forms => .unclassified <$> display (.group forms)

def describeAll : List TypeForm → Except Raised (List (Bool × Descriptor))
  | [] => .ok []
  | form :: rest => do
    let descriptor ← describe form
    return (form.isEllipsis, descriptor) :: (← describeAll rest)

end

end TypeForm

end EnumTables
