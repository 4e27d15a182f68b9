import EnumTables.ClassObject
import EnumTables.Value.Text

/-!
Entities: what reading attributes can lead to. Besides values these are classes and things that can
be called; `toValue` is what is left of an entity where only a value counts.
-/

namespace EnumTables

inductive Entity where
  | value (value : Value)
  | cls (name : ClassName)
  | function (function : Function)
  | bound (function : Function) (owner : Entity)
  /-- Something that a standard class has, bound to a value. -/
  | routine (name : String) (owner : Value) (typeName : String)
  | other (typeName name : String) (display : Spoken)
  deriving Inhabited

namespace Entity

def text (s : String) : Entity := .value (.text s)

def unnamed (typeName display : String) : Entity := .other typeName display (.ok display)

def typeName (scope : Scope) : Entity → String
  | .value v => v.typeName
  | .cls name => TypeForm.metaclassOf (scope.form name)
  | .function _ => "function"
  | .bound .. => "method"
  | .routine _ _ typeName => typeName
  | .other typeName _ _ => typeName

def identity : Entity → String
  | .value v => v.printed
  | .cls name => Scope.identityOf name
  | .function f => "<function " ++ f.path ++ ">"
  | .bound f owner => "<bound method " ++ f.path ++ " of " ++ identity owner ++ ">"
  | .routine name owner _ =>
    "<built-in method " ++ name ++ " of " ++ owner.typeName ++ " object>"
  | .other _ name _ => name

def display (scope : Scope) : Entity → Spoken
  | .value v => v.display
  | .cls name => .ok (TypeForm.Shown.ofClass (scope.form name)).display
  | .bound f owner => do
    return "<bound method " ++ f.path ++ " of " ++ (← owner.display scope) ++ ">"
  | .other _ _ display => display
  | entity => .ok entity.identity

def toValue (scope : Scope) : Entity → Value
  | .value v => v
  | .cls name => scope.classValue name
  | entity => .object ⟨entity.typeName scope, entity.display scope, entity.identity, .other, .other,
      false⟩ []

def toForm (scope : Scope) : Entity → TypeForm
  | .value v => .ofValue v
  | .cls name => .cls (scope.form name)
  | .function f => .named f.path (Entity.display scope (.function f)) "function"
  | .bound f owner => .named f.path (Entity.display scope (.bound f owner)) "method"
  | .routine name owner typeName =>
    .named (owner.typeName ++ "." ++ name) (Entity.display scope (.routine name owner typeName))
      typeName
  | .other typeName name display => .named name display typeName

def ofForm (form : TypeForm) : Entity :=
  match form, form.toValue? with
  | .cls form, _ => .cls form.name
  | _, some v => .value v
  | .named name display typeName, _ => .other typeName name display
  | form, none => .other form.objectType form.printed form.display

end Entity

end EnumTables
