import EnumTables.ClassObject.Looks
import EnumTables.DomainClass
import EnumTables.Failure

/-!
Loading a domain class from an enumeration: its accessors become the properties, and its members in
order of definition, without aliases, become the variants, each with the value of every accessor.
Members are read one after the other, and each of them accessor by accessor.
-/

namespace EnumTables.DomainClass

/-- The failure of an accessor that raised an exception on a member. Exceptions that end the run
are not caught, and the report shows the member by its name, which may raise one itself. -/
def unreadable (scope : Scope) (cls : ClassObject) (member : Value) (accessor : Accessor)
    (raised : Raised) : Failure :=
  if raised.endsRun then .exception raised
  else match (scope.readValue member "name" false).bind fun name => (scope.dressed name).inline with
    | .ok name => .unreadable cls.name.name name accessor.name raised
    | .error other => .exception other

def valuesOf (scope : Scope) (cls : ClassObject) (member : Value) :
    List Accessor → Except Failure (List (String × Value))
  | [] => .ok []
  | accessor :: rest => match scope.readValue member accessor.name accessor.isMethod with
    | .ok value => do
      return (accessor.name, scope.dressed value) :: (← valuesOf scope cls member rest)
    | .error raised => .error (unreadable scope cls member accessor raised)

def variantOf (scope : Scope) (cls : ClassObject) (member : Value) (accessors : List Accessor)
    (ordinal : Nat) : Except Failure Variant := do
  let values ← valuesOf scope cls member accessors
  match scope.readValue member "name" false with
  | .error raised => .error (.exception raised)
  | .ok name => match (scope.dressed name).textRefusal? with
    | some raised => .error (.exception raised)
    | none => match name.readText.within (.key "name") with
      | .ok name => return ⟨name, ordinal, values⟩
      | .error faults => .error (.invalid faults)

def variantsFrom (scope : Scope) (cls : ClassObject) (accessors : List Accessor) :
    Nat → List Value → Except Failure (List Variant)
  | _, [] => .ok []
  | ordinal, member :: rest => do
    let first ← variantOf scope cls member accessors ordinal
    return first :: (← variantsFrom scope cls accessors (ordinal + 1) rest)

def ofAccessors (scope : Scope) (cls : ClassObject) (accessors : List Accessor) :
    Except Failure DomainClass := do
  let members := match cls.enumeration with
    | some enumeration => enumeration.listed.map (cls.memberValue enumeration)
    | none => []
  let variants ← variantsFrom scope cls accessors 0 members
  return ⟨cls.name.name, accessors.map fun accessor => ⟨accessor.name, accessor.type⟩, variants⟩

def load (scope : Scope) (cls : ClassObject) : Logged (Except Failure DomainClass) := do
  match ← Accessor.discover scope cls with
  | .error (.signature className accessor cause) =>
    return .error (.signature className accessor cause)
  | .error (.raised cause) => return .error (.exception cause)
  | .ok accessors => return ofAccessors scope cls accessors

end EnumTables.DomainClass
