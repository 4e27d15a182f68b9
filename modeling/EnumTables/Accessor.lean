import EnumTables.ClassObject.Access
import EnumTables.LogRecord
import EnumTables.TypeForm.Description
import EnumTables.TypeForm.Evaluation

/-!
Accessors: the properties of an enumeration that become columns of its table. Names are taken
base-first in order of definition, and each name is judged by its most derived definition: a
readable property, or a method that takes nothing but the member, whose declared result is not the
absent value.
-/

namespace EnumTables

structure Accessor where
  name : String
  type : Descriptor
  isMethod : Bool

/-- What keeps the accessors of an enumeration from being found: declared types that cannot be
looked up, or one that cannot be described. -/
inductive DiscoveryError where
  | signature (className accessor : String) (cause : Raised)
  | raised (cause : Raised)

namespace Accessor

def logSource : String := "enumtab.reflection.introspect"

def incidentalNames : List String := ["name", "value"]

def ownNames (scope : Scope) (owner : ClassName) : List String :=
  match scope.class? owner with
  | some cls => cls.attributes.map Prod.fst
  | none => if owner = StandardClass.tilePosition then ["x", "y"] else []

def isCandidate (members : List String) (name : String) : Bool :=
  !(name.toList.head? == some '_') && !incidentalNames.contains name && !members.contains name

def candidates (scope : Scope) (cls : ClassObject) : List String :=
  let members := (cls.enumeration.map Enumeration.names).getD []
  let owners := cls.order.reverse.filter fun owner => !StandardClass.isMachinery owner
  ((owners.flatMap (ownNames scope)).filter (isCandidate members)).eraseDups

inductive Verdict where
  | silent
  | skipped (record : LogRecord)
  | accepted (function : Function) (isMethod : Bool)

def skip (level : LogLevel) (className name reason : String) : Verdict :=
  .skipped ⟨level, logSource, "Skipping " ++ className ++ "." ++ name ++ ": " ++ reason⟩

def takesOnlyMember (function : Function) : Bool :=
  match function.parameters with
  | [parameter] => parameter.isPositional
  | _ => false

def judge (className name : String) : Attribute → Verdict
  | .property none => .silent
  | .property (some getter) => .accepted getter false
  | .method function =>
    if takesOnlyMember function then .accepted function true
    else skip .debug className name "method takes arguments besides self"
  | .cachedProperty _ => unsupported "cached_property"
  | .memberProperty _ => unsupported "property"
  | .dynamicProperty _ => unsupported "DynamicClassAttribute"
  | .staticMethod _ | .classMethod _ | .constant _ | .nestedClass _ | .member _ | .native _ =>
    skip .debug className name "not a property or a method"
where
  unsupported (kind : String) : Verdict :=
    skip .warning className name
      (kind ++ " is not supported, declare it as a property or a method")

/-- The accessor of a function, unless its result is declared absent. -/
def ofFunction (scope : Scope) (className name : String) (function : Function) (isMethod : Bool) :
    Except DiscoveryError (Option Accessor) :=
  match function.signature scope with
  | .error cause => .error (.signature className name cause)
  | .ok types => match types.lookup Function.resultKey with
    | none => .ok (some ⟨name, .undeclared, isMethod⟩)
    | some result =>
      if TypeForm.isNoneType result then .ok none
      else match result.describe with
        | .ok type => .ok (some ⟨name, type, isMethod⟩)
        | .error cause => .error (.raised cause)

def discoverFrom (scope : Scope) (cls : ClassObject) :
    List String → Logged (Except DiscoveryError (List Accessor))
  | [] => ⟨[], .ok []⟩
  | name :: rest =>
    match scope.attribute? cls name with
    | none => discoverFrom scope cls rest
    | some found => match judge cls.name.name name found with
      | .silent => discoverFrom scope cls rest
      | .skipped record =>
        let others := discoverFrom scope cls rest
        ⟨record :: others.log, others.result⟩
      | .accepted function isMethod =>
        match ofFunction scope cls.name.name name function isMethod with
        | .error error => ⟨[], .error error⟩
        | .ok none => discoverFrom scope cls rest
        | .ok (some accessor) =>
          let others := discoverFrom scope cls rest
          ⟨others.log, others.result.map (accessor :: ·)⟩

def discover (scope : Scope) (cls : ClassObject) : Logged (Except DiscoveryError (List Accessor)) :=
  discoverFrom scope cls (candidates scope cls)

end Accessor

end EnumTables
