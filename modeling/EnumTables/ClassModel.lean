import EnumTables.TypeExpr

/-!
Described modules: classes with members, attributes and nested classes, as they are written. A
member inside a value is written by the path of its class and its name; what it holds is filled in
where the module is known.
-/

namespace EnumTables

inductive ParameterKind where
  | positionalOnly
  | ordinary
  | keywordOnly
  | variadic
  | keywords
  deriving DecidableEq, Repr

structure Parameter where
  name : String
  kind : ParameterKind
  type : Option TypeExpr
  hasDefault : Bool

namespace Parameter

def isPositional (parameter : Parameter) : Bool :=
  parameter.kind = .positionalOnly || parameter.kind = .ordinary

end Parameter

inductive Body where
  | nothing
  | constant (value : Value)
  | read (name : String)
  | call (name : String)
  | item (index : Int)
  | table (rows : List (String × Value))
  | raise (kind text : String)

inductive AttributeKind where
  | method
  | property
  | staticMethod
  | classMethod
  | cachedProperty
  /-- A property that behaves differently on the class. -/
  | memberProperty
  | dynamicProperty
  | lambda
  | writeOnly
  | constant (value : Value)
  | nestedClass

structure AttributeModel where
  name : String
  kind : AttributeKind
  parameters : List Parameter
  result : Option TypeExpr
  body : Body

inductive ClassModel where
  | mk (name : String) (bases : List String) (members : List (String × Value))
      (attributes : List AttributeModel) (nested : List ClassModel) (positionMark : Option Value)
  deriving Inhabited

structure ModuleModel where
  name : String
  classes : List ClassModel
  raises : Option (String × String)
  /-- Types in signatures are kept as text. -/
  deferred : Bool

end EnumTables
