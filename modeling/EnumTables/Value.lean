import EnumTables.Decimal.Binary64
import EnumTables.Decimal.Numeral
import EnumTables.Raised

/-!
Dynamic values: what the properties of an enumeration member can hold. Members of enumerations are
values too, and a member whose class builds on numbers, texts or collections is one itself: `data`
says what. The views at the end of this module look through members at what they are.
-/

namespace EnumTables

open Decimal

/-! ## Looks -/

abbrev Spoken := Except Raised String

structure Label where
  text : Spoken
  otherType : Option String

inductive Coordinate where
  | integer (text : Spoken)
  | other
  | raised (cause : Raised)

/-- How a member shows itself if its class does not leave that to its name. -/
structure Looks where
  name : Except Raised Label
  text : Spoken
  inline : Spoken
  display : Spoken
  x : Coordinate
  y : Coordinate

/-- What can be told of an object that is nothing but an object. Objects with one identity are
equal. -/
structure Traits where
  typeName : String
  display : Spoken
  identity : String
  x : Coordinate
  y : Coordinate
  isIterable : Bool

/-- The class of an enumeration member, by its dotted path in its module; of classes with one path
the edition tells which it is. -/
structure MemberClass where
  name : String
  path : String
  edition : Nat
  isFlag : Bool
  /-- Members are shown as what they are; those of other classes by their names. -/
  showsData : Bool
  bits : List (String × Int)
  visited : Int
  /-- The looks of members with one bit, if they have looks of their own. -/
  looks : List (String × Looks)

/-! ## Values -/

inductive Collection where
  | list
  | tuple
  | set
  | frozenSet
  /-- A source of elements that has no other use, and has them once; one that several owners share
  has a mark. -/
  | stream (mark : Option String)
  deriving DecidableEq, Repr

inductive Value where
  | null
  | bool (b : Bool)
  | int (n : Int)
  | float (x : Binary64)
  | text (s : String)
  | bytes (mutable : Bool) (data : List UInt8)
  | collection (kind : Collection) (items : List Value)
  | mapping (readOnly : Bool) (entries : List (Value × Value))
  | range (start stop step : Int)
  | position (x y : Value)
  /-- An object that has attributes and nothing else. -/
  | record (attributes : List (String × Value))
  /-- A member of an enumeration with what it holds, and what it is itself besides being a member;
  the absent value if it is nothing else. A set of bits that no member describes has no name. -/
  | member (cls : MemberClass) (name : Option String) (held data : Value) (looks : Option Looks)
  /-- Any other object, with its elements if it can be iterated over. -/
  | object (traits : Traits) (items : List Value)

instance : Inhabited Value := ⟨.null⟩

namespace Value

abbrev list (items : List Value) : Value := .collection .list items

abbrev tuple (items : List Value) : Value := .collection .tuple items

abbrev dict (entries : List (Value × Value)) : Value := .mapping false entries

abbrev plainObject (typeName display : String) : Value :=
  .object ⟨typeName, .ok display, display, .other, .other, false⟩ []

def entry (pair : Value × Value) : Value := tuple [pair.1, pair.2]

def typeName : Value → String
  | .null => "NoneType"
  | .bool _ => "bool"
  | .int _ => "int"
  | .float _ => "float"
  | .text _ => "str"
  | .bytes false _ => "bytes"
  | .bytes true _ => "bytearray"
  | .collection .list _ => "list"
  | .collection .tuple _ => "tuple"
  | .collection .set _ => "set"
  | .collection .frozenSet _ => "frozenset"
  | .collection (.stream _) _ => "list_iterator"
  | .mapping false _ => "dict"
  | .mapping true _ => "mappingproxy"
  | .range .. => "range"
  | .position .. => "TilePosition"
  | .record _ => "types.SimpleNamespace"
  | .member cls _ _ _ _ => cls.name
  | .object traits _ => traits.typeName

/-! ## Views -/

/-- The integer that a value is. A truth value is not counted as one. -/
def asInteger? : Value → Option Int
  | .int n => some n
  | .member _ _ _ data _ => asInteger? data
  | _ => none

def asFloat? : Value → Option Binary64
  | .float x => some x
  | .member _ _ _ data _ => asFloat? data
  | _ => none

def asText? : Value → Option String
  | .text s => some s
  | .member _ _ _ data _ => asText? data
  | _ => none

end Value

end EnumTables
