import EnumTables.Descriptor
import EnumTables.Fault
import EnumTables.Value.Text

/-!
Descriptors as data. A descriptor is an object whose entry `kind` holds one of eight tags; the tag
decides which other entries are read, and every other entry is ignored. The location of a fault
names the tag before the entry. Descriptors stand inside each other up to a limit only (`Guard`).
`toValue` writes a descriptor with all its entries.
-/

namespace EnumTables.Descriptor

open Checked (field optionalField)

inductive Tag where
  | primitive
  | enumeration
  | position
  | list
  | pair
  | map
  | generic
  | unclassified
  deriving DecidableEq, Repr

namespace Tag

def all : List Tag :=
  [.primitive, .enumeration, .position, .list, .pair, .map, .generic, .unclassified]

def name : Tag → String
  | .primitive => "primitive"
  | .enumeration => "enum"
  | .position => "position"
  | .list => "list"
  | .pair => "pair"
  | .map => "map"
  | .generic => "generic"
  | .unclassified => "opaque"

def ofName? (name : String) : Option Tag :=
  all.find? fun tag => tag.name = name

end Tag

def tag : Descriptor → Tag
  | .primitive _ => .primitive
  | .enumeration _ => .enumeration
  | .position _ => .position
  | .list _ => .list
  | .pair .. => .pair
  | .map .. => .map
  | .generic .. => .generic
  | .unclassified _ => .unclassified

/-! ## Depth -/

/-- The place of a kind of descriptors that have parts among all these kinds. -/
def Tag.rank? : Tag → Option Nat
  | .list => some 0
  | .pair => some 1
  | .map => some 2
  | .generic => some 3
  | _ => none

/-- Where a descriptor stands inside others. It counts for one, and for two if its kind comes before
all kinds around it. -/
structure Guard where
  count : Nat
  first : Option Nat
  deriving DecidableEq

namespace Guard

def limit : Nat := 254

def outermost : Guard := ⟨1, none⟩

def reach (guard : Guard) (tag : Tag) : Nat :=
  match guard.first, tag.rank? with
  | some first, some rank => if rank < first then guard.count + 1 else guard.count
  | _, _ => guard.count

def below (guard : Guard) (tag : Tag) : Guard :=
  ⟨guard.reach tag + 1, Option.merge min guard.first tag.rank?⟩

def stops (guard : Guard) (tag : Tag) : Bool :=
  limit < guard.reach tag

end Guard

/-! ## Reading -/

/-- What an entry of an object offers: its value, and that value read as a descriptor and as a
sequence of descriptors. -/
structure Part where
  value : Value
  descriptor : Guard → Checked Descriptor
  sequence : Guard → Checked (List Descriptor)

def readText (part : Part) : Checked String :=
  part.value.readText

def readPrimitive (part : Part) : Checked Primitive :=
  match part.value.asText?.bind Primitive.ofName? with
  | some kind => .ok kind
  | none => .fault .notChoice

/-- The descriptor with a tag. Its parts stand where `guard` says. -/
def ofTag (guard : Guard) (parts : List (String × Part)) (tag : Tag) : Checked Descriptor :=
  let descriptor (part : Part) : Checked Descriptor := part.descriptor guard
  match tag with
  | .primitive => (field parts "primitive" readPrimitive).map .primitive
  | .enumeration => (field parts "name" readText).map .enumeration
  | .position => (optionalField parts "name" defaultPositionName readText).map .position
  | .list => (field parts "element" descriptor).map .list
  | .pair => .both .pair (field parts "first" descriptor) (field parts "second" descriptor)
  | .map => .both .map (field parts "key" descriptor) (field parts "value" descriptor)
  | .generic =>
    .both .generic (field parts "origin" readText)
      (optionalField parts "arguments" [] fun part => part.sequence guard)
  | .unclassified => (field parts "name" readText).map .unclassified

def ofParts (guard : Guard) (parts : List (String × Part)) : Checked Descriptor :=
  match parts.lookup "kind" with
  | none => .fault .tagMissing
  | some part => match part.value.asText?.bind Tag.ofName? with
    | none => .fault .tagUnknown
    | some tag =>
      (if guard.stops tag then .fault .tooDeep else ofTag (guard.below tag) parts tag).within
        (.key tag.name)

mutual

def readAt (guard : Guard) : Value → Checked Descriptor
  | .mapping _ entries => ofParts guard (readParts entries)
  | _ => .fault .notTagged

def readSequence (guard : Guard) : Value → Checked (List Descriptor)
  | .collection .list items => readItems guard items 0
  | .collection .tuple items => readItems guard items 0
  | _ => .fault .notSequence

def readItems (guard : Guard) : List Value → Int → Checked (List Descriptor)
  | [], _ => .ok []
  | item :: rest, index =>
    .both .cons ((readAt guard item).within (.place index)) (readItems guard rest (index + 1))

def readParts : List (Value × Value) → List (String × Part)
  | [] => []
  | (.text name, value) :: rest =>
    (name, ⟨value, fun guard => readAt guard value, fun guard => readSequence guard value⟩) ::
      readParts rest
  | _ :: rest => readParts rest

end

def read (data : Value) : Checked Descriptor :=
  readAt .outermost data

mutual

def toValue : Descriptor → Value
  | .primitive kind => tagged .primitive [("primitive", .text kind.name)]
  | .enumeration name => tagged .enumeration [("name", .text name)]
  | .position name => tagged .position [("name", .text name)]
  | .list element => tagged .list [("element", toValue element)]
  | .pair first second => tagged .pair [("first", toValue first), ("second", toValue second)]
  | .map key value => tagged .map [("key", toValue key), ("value", toValue value)]
  | .generic origin arguments =>
    tagged .generic [("origin", .text origin), ("arguments", .list (toValues arguments))]
  | .unclassified name => tagged .unclassified [("name", .text name)]
where
  tagged (tag : Tag) (fields : List (String × Value)) : Value :=
    .dict (("kind", .text tag.name) :: fields |>.map fun field => (.text field.1, field.2))

def toValues : List Descriptor → List Value
  | [] => []
  | descriptor :: rest => toValue descriptor :: toValues rest

end

end EnumTables.Descriptor
