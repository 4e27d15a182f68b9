import EnumTables.Text.Base64
import EnumTables.Text.Case
import EnumTables.Value.Equality
import EnumTables.Yaml.Node

/-!
The data of a YAML document. Data is built in rounds: a collection is there at once, and its parts
are built in the next round. So of several errors the one nearest to the top is reported, and of
equally near ones the first.
-/

namespace EnumTables.Yaml

structure BuildError where
  round : Nat
  cause : ReadError

abbrev Built (α : Type) := Except BuildError α

namespace Built

variable {α β γ : Type}

def fail (spot : Spot) (cause : ReadError) : Built α :=
  .error ⟨spot.length, cause⟩

def failInside (spot : Spot) (cause : ReadError) : Built α :=
  .error ⟨spot.length + 1, cause⟩

/-- Two parts, or the error that comes up first; the left part goes first in a round. -/
def both (combine : α → β → γ) : Built α → Built β → Built γ
  | .ok a, .ok b => .ok (combine a b)
  | .error left, .error right => .error (if right.round < left.round then right else left)
  | .error left, .ok _ => .error left
  | .ok _, .error right => .error right

def ofRaised (spot : Spot) : Except Raised α → Built α
  | .ok a => .ok a
  | .error raised => fail spot (.exception raised)

end Built

namespace Node

open Built (fail failInside)

def tag : Node → Tag
  | .scalar tag _ | .sequence tag _ | .mapping tag _ => tag

def retag (tag : Tag) : Node → Node
  | .scalar _ text => .scalar tag text
  | .sequence _ items => .sequence tag items
  | .mapping _ entries => .mapping tag entries

def isMergeKey (node : Node) : Bool :=
  node.tag == .merge

def hasMerge : Node → Bool
  | .mapping _ entries => entries.any fun entry => entry.1.isMergeKey
  | _ => false

def plainKey (key : Node) : Node :=
  if key.tag.isDefault then key.retag .text else key

mutual

def size : Node → Nat
  | .scalar _ _ => 1
  | .sequence _ items => 1 + sizeItems items
  | .mapping _ entries => 1 + sizeEntries entries

def sizeItems : List Node → Nat
  | [] => 0
  | item :: rest => size item + sizeItems rest

def sizeEntries : List (Node × Node) → Nat
  | [] => 0
  | (key, value) :: rest => size key + size value + sizeEntries rest

end

mutual

def merged : Node → Option (List (Node × Node))
  | .mapping _ entries => do
    let (inherited, own) ← mergedEntries entries
    return inherited ++ own
  | _ => none

def mergedEntries : List (Node × Node) → Option (List (Node × Node) × List (Node × Node))
  | [] => some ([], [])
  | (key, value) :: rest => do
    if key.isMergeKey then
      let first ← match value with
        | .sequence _ items => do
          let parts ← mergedItems items
          pure parts.reverse.flatten
        | value => merged value
      let (inherited, own) ← mergedEntries rest
      return (first ++ inherited, own)
    else
      let (inherited, own) ← mergedEntries rest
      return (inherited, (key, value) :: own)

def mergedItems : List Node → Option (List (List (Node × Node)))
  | [] => some []
  | item :: rest => do
    let first ← merged item
    return first :: (← mergedItems rest)

end

/-- The text of a scalar. The default of a mapping stands for it, and has no end where it leads back
to the mapping. -/
def scalarText : Node → Except ReadError String
  | .scalar _ text => .ok text
  | .sequence _ _ => .error .malformed
  | .mapping .looped _ => .error (.exception Runtime.overflow)
  | .mapping _ entries => defaultText entries
where
  defaultText : List (Node × Node) → Except ReadError String
    | [] => .error .malformed
    | (key, value) :: rest =>
      if key.tag.isDefault then scalarText value else defaultText rest

def readBool (text : String) : Except Raised Bool :=
  let word := String.ofList (Text.lower text.toList)
  match Tag.boolWords.lookup word with
  | some b => .ok b
  | none => .error ⟨"KeyError", Text.quote word⟩

def readTimestamp (text : String) : Except Raised Value :=
  match Timestamp.ofText? text.toList with
  | none => .error (.attributeError "'NoneType' object has no attribute 'groupdict'")
  | some timestamp => match timestamp.fault? with
    | some message => .error (.valueError message)
    | none => .ok timestamp.toValue

def scalarValue (spot : Spot) (tag : Tag) (text : String) : Built Value :=
  let raised (result : Except Raised Value) : Built Value := Built.ofRaised spot result
  match tag with
  | .null => .ok .null
  | .text => .ok (.text text)
  | .bool => raised ((readBool text).map .bool)
  | .int => raised ((Number.readInteger text.toList).map .int)
  | .float => raised ((Number.readFloat text.toList).map .float)
  | .timestamp => raised (readTimestamp text)
  | .binary => match Base64.decode? text.toList with
    | some data => .ok (.bytes false data)
    | none => fail spot .malformed
  | _ => fail spot .malformed

/-- A mapping with a default is no text to take a time from. -/
def unmatched : Raised :=
  .typeError "expected string or bytes-like object, got 'list'"

/-! ## Keys that are known elsewhere

A key that marks a default becomes a text when its mapping is built. An alias of the key is the same
node, so that it stands for a text from then on, and cannot be built before.
-/

/-- Keys with anchors that mark defaults, each with the place of a mapping that makes it a text. -/
abbrev Restyled := List (String × Spot)

mutual

def restyled : Nat → Spot → Node → Restyled
  | 0, _, _ => []
  | fuel + 1, spot, node => match node.tag with
    | .sequence => match node with
      | .sequence _ items => restyledItems fuel spot 0 items
      | _ => []
    | .mapping | .set => match node.merged with
      | some entries => (entries.filterMap fun entry => match entry.1.tag with
          | .default (some anchor) => some (anchor, spot)
          | _ => none) ++ restyledEntries fuel spot 0 entries
      | none => []
    | .orderedMap | .pairs => match node with
      | .sequence _ items => restyledPairs fuel spot 0 items
      | _ => []
    | _ => []

def restyledItems : Nat → Spot → Nat → List Node → Restyled
  | 0, _, _, _ => []
  | _, _, _, [] => []
  | fuel + 1, spot, index, item :: rest =>
    restyled fuel (index :: spot) item ++ restyledItems fuel spot (index + 1) rest

def restyledEntries : Nat → Spot → Nat → List (Node × Node) → Restyled
  | 0, _, _, _ => []
  | _, _, _, [] => []
  | fuel + 1, spot, index, (_, value) :: rest =>
    restyled fuel (index :: spot) value ++ restyledEntries fuel spot (index + 1) rest

def restyledPairs : Nat → Spot → Nat → List Node → Restyled
  | 0, _, _, _ => []
  | _, _, _, [] => []
  | fuel + 1, spot, index, item :: rest =>
    (match item with
      | .mapping _ [(key, value)] =>
        restyled fuel ((2 * index) :: spot) key ++ restyled fuel ((2 * index + 1) :: spot) value
      | _ => []) ++ restyledPairs fuel spot (index + 1) rest

end

/-- A place is not after another one: it is in an earlier round, or in the same one and not behind
it. -/
def notAfter (spot other : Spot) : Bool :=
  spot.length < other.length ||
    (spot.length == other.length && !(other.reverse < spot.reverse : Bool))

/-- The node at a place as it stands when it is built: what its key became before the collection
around it. -/
def settled (keys : Restyled) (spot : Spot) (node : Node) : Node :=
  match node.tag with
  | .default (some anchor) =>
    if keys.any fun key => key.1 == anchor && notAfter key.2 spot.tail then node.retag .text
    else node
  | _ => node

/-! ## Building -/

/-- Two keys are one: they are equal, or both are what is written as no number. -/
def sameKey : Value → Value → Bool
  | .float x, .float y => x.same y || (x == y && x == Number.notANumber)
  | left, right => left.same right

structure Builder where
  runtime : Runtime
  document : Node
  keys : Restyled

namespace Builder

def hasRoomFor (builder : Builder) (spot : Spot) : Bool :=
  builder.runtime.hasRoomFor builder.document spot

def scalar (builder : Builder) (spot : Spot) : Node → Built Value
  | .scalar tag text => scalarValue spot tag text
  | .sequence _ _ => fail spot .malformed
  | .mapping tag entries =>
    if !builder.hasRoomFor spot then fail spot (.exception Runtime.overflow)
    else match scalarText (.mapping tag entries) with
      | .error cause => fail spot cause
      | .ok text =>
        if tag == .timestamp then fail spot (.exception unmatched) else scalarValue spot tag text

end Builder

mutual

def build (builder : Builder) : Nat → Spot → Node → Built Value
  | 0, spot, _ => fail spot .malformed
  | fuel + 1, spot, node =>
    let node := node.settled builder.keys spot
    if node.tag.isScalar then builder.scalar spot node
    else match node.tag with
      | .sequence => match node with
        | .sequence _ items => (buildItems builder fuel spot 0 items).map .list
        | _ => failInside spot .malformed
      | .mapping => (buildMapping builder fuel spot node).map .dict
      | .set => (buildMapping builder fuel spot node).map fun entries =>
        .collection .set (builder.runtime.order (entries.map Prod.fst))
      | .orderedMap | .pairs => match node with
        | .sequence _ items => (buildPairs builder fuel spot 0 items).map .list
        | _ => failInside spot .malformed
      | _ => fail spot .malformed

def buildItems (builder : Builder) : Nat → Spot → Nat → List Node → Built (List Value)
  | 0, spot, _, _ => failInside spot .malformed
  | _, _, _, [] => .ok []
  | fuel + 1, spot, index, item :: rest =>
    Built.both List.cons (build builder fuel (index :: spot) item)
      (buildItems builder fuel spot (index + 1) rest)

def buildMapping (builder : Builder) : Nat → Spot → Node → Built (List (Value × Value))
  | 0, spot, _ => failInside spot .malformed
  | fuel + 1, spot, node =>
    if node.hasMerge && !builder.hasRoomFor spot then failInside spot (.exception Runtime.overflow)
    else match node.merged with
      | none => failInside spot .malformed
      | some entries => (buildEntries builder fuel spot 0 entries).map fun built =>
        built.foldl (fun all entry => Value.insertBy sameKey all entry.1 entry.2) []

def buildKey (builder : Builder) : Nat → Spot → Node → Built Value
  | 0, spot, _ => fail spot .malformed
  | fuel + 1, spot, key =>
    if key.tag.isCollection then fail spot .malformed else build builder fuel spot key.plainKey

def buildEntries (builder : Builder) :
    Nat → Spot → Nat → List (Node × Node) → Built (List (Value × Value))
  | 0, spot, _, _ => failInside spot .malformed
  | _, _, _, [] => .ok []
  | fuel + 1, spot, index, (key, value) :: rest =>
    let entry := Built.both Prod.mk (buildKey builder fuel (index :: spot) key)
      (build builder fuel (index :: spot) value)
    Built.both List.cons entry (buildEntries builder fuel spot (index + 1) rest)

def buildPairs (builder : Builder) : Nat → Spot → Nat → List Node → Built (List Value)
  | 0, spot, _, _ => failInside spot .malformed
  | _, _, _, [] => .ok []
  | fuel + 1, spot, index, item :: rest =>
    let pair (key value : Value) : Value := .tuple [key, value]
    let first : Built Value := match item with
      | .mapping _ [(key, value)] =>
        Built.both pair (build builder fuel ((2 * index) :: spot) key)
          (build builder fuel ((2 * index + 1) :: spot) value)
      | _ => failInside spot .malformed
    Built.both List.cons first (buildPairs builder fuel spot (index + 1) rest)

end

def toValue (runtime : Runtime) (node : Node) : Except ReadError Value :=
  let fuel := 5 * node.size + 5
  let builder : Builder := ⟨runtime, node, restyled fuel [] node⟩
  (build builder fuel [] node).mapError BuildError.cause

end Node

def read (runtime : Runtime) (text : String) : Except ReadError Value := do
  match ← Node.ofTokens? runtime (Token.ofText text.toList) with
  | none => return .null
  | some node => node.toValue runtime

end EnumTables.Yaml
