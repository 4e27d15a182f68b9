import EnumTables.Value.Parts

/-!
Equality of values as mappings and enumerations use it: numbers of all kinds are compared by their
value, collections element by element, and mappings without regard to the order of their entries.
-/

namespace EnumTables.Value

open Decimal

inductive Number where
  | int (n : Int)
  | float (x : Binary64)

def number? : Value → Option Number
  | .bool b => some (.int (if b then 1 else 0))
  | value => match value.asInteger?, value.asFloat? with
    | some n, _ => some (.int n)
    | none, some x => some (.float x)
    | none, none => none

def Number.same : Number → Number → Bool
  | .int m, .int n => m == n
  | .int m, .float y => y.equalsInt m
  | .float x, .int n => x.equalsInt n
  | .float x, .float y => x.same y

def isHashable : Value → Bool
  | .bytes mutable _ => !mutable
  | .collection .tuple items => itemsHashable items
  | .collection .frozenSet _ | .collection (.stream _) _ => true
  | .collection _ _ => false
  | .mapping _ _ => false
  | .position x y => isHashable x && isHashable y
  | .record _ => false
  | .member _ _ _ data _ => isHashable data
  | _ => true
where
  itemsHashable : List Value → Bool
    | [] => true
    | item :: rest => isHashable item && itemsHashable rest

def sameRange (start stop step start' stop' step' : Int) : Bool :=
  let length := rangeLength start stop step
  length == rangeLength start' stop' step' &&
    (length == 0 || (start == start' && (length == 1 || step == step')))

/-- Two members are one: they have the same class and name, and hold the same bits. -/
def sameMember (cls : MemberClass) (name : Option String) (held : Value) (cls' : MemberClass)
    (name' : Option String) (held' : Value) : Bool :=
  cls.path == cls'.path && cls.edition == cls'.edition && name == name' &&
    match held, held' with
    | .int bits, .int bits' => bits == bits'
    | _, _ => true

def asData : Value → Value
  | .member cls name held .null looks => .member cls name held .null looks
  | .member _ _ _ data _ => asData data
  | value => value

mutual

def same (left right : Value) : Bool :=
  match left, right.asData with
  | .member cls name held .null _, .member cls' name' held' _ _ =>
    sameMember cls name held cls' name' held'
  | .member _ _ _ .null _, _ => false
  | .member _ _ _ data _, other => same data other
  | .null, .null => true
  | .bytes _ left, .bytes _ right => left == right
  | .collection kind items, .collection kind' items' => match kind, kind' with
    | .list, .list | .tuple, .tuple => sameItems items items'
    | .set, .set | .set, .frozenSet | .frozenSet, .set | .frozenSet, .frozenSet =>
      items.length == items'.length && allFound items items'
    | _, _ => false
  | .collection .tuple items, .position x y => sameItems items [x, y]
  | .position x y, .collection .tuple [x', y'] => same x x' && same y y'
  | .position x y, .position x' y' => same x x' && same y y'
  | .mapping _ entries, .mapping _ entries' =>
    entries.length == entries'.length && allEntriesFound entries entries'
  | .range start stop step, .range start' stop' step' =>
    sameRange start stop step start' stop' step'
  | .record attributes, .record attributes' =>
    attributes.length == attributes'.length && sameAttributes attributes attributes'
  | .object traits _, .object traits' _ =>
    traits.typeName == traits'.typeName && traits.identity == traits'.identity
  | left, right => match number? left, number? right with
    | some m, some n => m.same n
    | _, _ => match left.asText?, right.asText? with
      | some s, some t => s == t
      | _, _ => false

def sameItems : List Value → List Value → Bool
  | [], [] => true
  | left :: lefts, right :: rights => same left right && sameItems lefts rights
  | _, _ => false

def allFound : List Value → List Value → Bool
  | [], _ => true
  | left :: lefts, rights => rights.any (same left) && allFound lefts rights

def allEntriesFound : List (Value × Value) → List (Value × Value) → Bool
  | [], _ => true
  | (key, value) :: rest, entries =>
    entries.any (fun other => same key other.1 && same value other.2) &&
      allEntriesFound rest entries

def sameAttributes : List (String × Value) → List (String × Value) → Bool
  | [], _ => true
  | (name, value) :: rest, attributes =>
    (match attributes.lookup name with
      | some other => same value other
      | none => false) && sameAttributes rest attributes

end

/-- Puts an entry into a mapping: a key that is the same keeps its place and takes the new value. -/
def insertBy (sameKey : Value → Value → Bool) (entries : List (Value × Value)) (key value : Value) :
    List (Value × Value) :=
  match entries with
  | [] => [(key, value)]
  | (other, old) :: rest =>
    if sameKey other key then (other, value) :: rest
    else (other, old) :: insertBy sameKey rest key value

def insertEntry (entries : List (Value × Value)) (key value : Value) : List (Value × Value) :=
  insertBy same entries key value

end EnumTables.Value
