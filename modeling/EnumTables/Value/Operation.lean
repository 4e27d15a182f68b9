import EnumTables.Expression
import EnumTables.Value.Bits
import EnumTables.Value.Conversion

/-!
Operations on values: arithmetic of numbers, sets of bits, and joining and repeating text and
collections. Operands that an operation does not take are refused by the names of their types.
-/

namespace EnumTables.Value

open Decimal

def unsupportedOperands (operator : Operator) (left right : String) : Raised :=
  .typeError ("unsupported operand type(s) for " ++ operator.title ++ ": '" ++ left ++ "' and '" ++
    right ++ "'")

def dividedByZero (message : String) : Raised := ⟨"ZeroDivisionError", message⟩

def ofFloat (x : Float) : Value := .float ⟨x.toBits⟩

def floatOf (n : Int) : Except Raised Float :=
  (roundedFloat n).map fun x => Float.ofBits x.bits

/-! ## Numbers -/

def operateFloats (operator : Operator) (x y : Float) (refused : Raised) : Except Raised Value :=
  let quotient := (x / y).floor
  match operator with
  | .add => .ok (ofFloat (x + y))
  | .subtract => .ok (ofFloat (x - y))
  | .multiply => .ok (ofFloat (x * y))
  | .divide =>
    if y == 0 then .error (dividedByZero "float division by zero") else .ok (ofFloat (x / y))
  | .floorDivide =>
    if y == 0 then .error (dividedByZero "float floor division by zero") else .ok (ofFloat quotient)
  | .remainder =>
    if y == 0 then .error (dividedByZero "float modulo") else .ok (ofFloat (x - y * quotient))
  | .power =>
    if x == 0 && y < 0 then
      .error (dividedByZero "0.0 cannot be raised to a negative power")
    else .ok (ofFloat (x ^ y))
  | _ => .error refused

def bitBound : Int := 100000

def operateIntegers (operator : Operator) (m n : Int) (refused : Raised) : Except Raised Value :=
  let asFloats : Except Raised Value := do
    operateFloats operator (← floatOf m) (← floatOf n) refused
  let tooLarge : Except Raised Value := .error ⟨"OverflowError", "too many digits in integer"⟩
  match operator with
  | .bitOr => .ok (.int (Bits.union m n))
  | .bitXor => .ok (.int (Bits.difference m n))
  | .bitAnd => .ok (.int (Bits.common m n))
  | .shiftLeft =>
    if n < 0 then .error (.valueError "negative shift count")
    else if bitBound < n then tooLarge
    else .ok (.int (m * 2 ^ n.toNat))
  | .shiftRight =>
    if n < 0 then .error (.valueError "negative shift count")
    else .ok (.int (m.fdiv (2 ^ (min n bitBound).toNat)))
  | .add => .ok (.int (m + n))
  | .subtract => .ok (.int (m - n))
  | .multiply => .ok (.int (m * n))
  | .divide => if n = 0 then .error (dividedByZero "division by zero") else asFloats
  | .floorDivide =>
    if n = 0 then .error (dividedByZero "integer division or modulo by zero")
    else .ok (.int (m.fdiv n))
  | .remainder =>
    if n = 0 then .error (dividedByZero "integer modulo by zero") else .ok (.int (m.fmod n))
  | .power =>
    if n < 0 then asFloats
    else if bitBound < n * Bits.length m then tooLarge
    else .ok (.int (m ^ n.toNat))
  | .matrixMultiply => .error refused

def operateNumbers (operator : Operator) (left right : Value) (refused : Raised) :
    Except Raised Value := do
  match left, right, operator with
  | .bool a, .bool b, .bitOr => return .bool (a || b)
  | .bool a, .bool b, .bitAnd => return .bool (a && b)
  | .bool a, .bool b, .bitXor => return .bool (a != b)
  | _, _, _ => match left.number?, right.number? with
    | some (.int m), some (.int n) => operateIntegers operator m n refused
    | some (.int m), some (.float y) =>
      operateFloats operator (← floatOf m) (Float.ofBits y.bits) refused
    | some (.float x), some (.int n) =>
      operateFloats operator (Float.ofBits x.bits) (← floatOf n) refused
    | some (.float x), some (.float y) =>
      operateFloats operator (Float.ofBits x.bits) (Float.ofBits y.bits) refused
    | _, _ => .error refused

/-! ## Sets of bits -/

def bitsFor? (cls : MemberClass) (isInteger : Bool) : Value → Option Int
  | .member other name held data looks =>
    if other.path = cls.path ∧ other.edition = cls.edition then match held with
      | .int bits => some bits
      | .bool b => some (if b then 1 else 0)
      | _ => none
    else if isInteger then asInteger? (.member other name held data looks) else none
  | .bool b => if isInteger then some (if b then 1 else 0) else none
  | value => if isInteger then value.asInteger? else none

def bitOperation? : Operator → Option (Int → Int → Int)
  | .bitOr => some Bits.union
  | .bitAnd => some Bits.common
  | .bitXor => some Bits.difference
  | _ => none

/-- The class of a set of bits, and whether sets of it are integers. -/
def flagClass? : Value → Option (MemberClass × Bool)
  | .member cls _ _ data _ => if cls.isFlag then some (cls, data.asInteger?.isSome) else none
  | _ => none

def operateFlags? (operator : Operator) (left right : Value) :
    Option (Except Raised Value) := do
  let operation ← bitOperation? operator
  let (cls, isInteger) ← (flagClass? left).or (flagClass? right)
  let m ← bitsFor? cls isInteger left
  let n ← bitsFor? cls isInteger right
  return cls.ofBits isInteger (operation m n)

/-! ## Text and collections -/

def repeated (value : Value) (times : Nat) : Option Value :=
  match value.asData with
  | .text s => some (.text (String.join (List.replicate times s)))
  | .bytes mutable data => some (.bytes mutable (List.replicate times data).flatten)
  | .collection .list items => some (.list (List.replicate times items).flatten)
  | .collection .tuple items => some (.tuple (List.replicate times items).flatten)
  | .position x y => some (.tuple (List.replicate times [x, y]).flatten)
  | _ => none

def joined? (left right : Value) : Option (Except Raised Value) :=
  let refuse (kind : String) : Except Raised Value := .error (.typeError
    ("can only concatenate " ++ kind ++ " (not \"" ++ right.typeName ++ "\") to " ++ kind))
  let tuple (items : List Value) : Except Raised Value := match right.asData with
    | .collection .tuple others => .ok (.tuple (items ++ others))
    | .position x y => .ok (.tuple (items ++ [x, y]))
    | _ => refuse "tuple"
  match left.asData with
  | .text s => some (match right.asText? with
    | some t => .ok (.text (s ++ t))
    | none => refuse "str")
  | .bytes mutable data => some (match right with
    | .bytes _ others => .ok (.bytes mutable (data ++ others))
    | _ => .error (.typeError ("can't concat " ++ right.typeName ++ " to " ++ left.typeName)))
  | .collection .list items => some (match right.asData with
    | .collection .list others => .ok (.list (items ++ others))
    | _ => refuse "list")
  | .collection .tuple items => some (tuple items)
  | .position x y => some (tuple [x, y])
  | _ => none

def multiplied? (left right : Value) : Option (Except Raised Value) :=
  let times (count : Value) (value : Value) : Option (Except Raised Value) :=
    match value.repeated 0, count.number? with
    | some _, some (.int n) =>
      if bitBound < n then some (.error ⟨"MemoryError", ""⟩)
      else (value.repeated n.toNat).map .ok
    | some _, _ => some (.error (.typeError
        ("can't multiply sequence by non-int of type '" ++ count.typeName ++ "'")))
    | none, _ => none
  (times right left).or (times left right)

def united? (left right : Value) : Option Value :=
  match left.asData, right.asData with
  | .mapping readOnly entries, .mapping _ others => some (.mapping readOnly
      (others.foldl (fun all entry => insertEntry all entry.1 entry.2) entries))
  | .collection .set items, .collection .set others
  | .collection .set items, .collection .frozenSet others =>
    some (.collection .set (distinctItems (items ++ others)))
  | .collection .frozenSet items, .collection .set others
  | .collection .frozenSet items, .collection .frozenSet others =>
    some (.collection .frozenSet (distinctItems (items ++ others)))
  | _, _ => none

def operate (operator : Operator) (left right : Value) : Except Raised Value :=
  let refused := unsupportedOperands operator left.typeName right.typeName
  match operateFlags? operator left right with
  | some outcome => outcome
  | none =>
    if left.number?.isSome && right.number?.isSome && (flagClass? left).isNone &&
        (flagClass? right).isNone then
      operateNumbers operator left right refused
    else
      let other := match operator with
        | .add => joined? left right
        | .multiply => multiplied? left right
        | .bitOr => (united? left right).map .ok
        | _ => none
      other.getD (.error refused)

def sign (sign : Sign) (operand : Value) : Except Raised Value :=
  let refused (symbol : String) : Except Raised Value := .error (.typeError
    ("bad operand type for unary " ++ symbol ++ ": '" ++ operand.typeName ++ "'"))
  match sign, flagClass? operand, operand.number? with
  | .complement, some (cls, isInteger), _ => match bitsFor? cls isInteger operand with
    | some bits =>
      cls.ofBits isInteger
        (if cls.showsData then -bits - 1 else Bits.common cls.mask (-bits - 1))
    | none => refused "~"
  | .minus, _, some (.int n) => .ok (.int (-n))
  | .plus, _, some (.int n) => .ok (.int n)
  | .complement, none, some (.int n) => .ok (.int (-n - 1))
  | .minus, _, some (.float x) => .ok (ofFloat (-(Float.ofBits x.bits)))
  | .plus, _, some (.float x) => .ok (.float x)
  | .minus, _, _ => refused "-"
  | .plus, _, _ => refused "+"
  | .complement, _, _ => refused "~"

/-! ## Items -/

def placeBound : Int := 2 ^ 63

def pick {α : Type} (items : List α) (index : Int) : Option α :=
  let place := if index < 0 then index + items.length else index
  if place < 0 then none else items[place.toNat]?

/-- A sequence that elements are picked from: its length, the element at a place of it, and the name
of its places in diagnostics. -/
structure Places where
  length : Nat
  at? : Nat → Option Value
  title : String
  refusal : String

def places? (value : Value) : Option Places :=
  let ofList (items : List Value) (kind : String) : Places :=
    ⟨items.length, fun place => items[place]?, kind ++ " index",
      kind ++ " indices must be integers or slices, not "⟩
  let bytes (data : List UInt8) : List Value := data.map fun byte => .int byte.toNat
  match value.asData with
  | .collection .list items => some (ofList items "list")
  | .collection .tuple items => some (ofList items "tuple")
  | .position x y => some (ofList [x, y] "tuple")
  | .bytes true data => some (ofList (bytes data) "bytearray")
  | .bytes false data => some { ofList (bytes data) "byte" with title := "index" }
  | .text s => some ⟨s.length, fun place => s.toList[place]?.map fun c =>
      .text (String.singleton c), "string index", "string indices must be integers, not "⟩
  | .range start stop step => some ⟨rangeLength start stop step,
      fun place => some (.int (rangeAt start step place)), "range object index",
      "range indices must be integers or slices, not "⟩
  | _ => none

def Places.element (places : Places) (index : Int) (isRange : Bool) : Except Raised Value :=
  let beyond : Except Raised Value :=
    .error ⟨"IndexError", places.title ++ " out of range"⟩
  let place := if index < 0 then index + places.length else index
  if !isRange && (index < -placeBound || placeBound ≤ index) then
    .error ⟨"IndexError", "cannot fit 'int' into an index-sized integer"⟩
  else if place < 0 || (places.length : Int) ≤ place then beyond
  else match places.at? place.toNat with
    | some value => .ok value
    | none => beyond

def item (value key : Value) : Except Raised Value :=
  match value.asData, value.places? with
  | .mapping _ entries, _ => do
    let key ← key.asKey
    match entries.find? fun entry => entry.1.same key with
    | some entry => .ok entry.2
    | none => do .error ⟨"KeyError", ← key.display⟩
  | data, some places => match key.number? with
    | some (.int index) => places.element index (data matches .range ..)
    | _ =>
      let found := if data matches .text _ then "'" ++ key.typeName ++ "'" else key.typeName
      .error (.typeError (places.refusal ++ found))
  | _, none =>
    .error (.typeError ("'" ++ value.typeName ++ "' object is not subscriptable"))

end EnumTables.Value
