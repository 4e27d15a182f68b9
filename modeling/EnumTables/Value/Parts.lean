import EnumTables.Value.Bits

/-!
The parts of a value: what iteration over it gives, and its two components if it is a pair. Sets of
bits are iterated bit by bit, which can fail.
-/

namespace EnumTables.Value

/-! ## Ranges -/

def rangeLength (start stop step : Int) : Nat :=
  if 0 < step then ((stop - start + step - 1) / step).toNat
  else if step < 0 then ((start - stop - step - 1) / (-step)).toNat
  else 0

def rangeAt (start step : Int) (place : Nat) : Int :=
  start + (place : Int) * step

def rangeItems (start stop step : Int) : List Int :=
  (List.range (rangeLength start stop step)).map (rangeAt start step)

/-! ## Parts -/

def asBits? : Value → Option Int
  | .bool b => some (if b then 1 else 0)
  | value => value.asInteger?

/-- The elements that iteration over a value gives, entries of a mapping as pairs. Text and
immutable bytes count as single things. -/
def elements? : Value → Option (Except Raised (List Value))
  | .bytes true data => some (.ok (data.map fun byte => .int byte.toNat))
  | .collection _ items => some (.ok items)
  | .mapping _ entries => some (.ok (entries.map entry))
  | .range start stop step => some (.ok ((rangeItems start stop step).map .int))
  | .position x y => some (.ok [x, y])
  | .member cls name held data looks =>
    if cls.isFlag then match held.asBits? with
      | some bits => some (cls.iterate data.asInteger?.isSome (.member cls name held data looks) bits)
      | none => some (.error (.typeError
          ("unsupported operand type(s) for &: '" ++ held.typeName ++ "' and 'int'")))
    else elements? data
  | .object traits items => if traits.isIterable then some (.ok items) else none
  | _ => none

def components? : Value → Option (Value × Value)
  | .collection .list [first, second] => some (first, second)
  | .collection .tuple [first, second] => some (first, second)
  | .position x y => some (x, y)
  | .member _ _ _ data _ => components? data
  | _ => none

def isTruthy : Value → Bool
  | .null => false
  | .bool b => b
  | .int n => n != 0
  | .float x => !(x.same ⟨0⟩)
  | .text s => !s.isEmpty
  | .bytes _ data => !data.isEmpty
  | .collection (.stream _) _ => true
  | .collection _ items => !items.isEmpty
  | .mapping _ entries => !entries.isEmpty
  | .range start stop step => rangeLength start stop step != 0
  | .member cls _ held data _ => match cls.isFlag, data with
    | true, _ => isTruthy held
    | false, .null => true
    | false, data => isTruthy data
  | _ => true

end Value

end EnumTables
