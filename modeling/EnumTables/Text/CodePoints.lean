/-!
Sets of code points written as runs. Tables of character properties are lists of runs; a run with
stride two covers the alternating capital and small letters of many scripts.
-/

namespace EnumTables.Text

structure Run where
  first : Nat
  last : Nat
  stride : Nat
  deriving DecidableEq, Repr

namespace Run

def contains (run : Run) (code : Nat) : Bool :=
  run.first ≤ code && code ≤ run.last && (code - run.first) % run.stride == 0

end Run

abbrev CodePoints := List Run

namespace CodePoints

def contains (points : CodePoints) (code : Nat) : Bool :=
  points.any (·.contains code)

end CodePoints

structure Shift extends Run where
  distance : Int
  deriving DecidableEq, Repr

abbrev Shifts := List Shift

namespace Shifts

def find? (shifts : Shifts) (code : Nat) : Option Nat :=
  (List.find? (fun shift => shift.toRun.contains code) shifts).map fun shift =>
    ((code : Int) + shift.distance).toNat

end Shifts

end EnumTables.Text
