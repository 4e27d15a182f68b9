import EnumTables.Decimal.Numeral

/-!
The shortest decimal that reads back as a given binary number. A binary number is the centre of an
interval of reals that round to it; on each decimal grid, from coarse to fine, the two neighbours
of the number are tested, and the first grid with a neighbour inside the interval wins. Everything
is exact arithmetic on naturals over one common denominator.
-/

namespace EnumTables.Decimal

structure Scaled where
  digits : Nat
  exponent : Int
  deriving DecidableEq, Repr

/-- A positive number with the interval of reals that round to it, over a common denominator. The
ends belong to the interval iff it is closed. -/
structure Interval where
  value : Nat
  lower : Nat
  upper : Nat
  denominator : Nat
  closed : Bool
  deriving DecidableEq, Repr

namespace Interval

/-- The interval of `significand * 2 ^ exponent`. A power of two above the least exponent has a
closer neighbour below than above; ties go to even significands, which makes their interval
closed. -/
def ofBinary (significand : Nat) (exponent : Int) : Interval :=
  let quarter := exponent - 2
  let unit := 2 ^ quarter.toNat
  let closer := significand = 2 ^ 52 ∧ -1074 < exponent
  { value := 4 * significand * unit
    lower := (4 * significand - if closer then 1 else 2) * unit
    upper := (4 * significand + 2) * unit
    denominator := 2 ^ (-quarter).toNat
    closed := significand % 2 == 0 }

def magnitude (interval : Interval) : Int :=
  let whole := interval.value / interval.denominator
  if 0 < whole then digitCount whole
  else 1 - digitCount ((interval.denominator - 1) / interval.value)

def spacing (interval : Interval) (exponent : Int) : Nat :=
  10 ^ exponent.toNat * interval.denominator

def bound (numerator : Nat) (exponent : Int) : Nat :=
  numerator * 10 ^ (-exponent).toNat

def contains (interval : Interval) (exponent : Int) (digits : Nat) : Bool :=
  let point := digits * interval.spacing exponent
  let lower := bound interval.lower exponent
  let upper := bound interval.upper exponent
  decide (lower < point ∧ point < upper) || interval.closed && (point == lower || point == upper)

/-- The better of the value's two neighbours on a grid that reads back: the nearer one, and of two
equally near ones the even one. -/
def nearest? (interval : Interval) (exponent : Int) : Option Nat :=
  let spacing := interval.spacing exponent
  let value := bound interval.value exponent
  let below := value / spacing
  let above := below + 1
  match interval.contains exponent below, interval.contains exponent above with
  | false, false => none
  | true, false => some below
  | false, true => some above
  | true, true =>
    let toBelow := value - below * spacing
    let toAbove := above * spacing - value
    if toBelow < toAbove then some below
    else if toAbove < toBelow then some above
    else if below % 2 = 0 then some below else some above

/-- Tries grids of one more digit each; the last grid gives the neighbour below if none fits. -/
def search (interval : Interval) (magnitude : Int) : Nat → Nat → Scaled
  | 0, count =>
    let exponent := magnitude - count
    ⟨bound interval.value exponent / interval.spacing exponent, exponent⟩
  | more + 1, count =>
    let exponent := magnitude - count
    match interval.nearest? exponent with
    | some digits => ⟨digits, exponent⟩
    | none => search interval magnitude more (count + 1)

end Interval

namespace Scaled

def dropZeros (decimal : Scaled) : Nat → Scaled
  | 0 => decimal
  | fuel + 1 =>
    if decimal.digits % 10 = 0 then dropZeros ⟨decimal.digits / 10, decimal.exponent + 1⟩ fuel
    else decimal

end Scaled

/-- Seventeen digits tell any two binary numbers of 53 binary digits apart. -/
def maxDigits : Nat := 17

/-- The shortest decimal that reads back as `significand * 2 ^ exponent`, the nearest of those. -/
def shortest (significand : Nat) (exponent : Int) : Scaled :=
  if significand = 0 then ⟨0, 0⟩
  else
    let interval := Interval.ofBinary significand exponent
    (interval.search interval.magnitude maxDigits 1).dropZeros (maxDigits + 1)

end EnumTables.Decimal
