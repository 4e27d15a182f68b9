/-!
Binary floating-point numbers of 64 bits as words. A word is read by its fields into a sign, a
whole significand and a power of two, so that every later computation is exact.
-/

-- powers are those of the core library, whatever other instances are in scope
attribute [instance (high), default_instance (high + 1)] instPowNat

namespace EnumTables.Decimal

/-- A floating-point number, given by its word. Two zeros and all NaN words stay distinct. -/
structure Binary64 where
  bits : UInt64
  deriving DecidableEq, Repr

namespace Binary64

/-- What a word stands for; a finite number is `± significand * 2 ^ exponent`. -/
inductive Meaning where
  | nan
  | infinity (negative : Bool)
  | finite (negative : Bool) (significand : Nat) (exponent : Int)
  deriving DecidableEq, Repr

def fractionField (x : Binary64) : Nat :=
  x.bits.toNat % 2 ^ 52

def exponentField (x : Binary64) : Nat :=
  x.bits.toNat / 2 ^ 52 % 2 ^ 11

def isNegative (x : Binary64) : Bool :=
  2 ^ 63 ≤ x.bits.toNat

def meaning (x : Binary64) : Meaning :=
  if x.exponentField = 2047 then
    if x.fractionField = 0 then .infinity x.isNegative else .nan
  else if x.exponentField = 0 then
    .finite x.isNegative x.fractionField (-1074)
  else
    .finite x.isNegative (2 ^ 52 + x.fractionField) ((x.exponentField : Int) - 1075)

def ofFields (negative : Bool) (exponentField fractionField : Nat) : Binary64 :=
  ⟨UInt64.ofNat ((if negative then 2 ^ 63 else 0) + exponentField * 2 ^ 52 + fractionField)⟩

inductive Conversion where
  | exact (x : Binary64)
  | inexact
  | overflow
  deriving DecidableEq, Repr

/-- The least magnitude that rounds to infinity: half a unit above the largest finite number. -/
def overflowBound : Nat := 2 ^ 1024 - 2 ^ 970

/-- Conversion of an integer. A magnitude of at most 53 binary digits is exact; a longer one is
exact iff the digits beyond the first 53 are zero. -/
def ofInt (n : Int) : Conversion :=
  let magnitude := n.natAbs
  let negative := decide (n < 0)
  if magnitude = 0 then .exact ⟨0⟩
  else if overflowBound ≤ magnitude then .overflow
  else
    let power := magnitude.log2
    if power ≤ 52 then
      .exact (ofFields negative (power + 1023) (magnitude * 2 ^ (52 - power) - 2 ^ 52))
    else
      let unit := 2 ^ (power - 52)
      if magnitude % unit = 0 then
        .exact (ofFields negative (power + 1023) (magnitude / unit - 2 ^ 52))
      else .inexact

def equalsInt (x : Binary64) (n : Int) : Bool :=
  match x.meaning with
  | .finite negative significand exponent =>
    let signed : Int := if negative then -significand else significand
    if 0 ≤ exponent then signed * 2 ^ exponent.toNat == n
    else signed == n * 2 ^ (-exponent).toNat
  | _ => false

/-- Numeric equality: no NaN equals anything and the two zeros are equal. -/
def same (x y : Binary64) : Bool :=
  match x.meaning, y.meaning with
  | .nan, _ | _, .nan => false
  | .finite _ 0 _, .finite _ 0 _ => true
  | _, _ => x.bits == y.bits

def truncate? (x : Binary64) : Option Int :=
  match x.meaning with
  | .finite negative significand exponent =>
    let magnitude : Nat :=
      if 0 ≤ exponent then significand * 2 ^ exponent.toNat else significand / 2 ^ (-exponent).toNat
    some (if negative then -magnitude else magnitude)
  | _ => none

end Binary64

end EnumTables.Decimal
