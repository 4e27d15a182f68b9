import EnumTables.Decimal.Binary64
import EnumTables.Decimal.Shortest

/-!
The written form of a floating-point number: where the point stands, when an exponent is written,
and which words stand for the numbers that have no digits.
-/

namespace EnumTables.Decimal

structure Layout where
  /-- Least decimal exponent written without an exponent part. -/
  positionalFrom : Int
  /-- Decimal exponents from here on are written with an exponent part. -/
  positionalBelow : Int
  /-- Least number of digits of an exponent part. -/
  exponentWidth : Nat
  nan : String
  infinity : String
  negativeInfinity : String
  deriving DecidableEq, Repr

namespace Layout

/-- Point and digits without an exponent part; a whole number keeps one zero after its point. -/
def positional (digits : List Char) (exponent : Int) : List Char :=
  if 0 ≤ exponent then digits ++ List.replicate exponent.toNat '0' ++ ['.', '0']
  else
    let after := (-exponent).toNat
    if after < digits.length then
      digits.take (digits.length - after) ++ '.' :: digits.drop (digits.length - after)
    else '0' :: '.' :: List.replicate (after - digits.length) '0' ++ digits

def scientific (width : Nat) (digits : List Char) (exponent : Int) : List Char :=
  let mantissa := match digits with
    | first :: second :: rest => first :: '.' :: second :: rest
    | short => short
  let sign := if exponent < 0 then '-' else '+'
  let power := natDigits exponent.natAbs
  mantissa ++ 'e' :: sign :: List.replicate (width - power.length) '0' ++ power

def unsigned (layout : Layout) (decimal : Scaled) : List Char :=
  let digits := natDigits decimal.digits
  let power := decimal.exponent + digits.length - 1
  if layout.positionalFrom ≤ power ∧ power < layout.positionalBelow then
    positional digits decimal.exponent
  else scientific layout.exponentWidth digits power

def write (layout : Layout) (x : Binary64) : String :=
  match x.meaning with
  | .nan => layout.nan
  | .infinity false => layout.infinity
  | .infinity true => layout.negativeInfinity
  | .finite negative significand exponent =>
    String.ofList
      ((if negative then ['-'] else []) ++ layout.unsigned (shortest significand exponent))

end Layout

end EnumTables.Decimal
