import EnumTables.Decimal.Numeral
import EnumTables.Value

/-!
Numerals as the runtime makes them: integers with more digits than it converts have none.
-/

namespace EnumTables.Spoken

open Decimal

def tooLong : Raised :=
  .valueError ("Exceeds the limit (4300 digits) for integer string conversion; " ++
    "use sys.set_int_max_str_digits() to increase the limit")

def ofInteger (n : Int) : Spoken :=
  if digitLimit < digitCount n.natAbs then .error tooLong else .ok (numeral n)

theorem ofInteger_of_le {n : Int} (short : digitCount n.natAbs ≤ digitLimit) :
    ofInteger n = .ok (numeral n) := by
  rw [ofInteger, if_neg (Nat.not_lt.mpr short)]

theorem eq_numeral_of_ofInteger {n : Int} {text : String} (h : ofInteger n = .ok text) :
    text = numeral n := by
  unfold ofInteger at h
  split at h
  · cases h
  · exact (Except.ok.inj h).symm

end EnumTables.Spoken
