/-!
Decimal numerals of whole numbers, and reading them back.
-/

namespace EnumTables.Decimal

def digitChar (digit : Nat) : Char :=
  Char.ofNat (48 + digit % 10)

def natDigits (n : Nat) : List Char :=
  if n < 10 then [digitChar n] else natDigits (n / 10) ++ [digitChar n]
termination_by n

def intDigits (n : Int) : List Char :=
  if n < 0 then '-' :: natDigits n.natAbs else natDigits n.natAbs

def numeral (n : Int) : String :=
  String.ofList (intDigits n)

def digitCount (n : Nat) : Nat :=
  (natDigits n).length

/-- The most digits that an integer can have to be converted to or from a numeral. -/
def digitLimit : Nat := 4300

def digitValue? (c : Char) : Option Nat :=
  if '0' ≤ c ∧ c ≤ '9' then some (c.toNat - 48) else none

def readDigits? (digits : List Char) : Option Nat :=
  if digits.isEmpty then none
  else digits.foldlM (fun value c => (digitValue? c).map (10 * value + ·)) 0

theorem natDigits_ne_nil (n : Nat) : natDigits n ≠ [] := by
  unfold natDigits
  split <;> simp

end EnumTables.Decimal
