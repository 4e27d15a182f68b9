import EnumTables.Decimal.Binary64
import EnumTables.Decimal.Numeral
import EnumTables.Proofs.Text.Marks

/-!
# Numerals read back

A numeral consists of digits behind an optional sign, as few as the number needs (`digitCount_le`),
and reading its digits gives the number back (`readNumeral?_intDigits`). Two integers never share a
numeral (`numeral_injective`).
-/

namespace EnumTables.Decimal

theorem toNat_digitChar (digit : Nat) : (digitChar digit).toNat = 48 + digit % 10 := by
  have small : digit % 10 < 10 := Nat.mod_lt _ (by norm_num)
  have valid : (48 + digit % 10).isValidChar := Or.inl (by omega)
  exact Text.toNat_ofNat valid

theorem digitValue?_digitChar (digit : Nat) :
    digitValue? (digitChar digit) = some (digit % 10) := by
  have small : digit % 10 < 10 := Nat.mod_lt _ (by norm_num)
  have code := toNat_digitChar digit
  have range : '0' ≤ digitChar digit ∧ digitChar digit ≤ '9' := by
    simp only [Char.le_def, UInt32.le_iff_toNat_le]
    change 48 ≤ (digitChar digit).toNat ∧ (digitChar digit).toNat ≤ 57
    omega
  simp [digitValue?, range, code]

theorem natDigits_of_lt {n : Nat} (h : n < 10) : natDigits n = [digitChar n] := by
  rw [natDigits, if_pos h]

theorem natDigits_of_le {n : Nat} (h : 10 ≤ n) :
    natDigits n = natDigits (n / 10) ++ [digitChar n] := by
  rw [natDigits, if_neg (by omega)]

theorem exists_digit_of_mem_natDigits {n : Nat} {c : Char} (h : c ∈ natDigits n) :
    ∃ digit, c = digitChar digit := by
  induction n using Nat.strongRecOn with
  | ind n ih =>
    rcases Nat.lt_or_ge n 10 with small | large
    · rw [natDigits_of_lt small, List.mem_singleton] at h
      exact ⟨n, h⟩
    · rw [natDigits_of_le large, List.mem_append, List.mem_singleton] at h
      rcases h with front | last
      · exact ih (n / 10) (by omega) front
      · exact ⟨n, last⟩

theorem digitCount_pos (n : Nat) : 0 < digitCount n :=
  List.length_pos_iff.mpr (natDigits_ne_nil n)

theorem lt_pow_digitCount (n : Nat) : n < 10 ^ digitCount n := by
  induction n using Nat.strongRecOn with
  | ind n ih =>
    unfold digitCount at ih ⊢
    rcases Nat.lt_or_ge n 10 with small | large
    · rw [natDigits_of_lt small]
      exact small
    · have front := ih (n / 10) (by omega)
      rw [natDigits_of_le large, List.length_append, List.length_singleton, Nat.pow_succ]
      omega

theorem pow_digitCount_le {n : Nat} (positive : 0 < n) : 10 ^ (digitCount n - 1) ≤ n := by
  induction n using Nat.strongRecOn with
  | ind n ih =>
    unfold digitCount at ih ⊢
    rcases Nat.lt_or_ge n 10 with small | large
    · rw [natDigits_of_lt small]
      exact positive
    · have front := ih (n / 10) (by omega) (by omega)
      have digits := List.length_pos_iff.mpr (natDigits_ne_nil (n / 10))
      obtain ⟨more, length⟩ := Nat.exists_eq_add_one_of_ne_zero digits.ne'
      rw [length, Nat.add_sub_cancel] at front
      rw [natDigits_of_le large, List.length_append, List.length_singleton, Nat.add_sub_cancel,
        length, Nat.pow_succ]
      omega

theorem digitCount_zero : digitCount 0 = 1 := by
  rw [digitCount, natDigits_of_lt (by decide)]
  rfl

theorem digitCount_le {n count : Nat} (some_ : 0 < count) (h : n < 10 ^ count) :
    digitCount n ≤ count := by
  rcases Nat.eq_zero_or_pos n with rfl | positive
  · have zero := digitCount_zero
    omega
  · have power := (pow_digitCount_le positive).trans_lt h
    have less := (Nat.pow_lt_pow_iff_right (show 1 < 10 by decide)).mp power
    omega

theorem digits_foldlM (n : Nat) :
    (natDigits n).foldlM (fun value c => (digitValue? c).map (10 * value + ·)) 0 = some n := by
  induction n using Nat.strongRecOn with
  | ind n ih =>
    rcases Nat.lt_or_ge n 10 with small | large
    · simp [natDigits_of_lt small, digitValue?_digitChar, Nat.mod_eq_of_lt small]
    · rw [natDigits_of_le large, List.foldlM_append, ih (n / 10) (by omega)]
      simp [digitValue?_digitChar, Nat.div_add_mod]

theorem readDigits?_natDigits (n : Nat) : readDigits? (natDigits n) = some n := by
  simp [readDigits?, natDigits_ne_nil, digits_foldlM]

theorem minus_notMem_natDigits (n : Nat) : '-' ∉ natDigits n := by
  intro h
  obtain ⟨digit, equal⟩ := exists_digit_of_mem_natDigits h
  have code := congrArg Char.toNat equal
  rw [toNat_digitChar] at code
  change 45 = _ at code
  omega

theorem numeral_ne_empty (n : Int) : numeral n ≠ "" := by
  unfold numeral intDigits
  split <;> simp [natDigits_ne_nil]

def readNumeral? : List Char → Option Int
  | '-' :: digits => (readDigits? digits).map fun (n : Nat) => -(n : Int)
  | digits => (readDigits? digits).map Int.ofNat

theorem readNumeral?_intDigits (n : Int) : readNumeral? (intDigits n) = some n := by
  unfold intDigits
  split
  · next negative =>
    have signed : -(n.natAbs : Int) = n := by omega
    rw [readNumeral?, readDigits?_natDigits, Option.map_some, signed]
  · next nonnegative =>
    have magnitude : Int.ofNat n.natAbs = n := by
      rw [Int.ofNat_eq_natCast]
      omega
    have unsigned : ∀ rest, natDigits n.natAbs ≠ '-' :: rest := fun rest h =>
      minus_notMem_natDigits n.natAbs (h ▸ List.mem_cons_self)
    rw [readNumeral?.eq_2 _ unsigned, readDigits?_natDigits, Option.map_some, magnitude]

theorem numeral_injective : Function.Injective numeral := by
  intro m n same
  have read := readNumeral?_intDigits m
  rw [String.ofList_injective same, readNumeral?_intDigits] at read
  exact (Option.some.inj read).symm

end EnumTables.Decimal
