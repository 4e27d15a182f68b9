import EnumTables.Proofs.Decimal.Rounding

/-!
# Integers as binary numbers

A finite word stands for an integer iff the integer has at most 53 binary digits before its zeros
and is less than two to the 1024 (`isExact_iff`). Conversion gives the word with that value for such
an integer, and keeps apart the others by whether they reach the bound of overflow
(`converts_ofInt`).
-/

namespace EnumTables.Decimal.Binary64

def IsExact (n : Int) : Prop :=
  n = 0 ∨ ∃ m e : Nat, m < 2 ^ 53 ∧ n.natAbs = m * 2 ^ e ∧ n.natAbs < 2 ^ 1024

/-! ## Words for integers -/

theorem ofFields_eq (negative : Bool) (exponentField fractionField : Nat) :
    ofFields negative exponentField fractionField =
      ofKey negative (exponentField * 2 ^ 52 + fractionField) := by
  rw [ofFields, ofKey, Nat.add_assoc]

theorem steps_ofFields (negative : Bool) {power significand : Nat} (small : power ≤ 1023)
    (least : 2 ^ 52 ≤ significand) (most : significand < 2 ^ 53) :
    let x := ofFields negative (power + 1023) (significand - 2 ^ 52)
    x.IsFinite ∧ x.isNegative = negative ∧ steps x.key = significand * 2 ^ (power + 1022) := by
  intro x
  have word : x = ofKey negative ((power + 1023) * 2 ^ 52 + (significand - 2 ^ 52)) :=
    ofFields_eq _ _ _
  have bound : (power + 1023) * 2 ^ 52 + (significand - 2 ^ 52) < endKey := by
    unfold endKey
    omega
  have short := bound.trans (show endKey < 2 ^ 63 by decide)
  have exponent : ((power + 1023) * 2 ^ 52 + (significand - 2 ^ 52)) / 2 ^ 52 = power + 1023 := by
    omega
  have fraction : ((power + 1023) * 2 ^ 52 + (significand - 2 ^ 52)) % 2 ^ 52 =
      significand - 2 ^ 52 := by omega
  rw [word]
  refine ⟨ofKey_isFinite negative bound, isNegative_ofKey short, ?_⟩
  have whole : 2 ^ 52 + (significand - 2 ^ 52) = significand := Nat.add_sub_cancel' least
  have field : power + 1023 - 1 = power + 1022 := rfl
  rw [key_ofKey short, steps, exponent, fraction, if_neg (by omega), whole, field]

theorem cast_steps (n : Nat) : ((n * 2 ^ 1074 : Nat) : ℚ) = n * scale := by
  simp only [Nat.cast_mul, Nat.cast_pow, Nat.cast_ofNat, scale]

theorem value_of_steps {x : Binary64} {n : Int} (finite : x.IsFinite)
    (sign : x.isNegative = decide (n < 0)) (magnitude : steps x.key = n.natAbs * 2 ^ 1074) :
    x.value = n := by
  have scaled : x.magnitude = n.natAbs := by
    rw [magnitude_eq finite, magnitude, cast_steps]
    exact mul_div_cancel_right₀ _ scale_pos.ne'
  rw [value, scaled, sign]
  by_cases negative : n < 0
  · rw [if_pos (decide_eq_true negative), Nat.cast_natAbs, abs_of_neg negative]
    push_cast
    ring
  · rw [if_neg (by simpa using negative), Nat.cast_natAbs, abs_of_nonneg (not_lt.mp negative)]

theorem steps_of_value {x : Binary64} {n : Int} (finite : x.IsFinite) (h : x.value = n) :
    steps x.key = n.natAbs * 2 ^ 1074 := by
  have size : x.magnitude = n.natAbs := by
    have nonnegative : 0 ≤ x.magnitude := by
      rw [magnitude_eq finite]
      exact div_nonneg (Nat.cast_nonneg _) scale_pos.le
    rw [Nat.cast_natAbs, Int.cast_abs, ← h, value]
    split
    · rw [abs_neg, abs_of_nonneg nonnegative]
    · rw [abs_of_nonneg nonnegative]
  rw [magnitude_eq finite, div_eq_iff scale_pos.ne', ← cast_steps] at size
  exact Nat.cast_injective size

/-! ## Exact integers -/

theorem exists_pow_of_mul_pow {significand magnitude : Nat} {a b : Nat}
    (h : significand * 2 ^ a = magnitude * 2 ^ b) (short : significand < 2 ^ 53) :
    ∃ m e : Nat, m < 2 ^ 53 ∧ magnitude = m * 2 ^ e ∧ (e = 0 ∨ e + b = a) := by
  rcases Nat.le_total b a with larger | smaller
  · obtain ⟨e, rfl⟩ := Nat.exists_eq_add_of_le larger
    refine ⟨significand, e, short, ?_, Or.inr (Nat.add_comm _ _)⟩
    rw [Nat.add_comm, Nat.pow_add, ← Nat.mul_assoc] at h
    exact (Nat.mul_right_cancel (Nat.two_pow_pos b) h).symm
  · obtain ⟨more, rfl⟩ := Nat.exists_eq_add_of_le smaller
    refine ⟨magnitude, 0, ?_, (Nat.mul_one _).symm, Or.inl rfl⟩
    rw [Nat.add_comm, Nat.pow_add, ← Nat.mul_assoc] at h
    have equal := Nat.mul_right_cancel (Nat.two_pow_pos a) h
    exact (Nat.le_mul_of_pos_right _ (Nat.two_pow_pos more)).trans_lt (equal ▸ short)

theorem mul_pow_lt {m e : Nat} (top : Nat) (short : m < 2 ^ 53) (room : 53 + e ≤ top) :
    m * 2 ^ e < 2 ^ top := by
  calc m * 2 ^ e < 2 ^ 53 * 2 ^ e := Nat.mul_lt_mul_of_pos_right short (Nat.two_pow_pos e)
    _ = 2 ^ (53 + e) := (Nat.pow_add 2 53 e).symm
    _ ≤ 2 ^ top := Nat.pow_le_pow_right (by decide) room

theorem isExact_of_value {x : Binary64} {n : Int} (finite : x.IsFinite) (h : x.value = n) :
    IsExact n := by
  have counted := steps_of_value finite h
  have bound := isFinite_iff.mp finite
  unfold endKey at bound
  obtain ⟨significand, power, short, small, equal⟩ : ∃ significand power, significand < 2 ^ 53 ∧
      power ≤ 2045 ∧ steps x.key = significand * 2 ^ power := by
    unfold steps
    split
    · exact ⟨x.key, 0, by omega, by omega, (Nat.mul_one _).symm⟩
    · exact ⟨_, _, by omega, by omega, rfl⟩
  obtain ⟨m, e, fits, magnitude, limit⟩ := exists_pow_of_mul_pow (equal.symm.trans counted) short
  refine Or.inr ⟨m, e, fits, magnitude, ?_⟩
  rw [magnitude]
  exact mul_pow_lt 1024 fits (by omega)

theorem pow_dvd_of_exact {magnitude m e power : Nat} (short : m < 2 ^ 53)
    (equal : magnitude = m * 2 ^ e) (least : 2 ^ power ≤ magnitude) :
    2 ^ (power - 52) ∣ magnitude := by
  have order : power < 53 + e := by
    refine (Nat.pow_lt_pow_iff_right (show 1 < 2 by decide)).mp ?_
    rw [equal] at least
    exact least.trans_lt (mul_pow_lt (53 + e) short le_rfl)
  rw [equal]
  exact (pow_dvd_pow 2 (by omega)).trans (dvd_mul_left _ _)

theorem not_between_of_dvd {magnitude unit : Nat} (whole : 2 * unit ∣ magnitude)
    (less : magnitude < 2 ^ 54 * unit) : ¬2 ^ 54 * unit - unit ≤ magnitude := by
  intro least
  obtain ⟨count, rfl⟩ := whole
  have positive : 0 < unit := by
    by_contra none_
    omega
  have bound : count < 2 ^ 53 := by
    by_contra more
    have := Nat.mul_le_mul_left (2 * unit) (not_lt.mp more)
    omega
  have most := Nat.mul_le_mul_left (2 * unit) (Nat.le_sub_one_of_lt bound)
  omega

theorem overflowBound_eq_mul : overflowBound = 2 ^ 54 * 2 ^ 970 - 2 ^ 970 := by
  have top := Nat.pow_add 2 54 970
  have exponent : 54 + 970 = 1024 := rfl
  rw [exponent] at top
  rw [overflowBound, top]

theorem IsExact.lt_overflowBound {n : Int} (h : IsExact n) : n.natAbs < overflowBound := by
  have positive := Nat.two_pow_pos 970
  have top := Nat.pow_add 2 54 970
  have half := Nat.pow_add 2 53 970
  have double := Nat.pow_succ' (m := 2) (n := 970)
  have exponent : 54 + 970 = 1024 := rfl
  have exponent' : 53 + 970 = 1023 := rfl
  have exponent'' : Nat.succ 970 = 1023 - 52 := rfl
  rw [exponent] at top
  rw [exponent'] at half
  rw [exponent''] at double
  rw [overflowBound_eq_mul]
  by_contra more
  rcases h with rfl | ⟨m, e, short, equal, less⟩
  · rw [Int.natAbs_zero] at more
    omega
  · rw [top] at less
    have least : 2 ^ 1023 ≤ n.natAbs := by
      rw [half]
      omega
    have whole := pow_dvd_of_exact short equal least
    rw [double] at whole
    exact not_between_of_dvd whole less (not_lt.mp more)

theorem pow_sub_pow_le (a b : Nat) : 2 ^ b - 2 ^ a ≤ 2 ^ b :=
  Nat.sub_le _ _

theorem overflowBound_le : overflowBound ≤ 2 ^ 1024 := by
  unfold overflowBound
  exact pow_sub_pow_le 970 1024

/-! ## Conversion -/

def Converts (n : Int) : Conversion → Prop
  | .exact x => x.IsFinite ∧ x.isNegative = decide (n < 0) ∧ x.value = n
  | .inexact => ¬IsExact n ∧ n.natAbs < overflowBound
  | .overflow => overflowBound ≤ n.natAbs

theorem converts_short {n : Int} (some_ : n.natAbs ≠ 0) (short : n.natAbs.log2 ≤ 52) :
    Converts n (.exact (ofFields (decide (n < 0)) (n.natAbs.log2 + 1023)
      (n.natAbs * 2 ^ (52 - n.natAbs.log2) - 2 ^ 52))) := by
  have least := Nat.log2_self_le some_
  have most := (Nat.log2_lt some_).mp (Nat.lt_succ_self n.natAbs.log2)
  generalize n.natAbs.log2 = power at *
  -- the integer is shifted up to a full significand
  have first : 2 ^ 52 ≤ n.natAbs * 2 ^ (52 - power) := by
    calc 2 ^ 52 = 2 ^ power * 2 ^ (52 - power) := by
          rw [← Nat.pow_add, Nat.add_sub_cancel' short]
      _ ≤ n.natAbs * 2 ^ (52 - power) := Nat.mul_le_mul_right _ least
  have last : n.natAbs * 2 ^ (52 - power) < 2 ^ 53 := by
    calc n.natAbs * 2 ^ (52 - power) < 2 ^ (power + 1) * 2 ^ (52 - power) :=
          Nat.mul_lt_mul_of_pos_right most (Nat.two_pow_pos _)
      _ = 2 ^ 53 := by
          rw [← Nat.pow_add]
          congr 1
          omega
  obtain ⟨finite, sign, steps⟩ :=
    steps_ofFields (decide (n < 0)) (by omega : power ≤ 1023) first last
  have exponent : 52 - power + (power + 1022) = 1074 := by omega
  rw [Nat.mul_assoc, ← Nat.pow_add, exponent] at steps
  exact ⟨finite, sign, value_of_steps finite sign steps⟩

theorem converts_long {n : Int} (some_ : n.natAbs ≠ 0) (bound : n.natAbs < overflowBound)
    (long : 52 < n.natAbs.log2) (whole : 2 ^ (n.natAbs.log2 - 52) ∣ n.natAbs) :
    Converts n (.exact (ofFields (decide (n < 0)) (n.natAbs.log2 + 1023)
      (n.natAbs / 2 ^ (n.natAbs.log2 - 52) - 2 ^ 52))) := by
  have least := Nat.log2_self_le some_
  have most := (Nat.log2_lt some_).mp (Nat.lt_succ_self n.natAbs.log2)
  have top := (Nat.log2_lt some_).mpr (bound.trans_le overflowBound_le)
  generalize n.natAbs.log2 = power at *
  have unit := Nat.two_pow_pos (power - 52)
  -- nothing but zeros is cut off behind a full significand
  have first : 2 ^ 52 ≤ n.natAbs / 2 ^ (power - 52) := by
    rwa [Nat.le_div_iff_mul_le unit, ← Nat.pow_add, Nat.add_sub_cancel' long.le]
  have last : n.natAbs / 2 ^ (power - 52) < 2 ^ 53 := by
    have exponent : 53 + (power - 52) = power + 1 := by omega
    rwa [Nat.div_lt_iff_lt_mul unit, ← Nat.pow_add, exponent]
  obtain ⟨finite, sign, steps⟩ :=
    steps_ofFields (decide (n < 0)) (by omega : power ≤ 1023) first last
  have exponent : power + 1022 = power - 52 + 1074 := by omega
  rw [exponent, Nat.pow_add, ← Nat.mul_assoc, Nat.div_mul_cancel whole] at steps
  exact ⟨finite, sign, value_of_steps finite sign steps⟩

theorem converts_zero : Converts 0 (.exact ⟨0⟩) := by
  have finite : IsFinite ⟨0⟩ := by
    rw [isFinite_iff]
    decide
  have none_ (unit : Nat) : steps (key ⟨0⟩) = (0 : Int).natAbs * unit := (Nat.zero_mul unit).symm
  exact ⟨finite, rfl, value_of_steps finite rfl (none_ _)⟩

theorem converts_bounded {n : Int} (some_ : n.natAbs ≠ 0) (bound : n.natAbs < overflowBound) :
    Converts n (ofInt n) := by
  unfold ofInt
  simp only
  rw [if_neg some_, if_neg (not_le.mpr bound)]
  by_cases short : n.natAbs.log2 ≤ 52
  · rw [if_pos short]
    exact converts_short some_ short
  rw [if_neg short]
  by_cases whole : n.natAbs % 2 ^ (n.natAbs.log2 - 52) = 0
  · rw [if_pos whole]
    exact converts_long some_ bound (not_le.mp short) (Nat.dvd_of_mod_eq_zero whole)
  rw [if_neg whole]
  refine ⟨?_, bound⟩
  intro exact_
  apply whole
  obtain rfl | ⟨m, e, few, equal, -⟩ := exact_
  · exact absurd rfl some_
  · exact Nat.mod_eq_zero_of_dvd (pow_dvd_of_exact few equal (Nat.log2_self_le some_))

theorem ofInt_of_le {n : Int} (some_ : n.natAbs ≠ 0) (beyond : overflowBound ≤ n.natAbs) :
    ofInt n = .overflow := by
  unfold ofInt
  simp only
  rw [if_neg some_, if_pos beyond]

theorem converts_ofInt (n : Int) : Converts n (ofInt n) := by
  by_cases zero : n.natAbs = 0
  · obtain rfl := Int.natAbs_eq_zero.mp zero
    exact converts_zero
  · rcases lt_or_ge n.natAbs overflowBound with bound | beyond
    · exact converts_bounded zero bound
    · rw [ofInt_of_le zero beyond]
      exact beyond

theorem isExact_iff {n : Int} : IsExact n ↔ ∃ x : Binary64, x.IsFinite ∧ x.value = n := by
  constructor
  · intro exact_
    have converts := converts_ofInt n
    cases converted : ofInt n with
    | exact x =>
      rw [converted] at converts
      exact ⟨x, converts.1, converts.2.2⟩
    | inexact =>
      rw [converted] at converts
      exact absurd exact_ converts.1
    | overflow =>
      rw [converted] at converts
      exact absurd exact_.lt_overflowBound (not_lt.mpr converts)
  · rintro ⟨x, finite, value⟩
    exact isExact_of_value finite value

end EnumTables.Decimal.Binary64
