import EnumTables.Decimal.Shortest
import EnumTables.Proofs.Decimal.Numeral
import EnumTables.Proofs.Decimal.Rounding

/-!
# Shortest decimals

The search for a decimal never comes to its last resort: a grid of seventeen digits is finer than
the interval of a number (`exists_on_grid`), and a grid without a neighbour inside the interval has
no point there at all (`not_holds_of_nearest?`). The decimal it gives is in the interval
(`shortest_holds`), and no decimal with fewer digits is (`shortest_lt`).
-/

namespace EnumTables.Decimal

namespace Scaled

def value (decimal : Scaled) : ℚ :=
  decimal.digits * 10 ^ decimal.exponent

theorem value_dropZeros (decimal : Scaled) (fuel : Nat) :
    (decimal.dropZeros fuel).value = decimal.value := by
  induction fuel generalizing decimal with
  | zero => rfl
  | succ fuel ih =>
    unfold dropZeros
    split
    · next last =>
      have digits : (decimal.digits : ℚ) = (decimal.digits / 10 : Nat) * 10 := by
        exact_mod_cast (Nat.div_mul_cancel (Nat.dvd_of_mod_eq_zero last)).symm
      rw [ih, value, value, digits, zpow_add_one₀ (by norm_num)]
      ring
    · rfl

theorem dropZeros_le (decimal : Scaled) (fuel : Nat) :
    (decimal.dropZeros fuel).digits ≤ decimal.digits := by
  induction fuel generalizing decimal with
  | zero => exact le_rfl
  | succ fuel ih =>
    unfold dropZeros
    split
    · exact (ih _).trans (Nat.div_le_self _ _)
    · exact le_rfl

theorem dropZeros_pow {count fuel : Nat} (enough : count ≤ fuel) (exponent : Int) :
    (dropZeros ⟨10 ^ count, exponent⟩ fuel).digits = 1 := by
  induction fuel generalizing count exponent with
  | zero =>
    obtain rfl : count = 0 := by omega
    rfl
  | succ fuel ih =>
    cases count with
    | zero => rfl
    | succ count =>
      have last : 10 ^ (count + 1) % 10 = 0 := by
        rw [Nat.pow_succ]
        exact Nat.mul_mod_left _ _
      have front : 10 ^ (count + 1) / 10 = 10 ^ count := by
        rw [Nat.pow_succ]
        exact Nat.mul_div_cancel _ (by decide)
      rw [dropZeros, if_pos last, front]
      exact ih (by omega) _

theorem dropZeros_lt {decimal : Scaled} {count fuel : Nat} (some_ : 0 < count)
    (enough : count ≤ fuel) (h : decimal.digits ≤ 10 ^ count) :
    (decimal.dropZeros fuel).digits < 10 ^ count := by
  rcases Nat.lt_or_eq_of_le h with less | equal
  · exact (decimal.dropZeros_le fuel).trans_lt less
  · obtain ⟨digits, exponent⟩ := decimal
    obtain rfl : digits = 10 ^ count := equal
    rw [dropZeros_pow enough]
    exact Nat.one_lt_pow some_.ne' (by decide)

end Scaled

namespace Interval

/-! ## Points of a grid -/

structure Holds (interval : Interval) (q : ℚ) : Prop where
  lower : interval.lower < q * interval.denominator ∨
    interval.closed ∧ interval.lower = q * interval.denominator
  upper : q * interval.denominator < interval.upper ∨
    interval.closed ∧ q * interval.denominator = interval.upper

structure IsAround (interval : Interval) : Prop where
  denominator : 0 < interval.denominator
  positive : 0 < interval.lower
  lower : interval.lower < interval.value
  upper : interval.value < interval.upper

variable {interval : Interval}

theorem Holds.convex {p q r : ℚ} (first : interval.Holds p) (last : interval.Holds r) (hp : p ≤ q)
    (hr : q ≤ r) : interval.Holds q := by
  have nonnegative : (0 : ℚ) ≤ interval.denominator := Nat.cast_nonneg _
  have left := mul_le_mul_of_nonneg_right hp nonnegative
  have right := mul_le_mul_of_nonneg_right hr nonnegative
  constructor
  · rcases first.lower with inside | ⟨closed, end_⟩
    · exact Or.inl (inside.trans_le left)
    · rcases left.eq_or_lt with same | less
      · exact Or.inr ⟨closed, end_.trans same⟩
      · exact Or.inl (end_ ▸ less)
  · rcases last.upper with inside | ⟨closed, end_⟩
    · exact Or.inl (right.trans_lt inside)
    · rcases right.eq_or_lt with same | less
      · exact Or.inr ⟨closed, same.trans end_⟩
      · exact Or.inl (end_ ▸ less)

theorem Holds.pos (around : interval.IsAround) {q : ℚ} (h : interval.Holds q) : 0 < q := by
  have positive : (0 : ℚ) < interval.lower := by exact_mod_cast around.positive
  have nonnegative : (0 : ℚ) ≤ interval.denominator := Nat.cast_nonneg _
  refine pos_of_mul_pos_left ?_ nonnegative
  rcases h.lower with inside | ⟨-, end_⟩
  · exact positive.trans inside
  · exact positive.trans_eq end_

theorem pow_mul_zpow {count : Nat} {exponent sum : Int} (h : count + exponent = sum) :
    (10 : ℚ) ^ count * 10 ^ exponent = 10 ^ sum := by
  rw [← h, zpow_add₀ (by norm_num), zpow_natCast]

theorem pow_toNat (exponent : Int) :
    (10 : ℚ) ^ exponent.toNat = 10 ^ exponent * 10 ^ (-exponent).toNat := by
  rw [mul_comm, pow_mul_zpow (show ((-exponent).toNat + exponent : Int) = exponent.toNat by omega),
    zpow_natCast]

theorem cast_bound (numerator : Nat) (exponent : Int) :
    (bound numerator exponent : ℚ) = numerator * 10 ^ (-exponent).toNat := by
  rw [bound, Nat.cast_mul, Nat.cast_pow, Nat.cast_ofNat]

theorem cast_point (interval : Interval) (digits : Nat) (exponent : Int) :
    ((digits * interval.spacing exponent : Nat) : ℚ) =
      digits * 10 ^ exponent * interval.denominator * 10 ^ (-exponent).toNat := by
  rw [spacing, Nat.cast_mul, Nat.cast_mul, Nat.cast_pow, Nat.cast_ofNat, pow_toNat]
  ring

theorem point_lt_bound {digits numerator : Nat} {exponent : Int} :
    digits * interval.spacing exponent < bound numerator exponent ↔
      (digits * 10 ^ exponent * interval.denominator : ℚ) < numerator := by
  have unit : (0 : ℚ) < 10 ^ (-exponent).toNat := pow_pos (by norm_num) _
  rw [← mul_lt_mul_iff_of_pos_right unit, ← cast_point, ← cast_bound, Nat.cast_lt]

theorem bound_lt_point {digits numerator : Nat} {exponent : Int} :
    bound numerator exponent < digits * interval.spacing exponent ↔
      numerator < (digits * 10 ^ exponent * interval.denominator : ℚ) := by
  have unit : (0 : ℚ) < 10 ^ (-exponent).toNat := pow_pos (by norm_num) _
  rw [← mul_lt_mul_iff_of_pos_right unit, ← cast_point, ← cast_bound, Nat.cast_lt]

theorem point_eq_bound {digits numerator : Nat} {exponent : Int} :
    digits * interval.spacing exponent = bound numerator exponent ↔
      (digits * 10 ^ exponent * interval.denominator : ℚ) = numerator := by
  have unit : (0 : ℚ) < 10 ^ (-exponent).toNat := pow_pos (by norm_num) _
  rw [← mul_left_inj' unit.ne', ← cast_point, ← cast_bound, Nat.cast_inj]

theorem contains_iff (around : interval.IsAround) {exponent : Int} {digits : Nat} :
    interval.contains exponent digits ↔ interval.Holds (digits * 10 ^ exponent) := by
  have ends : (interval.lower : ℚ) < interval.upper := by
    exact_mod_cast around.lower.trans around.upper
  simp only [contains, Bool.or_eq_true, Bool.and_eq_true, decide_eq_true_eq, beq_iff_eq,
    point_lt_bound, bound_lt_point, point_eq_bound]
  constructor
  · rintro (⟨lower, upper⟩ | ⟨closed, end_ | end_⟩)
    · exact ⟨Or.inl lower, Or.inl upper⟩
    · exact ⟨Or.inr ⟨closed, end_.symm⟩, Or.inl (end_ ▸ ends)⟩
    · exact ⟨Or.inl (end_ ▸ ends), Or.inr ⟨closed, end_⟩⟩
  · rintro ⟨lower | ⟨closed, end_⟩, upper | ⟨closed', end'⟩⟩
    · exact Or.inl ⟨lower, upper⟩
    · exact Or.inr ⟨closed', Or.inr end'⟩
    · exact Or.inr ⟨closed, Or.inl end_.symm⟩
    · exact Or.inr ⟨closed, Or.inl end_.symm⟩

def before (interval : Interval) (exponent : Int) : Nat :=
  bound interval.value exponent / interval.spacing exponent

theorem before_le (interval : Interval) (exponent : Int) :
    (interval.before exponent * 10 ^ exponent * interval.denominator : ℚ) ≤ interval.value := by
  have point : interval.before exponent * interval.spacing exponent ≤
      bound interval.value exponent := Nat.div_mul_le_self _ _
  exact not_lt.mp fun more => absurd (bound_lt_point.mpr more) (not_lt.mpr point)

theorem lt_after (around : interval.IsAround) (exponent : Int) :
    interval.value <
      ((interval.before exponent + 1 : Nat) * 10 ^ exponent * interval.denominator : ℚ) := by
  have spacing : 0 < interval.spacing exponent :=
    Nat.mul_pos (Nat.pow_pos (by decide)) around.denominator
  rw [← bound_lt_point, mul_comm]
  exact Nat.lt_mul_div_succ _ spacing

theorem of_nearest? {exponent : Int} {digits : Nat}
    (h : interval.nearest? exponent = some digits) : interval.contains exponent digits ∧
      (digits = interval.before exponent ∨ digits = interval.before exponent + 1) := by
  unfold nearest? at h
  simp only at h
  rw [← before] at h
  split at h
  · simp at h
  · next inside _ =>
    obtain rfl := Option.some.inj h
    exact ⟨inside, Or.inl rfl⟩
  · next _ inside =>
    obtain rfl := Option.some.inj h
    exact ⟨inside, Or.inr rfl⟩
  · next inside inside' =>
    have choice : digits = interval.before exponent ∨ digits = interval.before exponent + 1 := by
      split at h
      · exact Or.inl (Option.some.inj h).symm
      · split at h
        · exact Or.inr (Option.some.inj h).symm
        · split at h
          · exact Or.inl (Option.some.inj h).symm
          · exact Or.inr (Option.some.inj h).symm
    refine ⟨?_, choice⟩
    rcases choice with rfl | rfl
    · exact inside
    · exact inside'

theorem not_contains_of_nearest? {exponent : Int} (h : interval.nearest? exponent = none) :
    ¬interval.contains exponent (interval.before exponent) ∧
      ¬interval.contains exponent (interval.before exponent + 1) := by
  unfold nearest? at h
  simp only at h
  rw [← before] at h
  split at h
  · next outside outside' => exact ⟨by simp [outside], by simp [outside']⟩
  · simp at h
  · simp at h
  · split at h
    · simp at h
    · split at h
      · simp at h
      · split at h <;> simp at h

theorem holds_value (around : interval.IsAround) :
    interval.Holds (interval.value / interval.denominator) := by
  have denominator : (interval.denominator : ℚ) ≠ 0 := by exact_mod_cast around.denominator.ne'
  constructor
  · left
    rw [div_mul_cancel₀ _ denominator]
    exact_mod_cast around.lower
  · left
    rw [div_mul_cancel₀ _ denominator]
    exact_mod_cast around.upper

/-- A grid whose two points around the value are outside the interval has none inside. -/
theorem not_holds_of_nearest? (around : interval.IsAround) {exponent : Int}
    (h : interval.nearest? exponent = none) (digits : Nat) :
    ¬interval.Holds (digits * 10 ^ exponent) := by
  intro inside
  have value := holds_value around
  have denominator : (0 : ℚ) < interval.denominator := by exact_mod_cast around.denominator
  have unit : (0 : ℚ) ≤ 10 ^ exponent := zpow_nonneg (by norm_num) _
  obtain ⟨outside, outside'⟩ := not_contains_of_nearest? h
  rw [contains_iff around] at outside outside'
  rcases Nat.lt_or_ge (interval.before exponent) digits with later | earlier
  · have order : ((interval.before exponent + 1 : Nat) : ℚ) ≤ digits := by exact_mod_cast later
    exact outside' (value.convex inside
      ((div_le_iff₀ denominator).mpr (lt_after around exponent).le)
      (mul_le_mul_of_nonneg_right order unit))
  · have order : (digits : ℚ) ≤ interval.before exponent := by exact_mod_cast earlier
    exact outside (inside.convex value (mul_le_mul_of_nonneg_right order unit)
      ((le_div_iff₀ denominator).mpr (interval.before_le exponent)))

theorem exists_on_grid (around : interval.IsAround) (exponent : Int)
    (fine : (10 ^ exponent * interval.denominator : ℚ) < interval.upper - interval.lower) :
    ∃ digits : Nat, interval.Holds (digits * 10 ^ exponent) := by
  have first := interval.before_le exponent
  have second := lt_after around exponent
  have lower : (interval.lower : ℚ) < interval.value := by exact_mod_cast around.lower
  have upper : (interval.value : ℚ) < interval.upper := by exact_mod_cast around.upper
  by_cases inside :
      (interval.lower : ℚ) < interval.before exponent * 10 ^ exponent * interval.denominator
  · exact ⟨interval.before exponent, Or.inl inside, Or.inl (first.trans_lt upper)⟩
  · refine ⟨interval.before exponent + 1, Or.inl (lower.trans second), Or.inl ?_⟩
    rw [Nat.cast_add, Nat.cast_one, add_mul, add_mul, one_mul]
    linarith

/-! ## The search -/

theorem value_pos (around : interval.IsAround) : 0 < interval.value :=
  around.positive.trans around.lower

theorem pow_magnitude_le (around : interval.IsAround) :
    (10 ^ (interval.magnitude - 1) * interval.denominator : ℚ) ≤ interval.value := by
  have value := value_pos around
  unfold magnitude
  simp only
  split
  · next whole =>
    have digits := digitCount_pos (interval.value / interval.denominator)
    have power := pow_digitCount_le whole
    have exponent : ((digitCount (interval.value / interval.denominator) : Int) - 1) =
        (digitCount (interval.value / interval.denominator) - 1 : Nat) := by omega
    have scaled := (Nat.mul_le_mul_right interval.denominator power).trans (Nat.div_mul_le_self _ _)
    rw [exponent, zpow_natCast]
    exact_mod_cast scaled
  · have power := lt_pow_digitCount ((interval.denominator - 1) / interval.value)
    have quotient := Nat.lt_mul_div_succ (interval.denominator - 1) value
    have scaled := Nat.mul_le_mul_left interval.value (Nat.succ_le_of_lt power)
    have bound : interval.denominator ≤
        interval.value * 10 ^ digitCount ((interval.denominator - 1) / interval.value) := by
      rw [Nat.succ_eq_add_one] at scaled
      omega
    rw [sub_sub_cancel_left, zpow_neg, zpow_natCast, inv_mul_eq_div, div_le_iff₀ (by positivity)]
    exact_mod_cast bound

theorem lt_pow_magnitude (around : interval.IsAround) :
    interval.value < (10 ^ interval.magnitude * interval.denominator : ℚ) := by
  have value := value_pos around
  unfold magnitude
  simp only
  split
  · have power := lt_pow_digitCount (interval.value / interval.denominator)
    have quotient := Nat.lt_mul_div_succ interval.value around.denominator
    have scaled := Nat.mul_le_mul_left interval.denominator (Nat.succ_le_of_lt power)
    rw [zpow_natCast, mul_comm]
    exact_mod_cast quotient.trans_le scaled
  · next below =>
    have digits := digitCount_pos ((interval.denominator - 1) / interval.value)
    have exponent : 1 - (digitCount ((interval.denominator - 1) / interval.value) : Int) =
        -(digitCount ((interval.denominator - 1) / interval.value) - 1 : Nat) := by omega
    have bound : interval.value *
        10 ^ (digitCount ((interval.denominator - 1) / interval.value) - 1) <
          interval.denominator := by
      rcases Nat.eq_zero_or_pos ((interval.denominator - 1) / interval.value) with zero | some_
      · rw [zero, digitCount_zero]
        have less := (Nat.div_eq_zero_iff_lt around.denominator).mp (Nat.eq_zero_of_not_pos below)
        omega
      · have power := Nat.mul_le_mul_left interval.value (pow_digitCount_le some_)
        have quotient := Nat.mul_div_le (interval.denominator - 1) interval.value
        have denominator := around.denominator
        omega
    rw [exponent, zpow_neg, zpow_natCast, inv_mul_eq_div, lt_div_iff₀ (by positivity)]
    exact_mod_cast bound

theorem before_lt (around : interval.IsAround) (count : Nat) :
    interval.before (interval.magnitude - count) < 10 ^ count := by
  have denominator : (0 : ℚ) < interval.denominator := by exact_mod_cast around.denominator
  have unit : (0 : ℚ) < 10 ^ (interval.magnitude - count) := zpow_pos (by norm_num) _
  have less := (interval.before_le (interval.magnitude - count)).trans_lt (lt_pow_magnitude around)
  rw [mul_lt_mul_iff_of_pos_right denominator,
    ← pow_mul_zpow (add_sub_cancel (count : Int) interval.magnitude),
    mul_lt_mul_iff_of_pos_right unit] at less
  exact_mod_cast less

/-- The search ends at a grid of `count` digits, and no coarser grid has a neighbour inside. -/
structure EndsAt (interval : Interval) (magnitude : Int) (start count : Nat) (result : Scaled) :
    Prop where
  found : interval.nearest? (magnitude - count) = some result.digits
  exponent : result.exponent = magnitude - count
  coarser : ∀ earlier, start ≤ earlier → earlier < count →
    interval.nearest? (magnitude - earlier) = none

theorem search_endsAt {magnitude : Int} {more start last : Nat} (first : start ≤ last)
    (enough : last < start + more) (found : interval.nearest? (magnitude - last) ≠ none) :
    ∃ count, start ≤ count ∧ count ≤ last ∧
      interval.EndsAt magnitude start count (interval.search magnitude more start) := by
  induction more generalizing start with
  | zero => omega
  | succ more ih =>
    unfold search
    simp only
    split
    · next digits here => exact ⟨start, le_rfl, first, here, rfl, fun earlier h h' => by omega⟩
    · next none_ =>
      have later : start ≠ last := fun same => found (same ▸ none_)
      obtain ⟨count, least, most, found, exponent, coarser⟩ :=
        @ih (start + 1) (by omega) (by omega)
      refine ⟨count, by omega, most, found, exponent, ?_⟩
      intro earlier h h'
      rcases Nat.eq_or_lt_of_le h with rfl | after
      · exact none_
      · exact coarser earlier after h'

/-! ## Enough digits -/

theorem ofBinary_isAround {significand : Nat} (positive : 0 < significand) (exponent : Int) :
    (ofBinary significand exponent).IsAround := by
  have unit : 0 < 2 ^ (exponent - 2).toNat := Nat.two_pow_pos _
  have lower : (4 * significand - if significand = 2 ^ 52 ∧ -1074 < exponent then 1 else 2) <
      4 * significand := by split <;> omega
  refine ⟨Nat.two_pow_pos _, Nat.mul_pos ?_ unit, Nat.mul_lt_mul_of_pos_right lower unit,
    Nat.mul_lt_mul_of_pos_right (by omega) unit⟩
  split <;> omega

/-- With at most 53 binary digits the interval is wider than the last of seventeen digits. -/
theorem ofBinary_wide {significand : Nat} (positive : 0 < significand)
    (short : significand < 2 ^ 53) (exponent : Int) :
    (ofBinary significand exponent).value + 10 ^ 16 * (ofBinary significand exponent).lower <
      10 ^ 16 * (ofBinary significand exponent).upper := by
  have unit : 0 < 2 ^ (exponent - 2).toNat := Nat.two_pow_pos _
  simp only [ofBinary]
  rw [← Nat.mul_assoc, ← Nat.mul_assoc, ← Nat.add_mul]
  refine Nat.mul_lt_mul_of_pos_right ?_ unit
  split <;> omega

theorem exists_seventeen {significand : Nat} (positive : 0 < significand)
    (short : significand < 2 ^ 53) (exponent : Int) :
    let interval := ofBinary significand exponent
    interval.nearest? (interval.magnitude - maxDigits) ≠ none := by
  intro interval outside
  have around : interval.IsAround := ofBinary_isAround positive exponent
  have wide : (interval.value + 10 ^ 16 * interval.lower : ℚ) < 10 ^ 16 * interval.upper := by
    exact_mod_cast ofBinary_wide positive short exponent
  have power := pow_magnitude_le around
  have digits : (16 : Nat) + (interval.magnitude - maxDigits) = interval.magnitude - 1 := by
    unfold maxDigits
    omega
  rw [← pow_mul_zpow digits, mul_assoc] at power
  obtain ⟨digits, inside⟩ := exists_on_grid around (interval.magnitude - maxDigits) (by linarith)
  exact not_holds_of_nearest? around outside digits inside

theorem search_of_short {significand : Nat} (positive : 0 < significand)
    (short : significand < 2 ^ 53) (exponent : Int) :
    let interval := ofBinary significand exponent
    ∃ count, 1 ≤ count ∧ count ≤ maxDigits ∧ interval.EndsAt interval.magnitude 1 count
      (interval.search interval.magnitude maxDigits 1) :=
  search_endsAt (by decide) (by decide) (exists_seventeen positive short exponent)

theorem not_holds_of_lt (around : interval.IsAround) {count digits : Nat} (some_ : 1 ≤ count)
    (outside : interval.nearest? (interval.magnitude - count) = none)
    (few : digits < 10 ^ count) (exponent : Int) : ¬interval.Holds (digits * 10 ^ exponent) := by
  intro inside
  rcases lt_or_ge exponent (interval.magnitude - count) with fine | coarse
  · -- the decimal is less than a power of ten that is at most the value and on the grid
    have power : ((10 ^ (count - 1) : Nat) : ℚ) * 10 ^ (interval.magnitude - count) =
        10 ^ (interval.magnitude - 1) := by
      rw [Nat.cast_pow, Nat.cast_ofNat]
      exact pow_mul_zpow (by omega)
    have least : (digits * 10 ^ exponent : ℚ) ≤ 10 ^ (interval.magnitude - 1) := by
      calc (digits * 10 ^ exponent : ℚ) ≤ 10 ^ count * 10 ^ exponent := by
            gcongr
            exact_mod_cast few.le
        _ = 10 ^ (count + exponent) := pow_mul_zpow rfl
        _ ≤ 10 ^ (interval.magnitude - 1) := zpow_le_zpow_right₀ (by norm_num) (by omega)
    have denominator : (0 : ℚ) < interval.denominator := by exact_mod_cast around.denominator
    have most := (le_div_iff₀ denominator).mpr (pow_magnitude_le around)
    refine not_holds_of_nearest? around outside (10 ^ (count - 1)) ?_
    rw [power]
    exact inside.convex (holds_value around) least most
  · obtain ⟨more, sum⟩ := Int.exists_add_of_le coarse
    refine not_holds_of_nearest? around outside (digits * 10 ^ more) ?_
    rw [sum, zpow_add₀ (by norm_num), zpow_natCast, mul_comm (10 ^ _ : ℚ), ← mul_assoc] at inside
    exact_mod_cast inside

theorem shortest_of_pos {significand : Nat} (positive : 0 < significand) (exponent : Int) :
    let interval := ofBinary significand exponent
    shortest significand exponent =
      (interval.search interval.magnitude maxDigits 1).dropZeros (maxDigits + 1) :=
  if_neg positive.ne'

theorem shortest_holds {significand : Nat} (positive : 0 < significand)
    (short : significand < 2 ^ 53) (exponent : Int) :
    (ofBinary significand exponent).Holds (shortest significand exponent).value := by
  obtain ⟨count, -, -, ends⟩ := search_of_short positive short exponent
  have inside := (contains_iff (ofBinary_isAround positive exponent)).mp (of_nearest? ends.found).1
  rw [shortest_of_pos positive, Scaled.value_dropZeros, Scaled.value, ends.exponent]
  exact inside

theorem shortest_lt {significand : Nat} (positive : 0 < significand)
    (short : significand < 2 ^ 53) (exponent : Int) {count digits : Nat}
    (few : digits < 10 ^ count) {power : Int}
    (inside : (ofBinary significand exponent).Holds (digits * 10 ^ power)) :
    (shortest significand exponent).digits < 10 ^ count := by
  have around := ofBinary_isAround positive exponent
  obtain ⟨used, least, most, ends⟩ := search_of_short positive short exponent
  have some_ : 1 ≤ count := by
    by_contra none_
    obtain rfl : count = 0 := by omega
    obtain rfl : digits = 0 := by omega
    have positive := inside.pos around
    simp at positive
  have order : used ≤ count := by
    by_contra more
    exact not_holds_of_lt around some_ (ends.coarser count some_ (by omega)) few power inside
  have candidate : (search (ofBinary significand exponent)
      (ofBinary significand exponent).magnitude maxDigits 1).digits ≤ 10 ^ used := by
    have before := before_lt around used
    rcases (of_nearest? ends.found).2 with same | same <;> omega
  rw [shortest_of_pos positive]
  exact (Scaled.dropZeros_lt least (by omega) candidate).trans_le
    (Nat.pow_le_pow_right (by decide) order)

end Interval

/-! ## Words and their intervals -/

namespace Binary64

variable {x : Binary64} {negative : Bool} {significand : Nat} {exponent : Int}

theorem meaning_eq_finite (h : x.meaning = .finite negative significand exponent) :
    x.IsFinite ∧ x.isNegative = negative ∧
      significand = (if x.key / 2 ^ 52 = 0 then 0 else 2 ^ 52) + x.key % 2 ^ 52 ∧
      exponent = (x.key / 2 ^ 52 - 1 : Nat) - 1074 := by
  unfold meaning at h
  rw [exponentField_eq, fractionField_eq] at h
  split at h
  · split at h <;> simp at h
  · next finite =>
    refine ⟨by rwa [IsFinite, exponentField_eq], ?_⟩
    split at h
    · next small =>
      simp only [Meaning.finite.injEq] at h
      obtain ⟨rfl, rfl, rfl⟩ := h
      exact ⟨rfl, by rw [if_pos small, Nat.zero_add], by omega⟩
    · next normal =>
      simp only [Meaning.finite.injEq] at h
      obtain ⟨rfl, rfl, rfl⟩ := h
      exact ⟨rfl, by rw [if_neg normal], by omega⟩

theorem significand_lt (h : x.meaning = .finite negative significand exponent) :
    significand < 2 ^ 53 := by
  obtain ⟨-, -, rfl, -⟩ := meaning_eq_finite h
  split <;> omega

theorem steps_eq (h : x.meaning = .finite negative significand exponent) :
    steps x.key = significand * 2 ^ (x.key / 2 ^ 52 - 1) := by
  obtain ⟨-, -, rfl, -⟩ := meaning_eq_finite h
  unfold steps
  split
  · next small =>
    rw [small]
    omega
  · rfl

theorem steps_pred (h : x.meaning = .finite negative significand exponent) (some_ : 0 < x.key) :
    if significand = 2 ^ 52 ∧ -1074 < exponent then
      2 * steps (x.key - 1) + 2 ^ (x.key / 2 ^ 52 - 1) = 2 * steps x.key
    else steps (x.key - 1) + 2 ^ (x.key / 2 ^ 52 - 1) = steps x.key := by
  obtain ⟨-, -, rfl, rfl⟩ := meaning_eq_finite h
  have next_ := steps_succ (x.key - 1)
  have closer : (if x.key / 2 ^ 52 = 0 then 0 else 2 ^ 52) + x.key % 2 ^ 52 = 2 ^ 52 ∧
      (-1074 : Int) < (x.key / 2 ^ 52 - 1 : Nat) - 1074 ↔
        x.key % 2 ^ 52 = 0 ∧ 2 ≤ x.key / 2 ^ 52 := by
    split <;> omega
  rw [Nat.sub_add_cancel some_] at next_
  rw [if_congr closer rfl rfl]
  split
  · next closer =>
    -- the word before has the next smaller exponent
    have field : x.key / 2 ^ 52 - 1 = (x.key - 1) / 2 ^ 52 - 1 + 1 := by omega
    rw [next_, field, Nat.pow_succ]
    omega
  · next regular =>
    have field : (x.key - 1) / 2 ^ 52 - 1 = x.key / 2 ^ 52 - 1 := by omega
    rw [next_, field]

theorem key_pos (h : x.meaning = .finite negative significand exponent)
    (positive : 0 < significand) : 0 < x.key := by
  obtain ⟨-, -, rfl, -⟩ := meaning_eq_finite h
  apply Nat.pos_of_ne_zero
  intro zero
  simp [zero] at positive

theorem unit_eq (h : x.meaning = .finite negative significand exponent) :
    (4 * scale * (2 ^ (exponent - 2).toNat : Nat) : ℚ) =
      (2 ^ (x.key / 2 ^ 52 - 1) : Nat) * (2 ^ (-(exponent - 2)).toNat : Nat) := by
  obtain ⟨-, -, -, rfl⟩ := meaning_eq_finite h
  have four : (4 : ℚ) = 2 ^ (2 : Nat) := by norm_num
  rw [scale, four, Nat.cast_pow, Nat.cast_pow, Nat.cast_pow, Nat.cast_ofNat, ← pow_add, ← pow_add,
    ← pow_add]
  congr 1
  omega

theorem lower_scaled (h : x.meaning = .finite negative significand exponent)
    (positive : 0 < significand) :
    (2 * scale * (Interval.ofBinary significand exponent).lower : ℚ) =
      (steps (x.key - 1) + steps x.key) * (Interval.ofBinary significand exponent).denominator := by
  have unit := unit_eq h
  have here : (steps x.key : ℚ) = significand * (2 ^ (x.key / 2 ^ 52 - 1) : Nat) := by
    exact_mod_cast steps_eq h
  have below := steps_pred h (key_pos h positive)
  simp only [Interval.ofBinary]
  split at below
  · next closer =>
    have before : (2 * steps (x.key - 1) + (2 ^ (x.key / 2 ^ 52 - 1) : Nat) : ℚ) =
        2 * steps x.key := by exact_mod_cast below
    rw [if_pos closer, Nat.cast_mul, Nat.cast_sub (by omega), Nat.cast_mul]
    push_cast only [Nat.cast_ofNat, Nat.cast_one]
    linear_combination (4 * significand - 1) / 2 * unit -
      (2 ^ (-(exponent - 2)).toNat : Nat) / 2 * before -
      2 * (2 ^ (-(exponent - 2)).toNat : Nat) * here
  · next regular =>
    have before : (steps (x.key - 1) + (2 ^ (x.key / 2 ^ 52 - 1) : Nat) : ℚ) = steps x.key := by
      exact_mod_cast below
    rw [if_neg regular, Nat.cast_mul, Nat.cast_sub (by omega), Nat.cast_mul]
    push_cast only [Nat.cast_ofNat]
    linear_combination (4 * significand - 2) / 2 * unit -
      (2 ^ (-(exponent - 2)).toNat : Nat) * before -
      2 * (2 ^ (-(exponent - 2)).toNat : Nat) * here

theorem upper_scaled (h : x.meaning = .finite negative significand exponent) :
    (2 * scale * (Interval.ofBinary significand exponent).upper : ℚ) =
      (steps x.key + steps (x.key + 1)) * (Interval.ofBinary significand exponent).denominator := by
  have unit := unit_eq h
  have here : (steps x.key : ℚ) = significand * (2 ^ (x.key / 2 ^ 52 - 1) : Nat) := by
    exact_mod_cast steps_eq h
  have above : (steps (x.key + 1) : ℚ) = steps x.key + (2 ^ (x.key / 2 ^ 52 - 1) : Nat) := by
    exact_mod_cast steps_succ x.key
  simp only [Interval.ofBinary]
  rw [Nat.cast_mul, Nat.cast_add, Nat.cast_mul, above]
  push_cast only [Nat.cast_ofNat]
  linear_combination (4 * significand + 2) / 2 * unit -
    2 * (2 ^ (-(exponent - 2)).toNat : Nat) * here

/-- The interval of a number are the reals that are rounded to it. -/
theorem holds_iff_inCell (h : x.meaning = .finite negative significand exponent)
    (positive : 0 < significand) (q : ℚ) :
    (Interval.ofBinary significand exponent).Holds q ↔ InCell x.key (q * scale) := by
  have some_ := key_pos h positive
  have lower := lower_scaled h positive
  have upper := upper_scaled h
  have unit : (0 : ℚ) < 2 * scale := mul_pos two_pos scale_pos
  have denominator : (0 : ℚ) < (Interval.ofBinary significand exponent).denominator := by
    exact_mod_cast (Interval.ofBinary_isAround positive exponent).denominator
  have point (r : ℚ) : 2 * scale * (r * (Interval.ofBinary significand exponent).denominator) =
      2 * (r * scale) * (Interval.ofBinary significand exponent).denominator := by ring
  have parity : (Interval.ofBinary significand exponent).closed = true ↔ x.key % 2 = 0 := by
    obtain ⟨-, -, rfl, -⟩ := meaning_eq_finite h
    simp only [Interval.ofBinary, beq_iff_eq]
    split <;> omega
  have first : ((Interval.ofBinary significand exponent).lower : ℚ) <
      q * (Interval.ofBinary significand exponent).denominator ↔
        (steps (x.key - 1) + steps x.key : ℚ) < 2 * (q * scale) := by
    rw [← mul_lt_mul_iff_of_pos_left unit, lower, point, mul_lt_mul_iff_of_pos_right denominator]
  have first_end : ((Interval.ofBinary significand exponent).lower : ℚ) =
      q * (Interval.ofBinary significand exponent).denominator ↔
        (steps (x.key - 1) + steps x.key : ℚ) = 2 * (q * scale) := by
    rw [← mul_right_inj' unit.ne', lower, point, mul_left_inj' denominator.ne']
  have last : q * (Interval.ofBinary significand exponent).denominator <
      ((Interval.ofBinary significand exponent).upper : ℚ) ↔
        2 * (q * scale) < (steps x.key + steps (x.key + 1) : ℚ) := by
    rw [← mul_lt_mul_iff_of_pos_left unit, upper, point, mul_lt_mul_iff_of_pos_right denominator]
  have last_end : q * (Interval.ofBinary significand exponent).denominator =
      ((Interval.ofBinary significand exponent).upper : ℚ) ↔
        2 * (q * scale) = (steps x.key + steps (x.key + 1) : ℚ) := by
    rw [← mul_right_inj' unit.ne', upper, point, mul_left_inj' denominator.ne']
  constructor
  · rintro ⟨hl, hu⟩
    rw [first, parity, first_end] at hl
    rw [last, parity, last_end] at hu
    exact ⟨Or.inr hl, hu⟩
  · rintro ⟨hl, hu⟩
    have inner := hl.resolve_left some_.ne'
    rw [← first, ← parity, ← first_end] at inner
    rw [← last, ← parity, ← last_end] at hu
    exact ⟨inner, hu⟩

theorem inCell_zero : InCell 0 0 where
  lower := Or.inl rfl
  upper := by
    have next_ := steps_lt Nat.zero_lt_one
    rw [steps_zero, Nat.cast_zero] at next_ ⊢
    left
    linarith

theorem rounds_shortest (h : x.meaning = .finite negative significand exponent) :
    Rounds negative (shortest significand exponent).value x := by
  obtain ⟨finite, rfl, fields, -⟩ := meaning_eq_finite h
  refine rounds_of_cell finite ?_
  rcases Nat.eq_zero_or_pos significand with rfl | positive
  · have zero : x.key = 0 := by
      split at fields <;> omega
    have value : (shortest 0 exponent).value = 0 := by simp [shortest, Scaled.value]
    rw [zero, value, zero_mul]
    exact inCell_zero
  · exact (holds_iff_inCell h positive _).mp
      (Interval.shortest_holds positive (significand_lt h) exponent)

theorem digitCount_shortest_le (h : x.meaning = .finite negative significand exponent)
    {digits : Nat} {power : Int} (rounds : Rounds negative (digits * 10 ^ power) x) :
    digitCount (shortest significand exponent).digits ≤ digitCount digits := by
  obtain ⟨finite, rfl, -⟩ := meaning_eq_finite h
  have nonnegative : (0 : ℚ) ≤ digits * 10 ^ power := by positivity
  refine digitCount_le (digitCount_pos digits) ?_
  rcases Nat.eq_zero_or_pos significand with rfl | positive
  · exact Nat.pow_pos (by decide)
  · exact Interval.shortest_lt positive (significand_lt h) exponent (lt_pow_digitCount digits)
      ((holds_iff_inCell h positive _).mpr (inCell_of_rounds finite nonnegative rounds))

end Binary64

end EnumTables.Decimal
