import EnumTables.Decimal.Binary64
import Mathlib.Tactic

/-!
# Rounding to binary numbers

Without their signs, finite words stand in the order of their magnitudes, and `steps` counts the
magnitude of a word in units of the least positive number. What is rounded to a word lies between
the midpoints to its neighbours (`rounds_of_cell`), and every magnitude is rounded to exactly one
word (`existsUnique_rounds`).
-/

namespace EnumTables.Decimal.Binary64

/-! ## Words in order -/

def key (x : Binary64) : Nat :=
  x.bits.toNat % 2 ^ 63

def ofKey (negative : Bool) (key : Nat) : Binary64 :=
  ⟨UInt64.ofNat ((if negative then 2 ^ 63 else 0) + key)⟩

def endKey : Nat := 2047 * 2 ^ 52

/-- The magnitude of a word in units of the least positive number. -/
def steps (key : Nat) : Nat :=
  if key / 2 ^ 52 = 0 then key else (2 ^ 52 + key % 2 ^ 52) * 2 ^ (key / 2 ^ 52 - 1)

theorem steps_succ (key : Nat) : steps (key + 1) = steps key + 2 ^ (key / 2 ^ 52 - 1) := by
  unfold steps
  by_cases last : key % 2 ^ 52 = 2 ^ 52 - 1
  · -- the significand is full, and the next word has the next exponent
    have exponent : (key + 1) / 2 ^ 52 = key / 2 ^ 52 + 1 := by omega
    have fraction : (key + 1) % 2 ^ 52 = 0 := by omega
    rw [exponent, fraction, if_neg (Nat.succ_ne_zero _), Nat.add_sub_cancel]
    by_cases small : key / 2 ^ 52 = 0
    · rw [if_pos small, small]
      omega
    · rw [if_neg small, last]
      obtain ⟨e, he⟩ : ∃ e, key / 2 ^ 52 = e + 1 := ⟨key / 2 ^ 52 - 1, by omega⟩
      rw [he, Nat.add_sub_cancel, Nat.pow_succ]
      omega
  · have exponent : (key + 1) / 2 ^ 52 = key / 2 ^ 52 := by omega
    have fraction : (key + 1) % 2 ^ 52 = key % 2 ^ 52 + 1 := by omega
    rw [exponent, fraction]
    by_cases small : key / 2 ^ 52 = 0
    · simp [small]
    · rw [if_neg small, if_neg small, ← Nat.add_assoc, Nat.add_mul, Nat.one_mul]

theorem steps_strictMono : StrictMono steps :=
  strictMono_nat_of_lt_succ fun key => by
    rw [steps_succ]
    exact Nat.lt_add_of_pos_right (Nat.two_pow_pos _)

theorem steps_zero : steps 0 = 0 := rfl

theorem bits_lt (x : Binary64) : x.bits.toNat < 2 ^ 64 :=
  x.bits.toNat_lt

theorem exponentField_eq (x : Binary64) : x.exponentField = x.key / 2 ^ 52 := by
  unfold exponentField key
  omega

theorem fractionField_eq (x : Binary64) : x.fractionField = x.key % 2 ^ 52 := by
  unfold fractionField key
  omega

theorem key_lt (x : Binary64) : x.key < 2 ^ 63 :=
  Nat.mod_lt _ (Nat.two_pow_pos _)

theorem isNegative_ofKey {negative : Bool} {key : Nat} (h : key < 2 ^ 63) :
    (ofKey negative key).isNegative = negative := by
  unfold isNegative ofKey
  rw [UInt64.toNat_ofNat', Nat.mod_eq_of_lt (by split <;> omega)]
  cases negative with
  | false => simpa using h
  | true => simp

theorem key_ofKey {negative : Bool} {key : Nat} (h : key < 2 ^ 63) :
    (ofKey negative key).key = key := by
  unfold ofKey Binary64.key
  rw [UInt64.toNat_ofNat']
  split <;> omega

theorem eq_of_key_eq {x y : Binary64} (sign : x.isNegative = y.isNegative) (same : x.key = y.key) :
    x = y := by
  have lx := bits_lt x
  have ly := bits_lt y
  unfold isNegative at sign
  unfold key at same
  have words : x.bits.toNat = y.bits.toNat := by
    simp only [decide_eq_decide] at sign
    omega
  obtain ⟨bits⟩ := x
  obtain ⟨bits'⟩ := y
  exact congrArg Binary64.mk (UInt64.toNat_inj.mp words)

/-! ## Magnitudes -/

def IsFinite (x : Binary64) : Prop :=
  x.exponentField ≠ 2047

theorem isFinite_iff {x : Binary64} : x.IsFinite ↔ x.key < endKey := by
  have bound := key_lt x
  rw [IsFinite, exponentField_eq, endKey]
  omega

def scale : ℚ := 2 ^ 1074

theorem scale_pos : 0 < scale :=
  pow_pos (by norm_num) _

def magnitude (x : Binary64) : ℚ :=
  match x.meaning with
  | .finite _ significand exponent => significand * 2 ^ exponent
  | _ => 0

def value (x : Binary64) : ℚ :=
  if x.isNegative then -x.magnitude else x.magnitude

theorem meaning_of_isFinite {x : Binary64} (finite : x.IsFinite) :
    ∃ significand exponent, x.meaning = .finite x.isNegative significand exponent ∧
      (significand : ℚ) * 2 ^ exponent = steps x.key / scale := by
  unfold meaning steps scale
  rw [if_neg finite, exponentField_eq, fractionField_eq]
  split
  · next small =>
    have fraction : x.key % 2 ^ 52 = x.key := by omega
    refine ⟨_, _, rfl, ?_⟩
    rw [fraction, zpow_neg, zpow_ofNat, div_eq_mul_inv]
  · next normal =>
    refine ⟨_, _, rfl, ?_⟩
    have exponent : ((x.key / 2 ^ 52 : Nat) : Int) - 1075 =
        ((x.key / 2 ^ 52 - 1 : Nat) : Int) - (1074 : Nat) := by omega
    rw [exponent, zpow_sub₀ two_ne_zero, zpow_natCast, zpow_natCast, mul_div_assoc']
    simp only [Nat.cast_mul, Nat.cast_pow, Nat.cast_ofNat]

theorem magnitude_eq {x : Binary64} (finite : x.IsFinite) :
    x.magnitude = steps x.key / scale := by
  obtain ⟨significand, exponent, meaning, same⟩ := meaning_of_isFinite finite
  rw [magnitude, meaning]
  exact same

/-- The reals that are nearer to a word than to its neighbours, and of the midpoints between them
those that go to the even word; `units` counts them like `steps`. -/
structure InCell (key : Nat) (units : ℚ) : Prop where
  lower : key = 0 ∨ (steps (key - 1) + steps key : ℚ) < 2 * units ∨
    key % 2 = 0 ∧ (steps (key - 1) + steps key : ℚ) = 2 * units
  upper : 2 * units < steps key + steps (key + 1) ∨
    key % 2 = 0 ∧ 2 * units = steps key + steps (key + 1)

theorem steps_le {j k : Nat} (h : j ≤ k) : (steps j : ℚ) ≤ steps k := by
  exact_mod_cast steps_strictMono.monotone h

theorem steps_lt {j k : Nat} (h : j < k) : (steps j : ℚ) < steps k := by
  exact_mod_cast steps_strictMono h

theorem InCell.below {key other : Nat} {units : ℚ} (h : InCell key units) (less : other < key) :
    units - steps key ≤ units - steps other ∧ steps key - units ≤ units - steps other ∧
      (steps key - units = units - steps other → key % 2 = 0) := by
  have earlier := steps_le (show other ≤ key - 1 by omega)
  have step := steps_lt less
  refine ⟨by linarith, ?_, ?_⟩
  · rcases h.lower with zero | inside | ⟨-, midpoint⟩
    · omega
    · linarith
    · linarith
  · intro tie
    rcases h.lower with zero | inside | ⟨even, -⟩
    · omega
    · linarith
    · exact even

theorem InCell.above {key other : Nat} {units : ℚ} (h : InCell key units) (more : key < other) :
    steps key - units ≤ steps other - units ∧ units - steps key ≤ steps other - units ∧
      (units - steps key = steps other - units → key % 2 = 0) := by
  have later := steps_le (show key + 1 ≤ other by omega)
  have step := steps_lt more
  refine ⟨by linarith, ?_, ?_⟩
  · rcases h.upper with inside | ⟨-, midpoint⟩
    · linarith
    · linarith
  · intro tie
    rcases h.upper with inside | ⟨even, -⟩
    · linarith
    · exact even

theorem InCell.nearest {key : Nat} {units : ℚ} (h : InCell key units) (other : Nat) :
    |units - steps key| ≤ |units - steps other| ∧
      (|units - steps key| = |units - steps other| → other = key ∨ key % 2 = 0) := by
  rcases Nat.lt_trichotomy other key with less | rfl | more
  · obtain ⟨first, second, tie⟩ := h.below less
    have far : |units - steps other| = units - steps other := abs_of_nonneg (by linarith)
    rw [far]
    refine ⟨abs_le.mpr ⟨by linarith, by linarith⟩, fun same => Or.inr ?_⟩
    rcases abs_cases (units - (steps key : ℚ)) with ⟨near, -⟩ | ⟨near, -⟩
    · have := steps_lt less
      linarith
    · exact tie (by linarith)
  · exact ⟨le_rfl, fun _ => Or.inl rfl⟩
  · obtain ⟨first, second, tie⟩ := h.above more
    have far : |units - steps other| = steps other - units := by
      rw [abs_of_nonpos (by linarith), neg_sub]
    rw [far]
    refine ⟨abs_le.mpr ⟨by linarith, by linarith⟩, fun same => Or.inr ?_⟩
    rcases abs_cases (units - (steps key : ℚ)) with ⟨near, -⟩ | ⟨near, -⟩
    · exact tie (by linarith)
    · have := steps_lt more
      linarith

/-! ## Rounding -/

/-- No finite number is nearer, and only an even one may be as near as another. -/
def IsNearest (q : ℚ) (x : Binary64) : Prop :=
  ∀ y : Binary64, y.IsFinite → |q - x.magnitude| ≤ |q - y.magnitude| ∧
    (|q - x.magnitude| = |q - y.magnitude| →
      y.magnitude = x.magnitude ∨ x.fractionField % 2 = 0)

/-- What a magnitude with a sign is rounded to: the nearest finite number, of two equally near ones
the even one, and an infinity from half a unit above the largest finite number on. -/
inductive Rounds (negative : Bool) (q : ℚ) (x : Binary64) : Prop
  | finite : q < overflowBound → x.IsFinite → x.isNegative = negative → IsNearest q x →
      Rounds negative q x
  | infinite : (overflowBound : ℚ) ≤ q → x.meaning = .infinity negative → Rounds negative q x

theorem distance_eq (q : ℚ) {x : Binary64} (finite : x.IsFinite) :
    |q - x.magnitude| = |q * scale - steps x.key| / scale := by
  have positive := scale_pos
  have scaled : q - x.magnitude = (q * scale - steps x.key) / scale := by
    rw [magnitude_eq finite]
    field_simp
  rw [scaled, abs_div, abs_of_pos positive]

theorem steps_binade (field : Nat) {key : Nat} (h : key = (field + 1) * 2 ^ 52) :
    steps key = 2 ^ (52 + field) := by
  have exponent : key / 2 ^ 52 = field + 1 := by omega
  have fraction : key % 2 ^ 52 = 0 := by omega
  rw [steps, exponent, fraction, if_neg (Nat.succ_ne_zero _), Nat.add_zero, Nat.add_sub_cancel,
    Nat.pow_add]

theorem steps_endKey : steps endKey = 2 ^ 2098 := by
  have exponent : 52 + 2046 = 2098 := rfl
  rw [steps_binade 2046 (show endKey = (2046 + 1) * 2 ^ 52 from rfl), exponent]

theorem steps_last : steps (endKey - 1) + 2 ^ 2045 = steps endKey := by
  have field : (endKey - 1) / 2 ^ 52 - 1 = 2045 := by decide
  have next := steps_succ (endKey - 1)
  rw [field] at next
  exact next.symm

theorem pow_sub_add_pow (a b : Nat) (h : a ≤ b) : 2 ^ b - 2 ^ a + 2 ^ a = 2 ^ b :=
  Nat.sub_add_cancel (Nat.pow_le_pow_right (by decide) h)

theorem mul_pow_add_pow (n a b c : Nat) (h : n + 2 ^ a = 2 ^ b) :
    n * 2 ^ c + 2 ^ (a + c) = 2 ^ (b + c) := by
  rw [Nat.pow_add, Nat.pow_add, ← h, Nat.add_mul]

theorem overflowBound_eq : steps (endKey - 1) + steps endKey = 2 * (overflowBound * 2 ^ 1074) := by
  have last := steps_last
  have bound : overflowBound + 2 ^ 970 = 2 ^ 1024 := by
    unfold overflowBound
    exact pow_sub_add_pow 970 1024 (by decide)
  -- the powers are too large to be computed
  generalize overflowBound = n at bound ⊢
  have scaled := mul_pow_add_pow n 970 1024 1074 bound
  have first : 970 + 1074 = 2044 := rfl
  have second : 1024 + 1074 = 2098 := rfl
  have third : Nat.succ 2044 = 2045 := rfl
  have double := Nat.pow_succ' (m := 2) (n := 2044)
  rw [first, second] at scaled
  rw [third] at double
  rw [steps_endKey] at last ⊢
  omega

theorem overflowBound_scaled :
    (steps (endKey - 1) + steps endKey : ℚ) = 2 * (overflowBound * scale) := by
  have counted := congrArg (Nat.cast : ℕ → ℚ) overflowBound_eq
  simp only [Nat.cast_add, Nat.cast_mul, Nat.cast_pow, Nat.cast_ofNat] at counted
  exact counted

theorem InCell.lt_overflowBound {key : Nat} {q : ℚ} (h : InCell key (q * scale))
    (finite : key < endKey) : q < overflowBound := by
  have bound := overflowBound_scaled
  have positive := scale_pos
  suffices 2 * (q * scale) < 2 * (overflowBound * scale) by nlinarith
  rcases Nat.lt_or_ge (key + 1) endKey with inner | last
  · have first := steps_le (show key ≤ endKey - 1 by omega)
    have second := steps_lt inner
    rcases h.upper with inside | ⟨-, midpoint⟩ <;> linarith
  · obtain rfl : key = endKey - 1 := by omega
    rcases h.upper with inside | ⟨even, -⟩
    · have next : endKey - 1 + 1 = endKey := by decide
      rw [next] at inside
      linarith
    · exact absurd even (by decide)

theorem fractionField_even {x : Binary64} : x.fractionField % 2 = 0 ↔ x.key % 2 = 0 := by
  rw [fractionField_eq]
  omega

theorem isNearest_of_cell {x : Binary64} {q : ℚ} (finite : x.IsFinite)
    (h : InCell x.key (q * scale)) : IsNearest q x := by
  intro y other
  have positive := scale_pos
  obtain ⟨near, tie⟩ := h.nearest y.key
  rw [distance_eq q finite, distance_eq q other]
  refine ⟨div_le_div_of_nonneg_right near positive.le, ?_⟩
  intro same
  rcases tie ((div_left_inj' positive.ne').mp same) with equal | even
  · left
    rw [magnitude_eq finite, magnitude_eq other, equal]
  · exact Or.inr (fractionField_even.mpr even)

theorem rounds_of_cell {x : Binary64} {q : ℚ} (finite : x.IsFinite)
    (h : InCell x.key (q * scale)) : Rounds x.isNegative q x :=
  .finite (h.lt_overflowBound (isFinite_iff.mp finite)) finite rfl (isNearest_of_cell finite h)

theorem ofKey_isFinite (negative : Bool) {key : Nat} (h : key < endKey) :
    (ofKey negative key).IsFinite := by
  have short : key < 2 ^ 63 := h.trans (by decide)
  rw [isFinite_iff, key_ofKey short]
  exact h

theorem not_key_lt {q : ℚ} {x y : Binary64} (finite : x.IsFinite) (finite' : y.IsFinite)
    (nearest : IsNearest q x) (nearest' : IsNearest q y) : ¬x.key < y.key := by
  intro less
  have positive := scale_pos
  have step := steps_lt less
  -- both are equally near, so that both are even
  have different : x.magnitude ≠ y.magnitude := by
    rw [magnitude_eq finite, magnitude_eq finite', Ne, div_left_inj' positive.ne']
    exact step.ne
  have same := le_antisymm (nearest y finite').1 (nearest' x finite).1
  have even := ((nearest y finite').2 same).resolve_left different.symm
  have even' := ((nearest' x finite).2 same.symm).resolve_left different
  rw [fractionField_even] at even even'
  -- an odd word stands between the two, and is nearer to their midpoint
  have room : x.key + 1 < y.key := by omega
  have inner : x.key + 1 < endKey := room.trans (isFinite_iff.mp finite')
  have short : x.key + 1 < 2 ^ 63 := inner.trans (by decide)
  have near := (nearest (ofKey false (x.key + 1)) (ofKey_isFinite false inner)).1
  have first := steps_lt (Nat.lt_succ_self x.key)
  have second := steps_lt room
  rw [distance_eq q finite, distance_eq q (ofKey_isFinite false inner), key_ofKey short,
    div_le_div_iff_of_pos_right positive] at near
  rw [distance_eq q finite, distance_eq q finite', div_left_inj' positive.ne'] at same
  rcases abs_eq_abs.mp same with equal | opposite
  · linarith
  · have midpoint : 2 * (q * scale) = steps x.key + steps y.key := by linarith
    have far : |q * scale - steps x.key| = q * scale - steps x.key :=
      abs_of_nonneg (by linarith)
    rw [far] at near
    rcases abs_cases (q * scale - (steps (x.key + 1) : ℚ)) with ⟨size, -⟩ | ⟨size, -⟩ <;> linarith

theorem meaning_eq_infinity {x : Binary64} {negative : Bool} :
    x.meaning = .infinity negative ↔ x.key = endKey ∧ x.isNegative = negative := by
  have bound := key_lt x
  unfold meaning endKey
  rw [exponentField_eq, fractionField_eq]
  split
  · next field =>
    split
    · next fraction =>
      have last : x.key = 2047 * 2 ^ 52 := by omega
      simp [last]
    · simp only [reduceCtorEq, false_iff, not_and]
      omega
  · split <;> simp only [reduceCtorEq, false_iff, not_and] <;> omega

theorem eq_of_infinite {x y : Binary64} {negative : Bool} (h : x.meaning = .infinity negative)
    (h' : y.meaning = .infinity negative) : x = y := by
  obtain ⟨key, sign⟩ := meaning_eq_infinity.mp h
  obtain ⟨key', sign'⟩ := meaning_eq_infinity.mp h'
  exact eq_of_key_eq (sign.trans sign'.symm) (key.trans key'.symm)

theorem rounds_unique {negative : Bool} {q : ℚ} {x y : Binary64} (h : Rounds negative q x)
    (h' : Rounds negative q y) : x = y := by
  cases h with
  | finite bound finite sign nearest =>
    cases h' with
    | finite bound' finite' sign' nearest' =>
      have first := not_key_lt finite finite' nearest nearest'
      have second := not_key_lt finite' finite nearest' nearest
      exact eq_of_key_eq (sign.trans sign'.symm) (by omega)
    | infinite beyond => exact absurd bound (not_lt.mpr beyond)
  | infinite beyond meaning =>
    cases h' with
    | finite bound => exact absurd bound (not_lt.mpr beyond)
    | infinite _ meaning' => exact eq_of_infinite meaning meaning'

/-! ## Every magnitude is rounded -/

theorem exists_between {units : ℚ} (positive : 0 ≤ units) (key : Nat) (below : units < steps key) :
    ∃ k < key, (steps k : ℚ) ≤ units ∧ units < steps (k + 1) := by
  induction key with
  | zero =>
    rw [steps_zero, Nat.cast_zero] at below
    exact absurd below (not_lt.mpr positive)
  | succ key ih =>
    by_cases earlier : units < steps key
    · obtain ⟨k, less, between⟩ := ih earlier
      exact ⟨k, less.trans (Nat.lt_succ_self key), between⟩
    · exact ⟨key, Nat.lt_succ_self key, not_lt.mp earlier, below⟩

theorem inCell_or_succ {key : Nat} {units : ℚ} (start : (steps key : ℚ) ≤ units)
    (stop : units < steps (key + 1)) :
    (2 * units ≤ steps key + steps (key + 1) ∧ InCell key units) ∨ InCell (key + 1) units := by
  have lower : key = 0 ∨ (steps (key - 1) + steps key : ℚ) < 2 * units ∨
      key % 2 = 0 ∧ (steps (key - 1) + steps key : ℚ) = 2 * units := by
    rcases Nat.eq_zero_or_pos key with zero | positive
    · exact Or.inl zero
    · have before := steps_lt (Nat.sub_lt positive Nat.one_pos)
      exact Or.inr (Or.inl (by linarith))
  have upper : 2 * units < steps (key + 1) + steps (key + 1 + 1) := by
    have after := steps_lt (Nat.lt_succ_self (key + 1))
    linarith
  rcases lt_trichotomy (2 * units) (steps key + steps (key + 1)) with less | tie | more
  · exact Or.inl ⟨less.le, lower, Or.inl less⟩
  · -- at the midpoint the even one of the two words
    rcases Nat.mod_two_eq_zero_or_one key with even | odd
    · exact Or.inl ⟨tie.le, lower, Or.inr ⟨even, tie⟩⟩
    · exact Or.inr ⟨Or.inr (Or.inr ⟨by omega, tie.symm⟩), Or.inl upper⟩
  · exact Or.inr ⟨Or.inr (Or.inl more), Or.inl upper⟩

theorem exists_cell {q : ℚ} (positive : 0 ≤ q) (bound : q < overflowBound) :
    ∃ key < endKey, InCell key (q * scale) := by
  have scaled := overflowBound_scaled
  have unit := scale_pos
  have inside : 2 * (q * scale) < steps (endKey - 1) + steps endKey := by
    rw [scaled]
    nlinarith
  have last := steps_lt (show endKey - 1 < endKey by decide)
  obtain ⟨key, less, start, stop⟩ :=
    exists_between (mul_nonneg positive unit.le) endKey (by linarith)
  rcases inCell_or_succ start stop with ⟨-, here⟩ | next
  · exact ⟨key, less, here⟩
  · refine ⟨key + 1, ?_, next⟩
    -- the cell of the first infinity begins at the bound
    by_contra beyond
    obtain rfl : key = endKey - 1 := by omega
    have end_ : endKey - 1 + 1 = endKey := by decide
    obtain ⟨lower, -⟩ := next
    rw [Nat.add_sub_cancel, end_] at lower
    rcases lower with zero | above | ⟨-, midpoint⟩
    · exact absurd zero (by decide)
    · linarith
    · linarith

theorem existsUnique_rounds {negative : Bool} {q : ℚ} (positive : 0 ≤ q) :
    ∃! x, Rounds negative q x := by
  refine existsUnique_of_exists_of_unique ?_ fun _ _ => rounds_unique
  by_cases bound : q < overflowBound
  · obtain ⟨key, less, here⟩ := exists_cell positive bound
    have short : key < 2 ^ 63 := less.trans (by decide)
    refine ⟨ofKey negative key, ?_⟩
    have rounds := rounds_of_cell (ofKey_isFinite negative less)
      (by rwa [key_ofKey short])
    rwa [isNegative_ofKey short] at rounds
  · have short : endKey < 2 ^ 63 := by decide
    exact ⟨ofKey negative endKey, .infinite (not_lt.mp bound)
      (meaning_eq_infinity.mpr ⟨key_ofKey short, isNegative_ofKey short⟩)⟩

theorem inCell_of_rounds {x : Binary64} {q : ℚ} (finite : x.IsFinite) (positive : 0 ≤ q)
    (h : Rounds x.isNegative q x) : InCell x.key (q * scale) := by
  by_cases bound : q < overflowBound
  · obtain ⟨near, less, here⟩ := exists_cell positive bound
    have short : near < 2 ^ 63 := less.trans (by decide)
    have rounds := rounds_of_cell (ofKey_isFinite x.isNegative less)
      (by rwa [key_ofKey short])
    rw [isNegative_ofKey short] at rounds
    have same := congrArg key (rounds_unique h rounds)
    rw [key_ofKey short] at same
    rwa [same]
  · cases h with
    | finite bound' => exact absurd bound' bound
    | infinite _ meaning =>
      obtain ⟨last, -⟩ := meaning_eq_infinity.mp meaning
      exact absurd last (isFinite_iff.mp finite).ne

end EnumTables.Decimal.Binary64
