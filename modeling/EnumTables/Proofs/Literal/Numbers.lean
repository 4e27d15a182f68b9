import EnumTables.Proofs.Decimal.Conversion
import EnumTables.Proofs.Decimal.ReadBack
import EnumTables.Proofs.Decimal.Shortest
import EnumTables.Proofs.Literal.Written

/-!
# Literals of floating-point numbers

The literal of a finite number is rounded to that number and to no other, and no literal with fewer
digits is (`literal_float64_reads_back`). An integer is taken as a floating-point number iff it is
one, and its literal is rounded to the integer itself (`literal_float64_integer`).
-/

namespace EnumTables

open Decimal Binary64 Literal

namespace Literal

/-! ## Numbers -/

/-- What the literal of a number is: a constant for a number without digits, and otherwise a
shortest decimal that is rounded to the number. -/
def IsNumberText (x : Binary64) (text : String) : Prop :=
  match x.meaning with
  | .nan => text = "f64::NAN"
  | .infinity negative => text = if negative then "f64::NEG_INFINITY" else "f64::INFINITY"
  | .finite negative _ _ => ∃ decimal : Scaled, Spells text.toList negative decimal.value ∧
      (∀ y, Rounds negative decimal.value y ↔ y = x) ∧
      ∀ (digits : Nat) (power : Int), Rounds negative (digits * 10 ^ power) x →
        digitCount decimal.digits ≤ digitCount digits

theorem isNumberText_write (x : Binary64) : IsNumberText x (floatLayout.write x) := by
  unfold IsNumberText Layout.write
  cases meaning : x.meaning with
  | nan => rfl
  | infinity negative => cases negative <;> rfl
  | finite negative significand exponent =>
    have rounds := rounds_shortest meaning
    refine ⟨shortest significand exponent, ?_, ?_, ?_⟩
    · exact ⟨_, String.toList_ofList, Layout.spells_unsigned _ _⟩
    · intro y
      exact ⟨fun h => rounds_unique h rounds, fun same => same ▸ rounds⟩
    · intro digits power h
      exact digitCount_shortest_le meaning h

theorem not_spells_infinity {negative negative' : Bool} {q : ℚ} {text : String}
    (infinity : text = if negative then "f64::NEG_INFINITY" else "f64::INFINITY") :
    ¬Spells text.toList negative' q := by
  intro spelled
  obtain ⟨rest, starts⟩ : ∃ rest, text.toList = 'f' :: rest := by
    subst infinity
    cases negative <;> exact ⟨_, rfl⟩
  exact spelled.head_ne (by decide) (by decide) rest starts

theorem isNumberText_injective {x y : Binary64} {text : String} (number : x.meaning ≠ .nan)
    (number' : y.meaning ≠ .nan) (h : IsNumberText x text) (h' : IsNumberText y text) : x = y := by
  unfold IsNumberText at h h'
  cases meaning : x.meaning with
  | nan => exact absurd meaning number
  | infinity negative =>
    rw [meaning] at h
    cases meaning' : y.meaning with
    | nan => exact absurd meaning' number'
    | infinity negative' =>
      rw [meaning'] at h'
      obtain rfl : negative = negative' := by
        have same := h.symm.trans h'
        cases negative <;> cases negative' <;> simp_all
      exact eq_of_infinite meaning meaning'
    | finite negative' significand exponent =>
      rw [meaning'] at h'
      obtain ⟨decimal, spelled, -⟩ := h'
      exact absurd spelled (not_spells_infinity h)
  | finite negative significand exponent =>
    rw [meaning] at h
    obtain ⟨decimal, spelled, rounds, -⟩ := h
    cases meaning' : y.meaning with
    | nan => exact absurd meaning' number'
    | infinity negative' =>
      rw [meaning'] at h'
      exact absurd spelled (not_spells_infinity h')
    | finite negative' significand' exponent' =>
      rw [meaning'] at h'
      obtain ⟨decimal', spelled', rounds', -⟩ := h'
      obtain ⟨rfl, same⟩ := spelled.unique spelled'
      exact (rounds' x).mp (same ▸ (rounds x).mpr rfl)

end Literal

namespace Representation

/-! ## Literals -/

theorem literal_float (x : Binary64) :
    literal (.scalar .float64) (.float x) = .ok (label (floatLayout.write x)) := by
  simp [literal, ofScalar, Value.asInteger?, Value.asFloat?, Spoken.asLiteral, Except.mapError]

theorem literal_int (n : Int) :
    literal (.scalar .float64) (.int n) = match ofInt n with
      | .exact x => .ok (label (floatLayout.write x))
      | .inexact => reject (.scalar .float64) (.int n) .inexactFloat64
      | .overflow => reject (.scalar .float64) (.int n) .outsideFloat64 := by
  cases converted : ofInt n <;>
    simp [literal, ofScalar, converted, Value.asInteger?, Spoken.asLiteral, Except.mapError]

theorem reject_int {α : Type} (n : Int) (reason : Reason) :
    (reject (.scalar .float64) (.int n) reason : Except LiteralError α) =
      if digitLimit < digitCount n.natAbs then .error (.raised Spoken.tooLong)
      else .error (.mismatch ⟨.scalar .float64, .int n, reason, numeral n⟩) := by
  rw [reject, Value.display, Spoken.ofInteger]
  by_cases long : digitLimit < digitCount n.natAbs
  · simp only [if_pos long]
  · simp only [if_neg long]

theorem digitCount_of_lt_overflowBound {n : Int} (h : n.natAbs < overflowBound) :
    digitCount n.natAbs ≤ digitLimit := by
  have decimal {m power : Nat} (small : m < 2 ^ power) : m < 10 ^ power :=
    small.trans_le (Nat.pow_le_pow_left (by decide) power)
  exact (digitCount_le (by decide) (decimal (h.trans_le overflowBound_le))).trans (by decide)

theorem eq_of_label_eq {text text' : String}
    (h : (.ok (label text) : Except LiteralError Label) = .ok (label text')) : text = text' :=
  Except.ok.inj (congrArg Label.text (Except.ok.inj h))

theorem literal_float64_reads_back :
    (∀ x : Binary64, ∃ text, literal (.scalar .float64) (.float x) = .ok (label text) ∧
      IsNumberText x text) ∧
    Set.InjOn (fun x : Binary64 => literal (.scalar .float64) (.float x))
      {x | x.meaning ≠ .nan} := by
  constructor
  · intro x
    exact ⟨_, literal_float x, isNumberText_write x⟩
  · intro x number y number' same
    have texts : floatLayout.write x = floatLayout.write y :=
      eq_of_label_eq ((literal_float x).symm.trans (same.trans (literal_float y)))
    exact isNumberText_injective number number' (isNumberText_write x)
      (texts ▸ isNumberText_write y)

theorem literal_float64_integer (n : Int) :
    ((∃ text, literal (.scalar .float64) (.int n) = .ok (label text)) ↔ IsExact n) ∧
    (IsExact n ↔ ∃ x : Binary64, x.IsFinite ∧ x.value = n) ∧
    (literal (.scalar .float64) (.int n) =
      .error (.mismatch ⟨.scalar .float64, .int n, .outsideFloat64, numeral n⟩) ↔
        2 ^ 1024 - 2 ^ 970 ≤ n.natAbs ∧ digitCount n.natAbs ≤ digitLimit) ∧
    (literal (.scalar .float64) (.int n) =
      .error (.mismatch ⟨.scalar .float64, .int n, .inexactFloat64, numeral n⟩) ↔
        ¬IsExact n ∧ n.natAbs < 2 ^ 1024 - 2 ^ 970) ∧
    (literal (.scalar .float64) (.int n) = .error (.raised Spoken.tooLong) ↔
      digitLimit < digitCount n.natAbs) ∧
    (∀ text, literal (.scalar .float64) (.int n) = .ok (label text) →
      ∃ q x, Spells text.toList (decide (n < 0)) q ∧
        (∀ y, Rounds (decide (n < 0)) q y ↔ y = x) ∧ x.IsFinite ∧ x.value = n) ∧
    ∀ value : Value, value.asInteger? = some n →
      ofScalar .float64 value = ofScalar .float64 (.int n) := by
  have alike : ∀ value : Value, value.asInteger? = some n →
      ofScalar .float64 value = ofScalar .float64 (.int n) := fun value same => by
    simp [ofScalar, same, Value.asInteger?]
  have converts := converts_ofInt n
  rw [literal_int, ← overflowBound]
  cases converted : ofInt n with
  | exact x =>
    rw [converted] at converts
    obtain ⟨finite, sign, value⟩ := converts
    have exact_ : IsExact n := isExact_iff.mpr ⟨x, finite, value⟩
    have short := digitCount_of_lt_overflowBound exact_.lt_overflowBound
    refine ⟨by simp [exact_], isExact_iff, ?_, by simp [exact_], by simp [short], ?_, alike⟩
    · simpa [short] using exact_.lt_overflowBound
    · intro text same
      obtain rfl := eq_of_label_eq same
      obtain ⟨significand, exponent, meaning, -⟩ := meaning_of_isFinite finite
      have number := isNumberText_write x
      rw [IsNumberText, meaning, sign] at number
      obtain ⟨decimal, spelled, rounds, -⟩ := number
      exact ⟨decimal.value, x, spelled, rounds, finite, value⟩
  | inexact =>
    rw [converted] at converts
    obtain ⟨other, bound⟩ := converts
    have short := digitCount_of_lt_overflowBound bound
    simp only [reject_int, if_neg (not_lt.mpr short)]
    exact ⟨by simp [other], isExact_iff, by simpa [short] using bound, by simp [other, bound],
      by simp [short], by simp, alike⟩
  | overflow =>
    rw [converted] at converts
    have beyond : overflowBound ≤ n.natAbs := converts
    have other : ¬IsExact n := fun exact_ => absurd exact_.lt_overflowBound (not_lt.mpr beyond)
    simp only [reject_int]
    by_cases long : digitLimit < digitCount n.natAbs
    · simp only [if_pos long]
      exact ⟨by simp [other], isExact_iff, by simp [long], by simp [beyond], by simp [long],
        by simp, alike⟩
    · simp only [if_neg long]
      exact ⟨by simp [other], isExact_iff, by simp [beyond, not_lt.mp long], by simp [beyond],
        by simp [long], by simp, alike⟩

end Representation

end EnumTables
