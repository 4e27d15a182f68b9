import EnumTables.Proofs.Decimal.Layout
import Mathlib.Data.Rat.Defs
import Mathlib.Tactic

/-!
# Written numbers read back

A floating-point literal has a sign or none, digits, and behind them a fraction, an exponent or
both. A text has at most one reading as such a literal (`Spells.unique`), and a written decimal is
one that spells the decimal exactly, wherever the layout puts the point (`spells_unsigned`).
-/

namespace EnumTables.Decimal

/-! ## Parts of a literal -/

def IsDigits (text : List Char) : Prop :=
  text ≠ [] ∧ DigitsAnd [] text

def number (digits : List Char) : Nat :=
  Nat.ofDigitChars 10 digits 0

def IsPower (text : List Char) : Prop :=
  ∃ sign ∈ ['+', '-'], ∃ digits, IsDigits digits ∧ text = sign :: digits

def powerNumber : List Char → Int
  | '-' :: digits => -(number digits : Int)
  | _ :: digits => number digits
  | [] => 0

/-- Digits before the point, digits behind it, and the digits of an exponent with their sign. -/
structure Parts where
  whole : List Char
  fraction : Option (List Char)
  power : Option (List Char)

namespace Parts

def behind (mark : Char) : Option (List Char) → List Char
  | none => []
  | some text => mark :: text

def mantissa (parts : Parts) : List Char :=
  parts.whole ++ behind '.' parts.fraction

def text (parts : Parts) : List Char :=
  parts.mantissa ++ behind 'e' parts.power

/-- Whole digits are no floating-point literal without a fraction or an exponent. -/
structure IsFloat (parts : Parts) : Prop where
  whole : IsDigits parts.whole
  fraction : ∀ digits ∈ parts.fraction, IsDigits digits
  power : ∀ power ∈ parts.power, IsPower power
  notBare : parts.fraction.isSome ∨ parts.power.isSome

def value (parts : Parts) : ℚ :=
  (number parts.whole + parts.fraction.elim 0 fun digits => (number digits : ℚ) / 10 ^ digits.length) *
    10 ^ parts.power.elim 0 powerNumber

end Parts

def signText (negative : Bool) : List Char :=
  if negative then ['-'] else []

def SpellsMagnitude (text : List Char) (q : ℚ) : Prop :=
  ∃ parts : Parts, parts.IsFloat ∧ text = parts.text ∧ parts.value = q

def Spells (text : List Char) (negative : Bool) (q : ℚ) : Prop :=
  ∃ unsigned, text = signText negative ++ unsigned ∧ SpellsMagnitude unsigned q

/-! ## At most one reading -/

theorem digitChar_ne {c : Char} (h : c.toNat < 48 ∨ 57 < c.toNat) (digit : Nat) :
    digitChar digit ≠ c := by
  rintro rfl
  rw [toNat_digitChar] at h
  omega

theorem IsDigits.notMem {text : List Char} (h : IsDigits text) {c : Char}
    (other : c.toNat < 48 ∨ 57 < c.toNat) : c ∉ text := by
  intro inside
  rcases h.2 c inside with ⟨digit, rfl⟩ | nowhere
  · exact digitChar_ne other digit rfl
  · exact absurd nowhere List.not_mem_nil

namespace Parts

theorem takeWhile_behind {mark : Char} {front : List Char} (outside : mark ∉ front)
    (rest : Option (List Char)) : (front ++ behind mark rest).takeWhile (· != mark) = front := by
  have each : ∀ c ∈ front, (c != mark) = true := fun c inside =>
    bne_iff_ne.mpr fun same => outside (same ▸ inside)
  rw [List.takeWhile_append_of_pos each]
  cases rest <;> simp [behind]

theorem behind_inj {mark : Char} {front front' : List Char} {rest rest' : Option (List Char)}
    (outside : mark ∉ front) (outside' : mark ∉ front')
    (same : front ++ behind mark rest = front' ++ behind mark rest') :
    front = front' ∧ rest = rest' := by
  have fronts := congrArg (List.takeWhile (· != mark)) same
  rw [takeWhile_behind outside, takeWhile_behind outside'] at fronts
  subst fronts
  refine ⟨rfl, ?_⟩
  have backs := List.append_cancel_left same
  cases rest <;> cases rest' <;> simp_all [behind]

variable {parts parts' : Parts}

theorem IsFloat.e_notMem (h : parts.IsFloat) : 'e' ∉ parts.mantissa := by
  obtain ⟨whole, fraction, power⟩ := parts
  have before := h.whole.notMem (c := 'e') (by decide)
  cases fraction with
  | none => simpa [mantissa, behind] using before
  | some digits =>
    have after := (h.fraction digits rfl).notMem (c := 'e') (by decide)
    simpa [mantissa, behind] using ⟨before, after⟩

theorem text_injective (h : parts.IsFloat) (h' : parts'.IsFloat) (same : parts.text = parts'.text) :
    parts = parts' := by
  obtain ⟨mantissa, power⟩ := behind_inj h.e_notMem h'.e_notMem same
  obtain ⟨whole, fraction⟩ := behind_inj (h.whole.notMem (by decide)) (h'.whole.notMem (by decide))
    mantissa
  obtain ⟨_, _, _⟩ := parts
  obtain ⟨_, _, _⟩ := parts'
  simp_all

theorem IsFloat.head_ne (h : parts.IsFloat) {c : Char} (other : c.toNat < 48 ∨ 57 < c.toNat)
    (rest : List Char) : parts.text ≠ c :: rest := by
  intro same
  obtain ⟨first, more, whole⟩ := List.exists_cons_of_ne_nil h.whole.1
  refine h.whole.notMem other ?_
  rw [text, mantissa, whole, List.cons_append, List.cons_append] at same
  rw [whole, (List.cons.inj same).1]
  exact List.mem_cons_self

end Parts

theorem SpellsMagnitude.unique {text : List Char} {q q' : ℚ} (h : SpellsMagnitude text q)
    (h' : SpellsMagnitude text q') : q = q' := by
  obtain ⟨parts, float, rfl, rfl⟩ := h
  obtain ⟨parts', float', same, rfl⟩ := h'
  exact congrArg _ (Parts.text_injective float float' same)

theorem SpellsMagnitude.head_ne {text : List Char} {q : ℚ} (h : SpellsMagnitude text q) {c : Char}
    (other : c.toNat < 48 ∨ 57 < c.toNat) (rest : List Char) : text ≠ c :: rest := by
  obtain ⟨parts, float, rfl, -⟩ := h
  exact float.head_ne other rest

theorem Spells.unique {text : List Char} {negative negative' : Bool} {q q' : ℚ}
    (h : Spells text negative q) (h' : Spells text negative' q') : negative = negative' ∧ q = q' := by
  obtain ⟨unsigned, rfl, spelled⟩ := h
  obtain ⟨unsigned', same, spelled'⟩ := h'
  cases negative with
  | false =>
    cases negative' with
    | false =>
      obtain rfl : unsigned = unsigned' := same
      exact ⟨rfl, spelled.unique spelled'⟩
    | true => exact absurd same (spelled.head_ne (by decide) _)
  | true =>
    cases negative' with
    | false => exact absurd same.symm (spelled'.head_ne (by decide) _)
    | true =>
      obtain rfl := (List.cons.inj same).2
      exact ⟨rfl, spelled.unique spelled'⟩

theorem Spells.head_ne {text : List Char} {negative : Bool} {q : ℚ} (h : Spells text negative q)
    {c : Char} (other : c.toNat < 48 ∨ 57 < c.toNat) (unsigned : c ≠ '-') (rest : List Char) :
    text ≠ c :: rest := by
  obtain ⟨magnitude, rfl, spelled⟩ := h
  cases negative with
  | false => exact spelled.head_ne other rest
  | true => exact fun same => unsigned (List.cons.inj same).1.symm

/-! ## Numbers of digits -/

theorem number_append (left right : List Char) :
    number (left ++ right) = number left * 10 ^ right.length + number right := by
  unfold number
  rw [Nat.ofDigitChars_append, Nat.ofDigitChars_eq_ofDigitChars_zero, Nat.mul_comm]

theorem number_zeros (count : Nat) : number (List.replicate count '0') = 0 := by
  unfold number
  rw [Nat.ofDigitChars_replicate_zero, Nat.mul_zero]

theorem number_natDigits (n : Nat) : number (natDigits n) = n := by
  induction n using Nat.strongRecOn with
  | ind n ih =>
    have last (digit : Nat) : number [digitChar digit] = digit % 10 := by
      rw [number, Nat.ofDigitChars_cons, toNat_digitChar]
      simp
    rcases Nat.lt_or_ge n 10 with small | large
    · rw [natDigits_of_lt small, last, Nat.mod_eq_of_lt small]
    · rw [natDigits_of_le large, number_append, ih (n / 10) (by omega), last]
      exact Nat.div_add_mod' n 10

theorem isDigits_natDigits (n : Nat) : IsDigits (natDigits n) :=
  ⟨natDigits_ne_nil n, .natDigits n⟩

theorem isDigits_zero : IsDigits ['0'] :=
  ⟨List.cons_ne_nil _ _, .zeros 1⟩

theorem IsDigits.zeros_append {text : List Char} (h : IsDigits text) (count : Nat) :
    IsDigits (List.replicate count '0' ++ text) :=
  ⟨List.append_ne_nil_of_right_ne_nil _ h.1, .append (.zeros _) h.2⟩

theorem IsDigits.append_zeros {text : List Char} (h : IsDigits text) (count : Nat) :
    IsDigits (text ++ List.replicate count '0') :=
  ⟨List.append_ne_nil_of_left_ne_nil h.1 _, h.2.append (.zeros _)⟩

theorem number_zeros_append (count : Nat) (text : List Char) :
    number (List.replicate count '0' ++ text) = number text := by
  rw [number_append, number_zeros, Nat.zero_mul, Nat.zero_add]

theorem value_of_fraction (whole digits : List Char) (power : Option (List Char)) :
    (Parts.mk whole (some digits) power).value =
      number (whole ++ digits) * 10 ^ (power.elim 0 powerNumber - digits.length) := by
  have unit : (10 : ℚ) ^ digits.length ≠ 0 := pow_ne_zero _ (by norm_num)
  rw [Parts.value, number_append, zpow_sub₀ (by norm_num), zpow_natCast]
  simp only [Option.elim]
  field_simp
  push_cast
  ring

theorem spells_point {whole fraction : List Char} (before : IsDigits whole)
    (after : IsDigits fraction) : SpellsMagnitude (whole ++ '.' :: fraction)
      (number (whole ++ fraction) * 10 ^ (-(fraction.length : Int))) := by
  refine ⟨⟨whole, some fraction, none⟩, ⟨before, ?_, ?_, Or.inl rfl⟩, ?_, ?_⟩
  · rintro _ ⟨⟩
    exact after
  · rintro _ ⟨⟩
  · simp [Parts.text, Parts.mantissa, Parts.behind]
  · rw [value_of_fraction, Option.elim, zero_sub]

theorem spells_power {whole power : List Char} (before : IsDigits whole) (signed : IsPower power) :
    SpellsMagnitude (whole ++ 'e' :: power) (number whole * 10 ^ powerNumber power) := by
  refine ⟨⟨whole, none, some power⟩, ⟨before, ?_, ?_, Or.inr rfl⟩, ?_, ?_⟩
  · rintro _ ⟨⟩
  · rintro _ ⟨⟩
    exact signed
  · simp [Parts.text, Parts.mantissa, Parts.behind]
  · rw [Parts.value, Option.elim, Option.elim, add_zero]

theorem spells_point_power {whole fraction power : List Char} (before : IsDigits whole)
    (after : IsDigits fraction) (signed : IsPower power) :
    SpellsMagnitude (whole ++ '.' :: fraction ++ 'e' :: power)
      (number (whole ++ fraction) * 10 ^ (powerNumber power - fraction.length)) := by
  refine ⟨⟨whole, some fraction, some power⟩, ⟨before, ?_, ?_, Or.inl rfl⟩, ?_, ?_⟩
  · rintro _ ⟨⟩
    exact after
  · rintro _ ⟨⟩
    exact signed
  · simp [Parts.text, Parts.mantissa, Parts.behind]
  · rw [value_of_fraction, Option.elim]

namespace Layout

theorem spells_whole (n count : Nat) :
    SpellsMagnitude (natDigits n ++ List.replicate count '0' ++ ['.', '0']) (n * 10 ^ count) := by
  have digits := isDigits_natDigits n
  have zero : number ['0'] = 0 := number_zeros 1
  have value : (n * 10 ^ count : ℚ) = number (natDigits n ++ List.replicate count '0' ++ ['0']) *
      10 ^ (-(['0'].length : Int)) := by
    rw [number_append, number_append, number_natDigits, number_zeros, zero, List.length_replicate,
      zpow_neg, zpow_natCast]
    push_cast
    field_simp
    ring
  rw [value]
  exact spells_point (digits.append_zeros count) isDigits_zero

theorem spells_inner {n after : Nat} (some_ : 0 < after) (inner : after < (natDigits n).length) :
    SpellsMagnitude ((natDigits n).take ((natDigits n).length - after) ++
      '.' :: (natDigits n).drop ((natDigits n).length - after)) (n * 10 ^ (-(after : Int))) := by
  have digits := isDigits_natDigits n
  have length : ((natDigits n).drop ((natDigits n).length - after)).length = after := by
    rw [List.length_drop]
    omega
  have before : (natDigits n).take ((natDigits n).length - after) ≠ [] := by
    refine List.ne_nil_of_length_pos ?_
    rw [List.length_take]
    omega
  have spelled := spells_point ⟨before, digits.2.of_subset fun _ => List.mem_of_mem_take⟩
    ⟨List.ne_nil_of_length_pos (length.symm ▸ some_),
      digits.2.of_subset fun _ => List.mem_of_mem_drop⟩
  rwa [List.take_append_drop, number_natDigits, length] at spelled

theorem spells_outer {n after : Nat} (outer : (natDigits n).length ≤ after) :
    SpellsMagnitude ('0' :: '.' :: List.replicate (after - (natDigits n).length) '0' ++ natDigits n)
      (n * 10 ^ (-(after : Int))) := by
  have spelled := spells_point isDigits_zero
    ((isDigits_natDigits n).zeros_append (after - (natDigits n).length))
  have zero : number ['0'] = 0 := number_zeros 1
  rw [number_append, number_zeros_append, number_natDigits, zero, Nat.zero_mul, Nat.zero_add,
    List.length_append, List.length_replicate, Nat.sub_add_cancel outer] at spelled
  exact spelled

theorem spells_positional (n : Nat) (exponent : Int) :
    SpellsMagnitude (positional (natDigits n) exponent) (n * 10 ^ exponent) := by
  unfold positional
  split
  · next nonnegative =>
    obtain ⟨count, rfl⟩ := Int.eq_ofNat_of_zero_le nonnegative
    exact spells_whole n count
  · next negative =>
    obtain ⟨after, rfl⟩ : ∃ after : Nat, exponent = -after := ⟨(-exponent).toNat, by omega⟩
    rw [neg_neg, Int.toNat_natCast]
    simp only
    split
    · next inner => exact spells_inner (by omega) inner
    · next outer => exact spells_outer (not_lt.mp outer)

theorem isPower_signed {sign : Char} (signed : sign ∈ ['+', '-']) (count n : Nat) :
    IsPower (sign :: (List.replicate count '0' ++ natDigits n)) :=
  ⟨sign, signed, _, (isDigits_natDigits n).zeros_append count, rfl⟩

theorem powerNumber_signed (exponent : Int) (count : Nat) :
    powerNumber ((if exponent < 0 then '-' else '+') ::
      (List.replicate count '0' ++ natDigits exponent.natAbs)) = exponent := by
  have digits : number (List.replicate count '0' ++ natDigits exponent.natAbs) =
      exponent.natAbs := by
    rw [number_zeros_append, number_natDigits]
  split
  · show -(number _ : Int) = exponent
    omega
  · show (number _ : Int) = exponent
    omega

theorem spells_scientific (width n : Nat) (power : Int) :
    SpellsMagnitude (scientific width (natDigits n) power)
      (n * 10 ^ (power - ((natDigits n).length - 1 : Nat))) := by
  have digits := isDigits_natDigits n
  have value := number_natDigits n
  have signed : (if power < 0 then '-' else '+') ∈ ['+', '-'] := by split <;> decide
  have power_ := isPower_signed signed (width - (natDigits power.natAbs).length) power.natAbs
  have exponent := powerNumber_signed power (width - (natDigits power.natAbs).length)
  unfold scientific
  generalize natDigits n = text at digits value ⊢
  simp only
  match text with
  | [] => exact absurd rfl digits.1
  | [first] =>
    have spelled := spells_power digits power_
    rw [exponent, value] at spelled
    simpa using spelled
  | first :: second :: rest =>
    have before : IsDigits [first] :=
      ⟨List.cons_ne_nil _ _, digits.2.of_subset fun _ inside => by simp_all⟩
    have after : IsDigits (second :: rest) :=
      ⟨List.cons_ne_nil _ _, digits.2.of_subset fun _ => List.mem_cons_of_mem _⟩
    have joined : number ([first] ++ second :: rest) = n := value
    have spelled := spells_point_power before after power_
    rw [exponent, joined] at spelled
    simpa using spelled

theorem spells_unsigned (layout : Layout) (decimal : Scaled) :
    SpellsMagnitude (layout.unsigned decimal) (decimal.digits * 10 ^ decimal.exponent) := by
  simp only [unsigned]
  split
  · exact spells_positional _ _
  · have spelled := spells_scientific layout.exponentWidth decimal.digits
      (decimal.exponent + (natDigits decimal.digits).length - 1)
    have some_ := List.length_pos_iff.mpr (natDigits_ne_nil decimal.digits)
    have exponent : decimal.exponent + (natDigits decimal.digits).length - 1 -
        ((natDigits decimal.digits).length - 1 : Nat) = decimal.exponent := by omega
    rwa [exponent] at spelled

end Layout

end EnumTables.Decimal
