import EnumTables.Decimal.Layout
import EnumTables.Proofs.Decimal.Numeral

/-!
# Characters of written numbers

A numeral has no characters but digits and a sign (`intDigits_digitsAnd`). A written floating-point
number has besides them only a point, an exponent mark, and the words for the numbers that have no
digits, so that what holds of these characters holds of all in the text (`write_forall`).
-/

namespace EnumTables.Decimal

/-- Every character of a text is one of the given ones or a digit. -/
def DigitsAnd (others : List Char) (text : List Char) : Prop :=
  ∀ c ∈ text, (∃ digit, c = digitChar digit) ∨ c ∈ others

namespace DigitsAnd

variable {others left right : List Char}

theorem nil : DigitsAnd others [] := fun _ h => absurd h List.not_mem_nil

theorem cons {c : Char} (h : c ∈ others) (rest : DigitsAnd others right) :
    DigitsAnd others (c :: right) := by
  intro d inside
  rcases List.mem_cons.mp inside with rfl | later
  · exact Or.inr h
  · exact rest d later

theorem append (hl : DigitsAnd others left) (hr : DigitsAnd others right) :
    DigitsAnd others (left ++ right) := by
  intro c inside
  exact (List.mem_append.mp inside).elim (hl c) (hr c)

theorem of_subset (h : DigitsAnd others right) (sub : ∀ c ∈ left, c ∈ right) :
    DigitsAnd others left :=
  fun c inside => h c (sub c inside)

theorem natDigits (n : Nat) : DigitsAnd others (natDigits n) :=
  fun _ h => Or.inl (exists_digit_of_mem_natDigits h)

theorem zeros (count : Nat) : DigitsAnd others (List.replicate count '0') :=
  fun _ h => Or.inl ⟨0, List.eq_of_mem_replicate h⟩

theorem zero (rest : DigitsAnd others right) : DigitsAnd others ('0' :: right) :=
  (zeros 1).append rest

end DigitsAnd

theorem DigitsAnd.forall {others text : List Char} (h : DigitsAnd others text)
    {holds : Char → Prop} (digits : ∀ digit < 10, holds (digitChar digit))
    (rest : ∀ c ∈ others, holds c) : ∀ c ∈ text, holds c := by
  intro c inside
  rcases h c inside with ⟨digit, rfl⟩ | other
  · have reduced : digitChar digit = digitChar (digit % 10) := by simp [digitChar]
    rw [reduced]
    exact digits _ (Nat.mod_lt _ (by norm_num))
  · exact rest c other

theorem intDigits_digitsAnd (n : Int) : DigitsAnd ['-'] (intDigits n) := by
  unfold intDigits
  split
  · exact .cons List.mem_cons_self (.natDigits _)
  · exact .natDigits _

namespace Layout

def separators : List Char := ['-', '+', '.', 'e']

theorem positional_digitsAnd {digits : List Char} (exponent : Int)
    (h : DigitsAnd separators digits) : DigitsAnd separators (positional digits exponent) := by
  have point : '.' ∈ separators := by decide
  unfold positional
  split
  · exact (h.append (.zeros _)).append (.cons point (.zero .nil))
  · simp only
    split
    · exact (h.of_subset fun _ => List.mem_of_mem_take).append
        (.cons point (h.of_subset fun _ => List.mem_of_mem_drop))
    · exact .zero (.cons point ((DigitsAnd.zeros _).append h))

theorem mantissa_digitsAnd (digits : List Char) :
    DigitsAnd separators digits → DigitsAnd separators (match digits with
      | first :: second :: rest => first :: '.' :: second :: rest
      | short => short) := by
  intro h
  match digits with
  | [] | [_] => exact h
  | first :: second :: rest =>
    have point : '.' ∈ separators := by decide
    have front : DigitsAnd separators [first] := h.of_subset fun c inside => by simp_all
    exact front.append (.cons point (h.of_subset fun _ => List.mem_cons_of_mem _))

theorem scientific_digitsAnd {digits : List Char} (width : Nat) (exponent : Int)
    (h : DigitsAnd separators digits) :
    DigitsAnd separators (scientific width digits exponent) := by
  have sign : (if exponent < 0 then '-' else '+') ∈ separators := by
    split <;> decide
  have power : DigitsAnd separators (natDigits exponent.natAbs) := .natDigits _
  have mark : 'e' ∈ separators := by decide
  unfold scientific
  exact ((mantissa_digitsAnd digits h).append (.cons mark (.cons sign (.zeros _)))).append power

theorem unsigned_digitsAnd (layout : Layout) (decimal : Scaled) :
    DigitsAnd separators (layout.unsigned decimal) := by
  have digits : DigitsAnd separators (natDigits decimal.digits) := .natDigits _
  simp only [unsigned]
  split
  · exact positional_digitsAnd _ digits
  · exact scientific_digitsAnd _ _ digits

theorem write_forall {layout : Layout} {holds : Char → Prop}
    (digits : ∀ digit < 10, holds (digitChar digit)) (others : ∀ c ∈ separators, holds c)
    (words : ∀ word ∈ [layout.nan, layout.infinity, layout.negativeInfinity],
      ∀ c ∈ word.toList, holds c) (x : Binary64) : ∀ c ∈ (layout.write x).toList, holds c := by
  unfold write
  split
  · exact words _ (by simp)
  · exact words _ (by simp)
  · exact words _ (by simp)
  · next negative significand exponent meaning =>
    have sign : DigitsAnd separators (if negative then ['-'] else []) := by
      split
      · exact .cons (by decide) .nil
      · exact .nil
    rw [String.toList_ofList]
    exact (sign.append (unsigned_digitsAnd layout _)).forall digits others

theorem positional_ne_nil (digits : List Char) (exponent : Int) :
    positional digits exponent ≠ [] := by
  simp only [positional]
  split
  · simp
  · split <;> simp

theorem unsigned_ne_nil (layout : Layout) (decimal : Scaled) : layout.unsigned decimal ≠ [] := by
  simp only [unsigned]
  split
  · exact positional_ne_nil _ _
  · simp [scientific]

theorem write_ne_empty {layout : Layout}
    (words : ∀ word ∈ [layout.nan, layout.infinity, layout.negativeInfinity], word ≠ "")
    (x : Binary64) : layout.write x ≠ "" := by
  unfold write
  split
  · exact words _ (by simp)
  · exact words _ (by simp)
  · exact words _ (by simp)
  · simp [unsigned_ne_nil]

end Layout

end EnumTables.Decimal
