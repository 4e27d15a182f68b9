import EnumTables.Proofs.Text.Lowered

/-!
# Lower case is kept

A character is *settled* if it is not upper-case and is lowered to itself. Lowering leads to settled
characters, or else changes nothing (`isSettled_or_eq`). It does not lead to settled characters
always: there are capital letters that have no small form.
-/

namespace EnumTables.Text

/-! ## Runs without common codes -/

namespace Run

/-- One run ends before the other begins, one has the odd codes and the other the even ones, or one
is a single code outside of the other. -/
def misses (run other : Run) : Bool :=
  -- in this form the comparison is fast enough for all pairs of runs of two tables
  Nat.blt run.last other.first || Nat.blt other.last run.first ||
  (run.stride == 2 && other.stride == 2 && run.first % 2 != other.first % 2) ||
  (run.first == run.last && !other.contains run.first)

theorem not_contains_of_misses {run other : Run} (h : run.misses other = true) {code : Nat}
    (inside : run.contains code = true) : other.contains code = false := by
  rw [Bool.eq_false_iff]
  intro there
  simp only [misses, Bool.or_eq_true, Bool.and_eq_true, beq_iff_eq, bne_iff_ne,
    Bool.not_eq_true', Nat.blt_eq] at h
  rcases h with (apart | ⟨⟨two, two'⟩, parity⟩) | ⟨single, outside⟩
  · simp only [contains, Bool.and_eq_true, decide_eq_true_eq] at inside there
    omega
  · obtain ⟨-, place, rfl⟩ := exists_of_contains inside
    obtain ⟨-, place', same⟩ := exists_of_contains there
    rw [two, two'] at same
    omega
  · simp only [contains, Bool.and_eq_true, decide_eq_true_eq] at inside
    obtain rfl : code = run.first := by omega
    rw [outside] at there
    cases there

end Run

namespace Shift

def moved (shift : Shift) : Run :=
  ⟨shift.image shift.first, shift.image shift.last, shift.stride⟩

theorem contains_moved {shift : Shift} (positive : 0 < shift.image shift.first) {code : Nat}
    (h : shift.toRun.contains code = true) : shift.moved.contains (shift.image code) = true := by
  have covered : shift.moved.covers (shift.image shift.first) (shift.image shift.last)
      shift.stride = true := by
    simp [Run.covers, moved, positive]
  exact contains_image covered h

/-- Nothing that the shift leads to is upper-case or moved by the tables of small letters. -/
def settles (shift : Shift) : Bool :=
  0 < shift.image shift.first && !shift.moved.contains 'İ'.toNat &&
    List.all CaseTable.toLower (fun other => shift.moved.misses other.toRun) &&
    CaseTable.uppercase.all (shift.moved.misses ·)

end Shift

/-! ## Settled characters -/

def IsSettled (c : Char) : Prop :=
  isUpper c = false ∧ lowerChar c = [c]

instance : DecidablePred IsSettled := fun c =>
  inferInstanceAs (Decidable (isUpper c = false ∧ lowerChar c = [c]))

theorem toLower_settles : List.all CaseTable.toLower (·.settles) = true := by
  decide +kernel

theorem isSettled_image {shift : Shift} (known : shift ∈ CaseTable.toLower) {code : Nat}
    (inside : shift.toRun.contains code = true) : IsSettled (Char.ofNat (shift.image code)) := by
  have settles := List.all_eq_true.mp toLower_settles shift known
  simp only [Shift.settles, Bool.and_eq_true, decide_eq_true_eq, Bool.not_eq_true'] at settles
  obtain ⟨⟨⟨positive, undotted⟩, unmoved⟩, notUpper⟩ := settles
  have there := Shift.contains_moved positive inside
  by_cases valid : (shift.image code).isValidChar
  · have upper : CaseTable.uppercase.contains (shift.image code) = false :=
      List.any_eq_false.mpr fun run ofUpper => by
        rw [Run.not_contains_of_misses (List.all_eq_true.mp notUpper run ofUpper) there]
        exact Bool.false_ne_true
    have simple : CaseTable.toLower.find? (shift.image code) = none := by
      rw [Shifts.find?, Option.map_eq_none_iff, List.find?_eq_none]
      intro other ofLower
      rw [Run.not_contains_of_misses (List.all_eq_true.mp unmoved other ofLower) there]
      exact Bool.false_ne_true
    have full : CaseTable.toLowerFull.lookup (shift.image code) = none := by
      rw [List.lookup_eq_none_iff, toLowerFull_eq]
      intro entry only
      obtain rfl := List.mem_singleton.mp only
      refine bne_iff_ne.mpr fun same : shift.image code = 'İ'.toNat => ?_
      rw [← same, there] at undotted
      cases undotted
    constructor
    · rw [isUpper, toNat_ofNat valid, upper]
    · rw [lowerChar, mapCase, toNat_ofNat valid, full, simple]
  · have zero : IsSettled '\x00' := by decide +kernel
    rwa [Char.ofNat, dif_neg valid]

theorem isSettled_or_eq {c lowered : Char} (h : lowered ∈ lowerChar c) :
    IsSettled lowered ∨ lowered = c ∧ lowerChar c = [c] := by
  rcases lowerChar_split c with same | dotted | ⟨shift, known, inside, image⟩
  · rw [same] at h
    exact .inr ⟨List.mem_singleton.mp h, same⟩
  · have letters : ∀ letter ∈ ['i', '\u0307'], IsSettled letter := by decide +kernel
    rw [dotted] at h
    exact .inl (letters lowered h)
  · rw [image] at h
    obtain rfl := List.mem_singleton.mp h
    exact .inl (isSettled_image known inside)

end EnumTables.Text
