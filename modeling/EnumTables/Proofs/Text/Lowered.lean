import EnumTables.Proofs.Text.Marks

/-!
# Names in lower case

A character of a name is lowered to characters of names, and one that begins a name to characters
that begin one (`lowerChar_isNamePart`, `lowerChar_isNameStart`). An underscore comes from nothing
but an underscore (`lowerChar_underscore`).
-/

namespace EnumTables.Text

/-! ## Runs of the tables -/

namespace Run

def covers (run : Run) (first last stride : Nat) : Bool :=
  last ≤ run.last && run.first ≤ first && 0 < run.first && stride % run.stride == 0 &&
    (first - run.first) % run.stride == 0

def avoids (run other : Run) : Bool :=
  run.last < other.first || other.last < run.first

def codes (run : Run) : List Nat :=
  (List.range ((run.last - run.first) / run.stride + 1)).map fun place =>
    run.first + run.stride * place

theorem exists_of_contains {run : Run} {code : Nat} (h : run.contains code = true) :
    code ≤ run.last ∧ ∃ place, code = run.first + run.stride * place := by
  simp only [contains, Bool.and_eq_true, decide_eq_true_eq, beq_iff_eq] at h
  obtain ⟨⟨first, last⟩, stride⟩ := h
  obtain ⟨place, between⟩ := Nat.dvd_of_mod_eq_zero stride
  exact ⟨last, place, by omega⟩

theorem mem_codes {run : Run} {code : Nat} (stride : 0 < run.stride)
    (h : run.contains code = true) : code ∈ run.codes := by
  obtain ⟨last, place, rfl⟩ := exists_of_contains h
  refine List.mem_map.mpr ⟨place, List.mem_range.mpr ?_, rfl⟩
  have bound : place ≤ (run.last - run.first) / run.stride := by
    rw [Nat.le_div_iff_mul_le stride, Nat.mul_comm]
    omega
  omega

theorem not_contains {run other : Run} (h : run.avoids other = true) {code : Nat}
    (inside : other.contains code = true) : run.contains code = false := by
  simp only [contains, avoids, Bool.and_eq_true, Bool.or_eq_true, decide_eq_true_eq,
    Bool.and_eq_false_iff, decide_eq_false_iff_not] at *
  omega

end Run

namespace Shift

def image (shift : Shift) (code : Nat) : Nat :=
  ((code : Int) + shift.distance).toNat

/-- The shift ends at characters that begin names, or begins at no character of a name. -/
def keepsNames (shift : Shift) : Bool :=
  NameTable.starts.any (·.covers (shift.image shift.first) (shift.image shift.last) shift.stride) ||
  (NameTable.starts.all (·.avoids shift.toRun) && NameTable.others.all (·.avoids shift.toRun)) ||
  (0 < shift.stride && shift.codes.all fun code => NameTable.starts.contains (shift.image code))

theorem contains_image {shift : Shift} {run : Run}
    (covered : run.covers (shift.image shift.first) (shift.image shift.last) shift.stride = true)
    {code : Nat} (h : shift.toRun.contains code = true) :
    run.contains (shift.image code) = true := by
  obtain ⟨last, place, rfl⟩ := Run.exists_of_contains h
  simp only [Run.covers, Bool.and_eq_true, decide_eq_true_eq, beq_iff_eq] at covered
  obtain ⟨⟨⟨⟨upper, lower⟩, positive⟩, strides⟩, offset⟩ := covered
  simp only [Run.contains, Bool.and_eq_true, decide_eq_true_eq, beq_iff_eq]
  have moved : shift.image (shift.first + shift.stride * place) =
      shift.image shift.first + shift.stride * place := by
    unfold image at *
    push_cast
    omega
  have below : shift.image (shift.first + shift.stride * place) ≤ shift.image shift.last := by
    unfold image
    omega
  have apart : shift.image (shift.first + shift.stride * place) - run.first =
      (shift.image shift.first - run.first) + shift.stride * place := by
    omega
  refine ⟨⟨by omega, by omega⟩, ?_⟩
  rw [apart]
  exact Nat.mod_eq_zero_of_dvd (Nat.dvd_add (Nat.dvd_of_mod_eq_zero offset)
    (Dvd.dvd.mul_right (Nat.dvd_of_mod_eq_zero strides) place))

end Shift

/-! ## Characters of names -/

theorem toLower_keepsNames : List.all CaseTable.toLower (·.keepsNames) = true := by
  decide +kernel

theorem toLowerFull_eq : CaseTable.toLowerFull = [('İ'.toNat, ['i'.toNat, '\u0307'.toNat])] := by
  decide

theorem isNamePart_of_isNameStart {c : Char} (h : isNameStart c = true) : isNamePart c = true := by
  rw [isNamePart, h, Bool.true_or]

theorem isNameStart_ofNat {code : Nat} (h : NameTable.starts.contains code = true) :
    isNameStart (Char.ofNat code) = true := by
  have bounds : ∀ run ∈ NameTable.starts, run.last < 0xD800 ∨
      0xDFFF < run.first ∧ run.last < 0x110000 := by decide +kernel
  obtain ⟨run, known, inside⟩ := List.any_eq_true.mp h
  have valid : code.isValidChar := by
    have bound := bounds run known
    simp only [Run.contains, Bool.and_eq_true, decide_eq_true_eq] at inside
    unfold Nat.isValidChar
    omega
  rw [isNameStart, toNat_ofNat valid]
  exact h

theorem starts_contains_image {c : Char} (part : isNamePart c = true) {shift : Shift}
    (known : shift ∈ CaseTable.toLower) (inside : shift.toRun.contains c.toNat = true) :
    NameTable.starts.contains (shift.image c.toNat) = true := by
  have keeps := List.all_eq_true.mp toLower_keepsNames shift known
  simp only [Shift.keepsNames, Bool.or_eq_true, Bool.and_eq_true, decide_eq_true_eq] at keeps
  rcases keeps with (covered | avoided) | ⟨stride, each⟩
  · obtain ⟨run, ofStarts, covers⟩ := List.any_eq_true.mp covered
    exact List.any_eq_true.mpr ⟨run, ofStarts, Shift.contains_image covers inside⟩
  · -- the shift is one of signs that stand in no name
    have outside : ∀ points : CodePoints, points.all (·.avoids shift.toRun) = true →
        points.contains c.toNat = false := by
      intro points avoids
      refine List.any_eq_false.mpr fun run ofPoints => ?_
      rw [Run.not_contains (List.all_eq_true.mp avoids run ofPoints) inside]
      exact Bool.false_ne_true
    rw [isNamePart, isNameStart, outside _ avoided.1, outside _ avoided.2] at part
    exact absurd part Bool.false_ne_true
  · exact List.all_eq_true.mp each _ (Run.mem_codes stride inside)

theorem lowerChar_split (c : Char) :
    lowerChar c = [c] ∨ lowerChar c = ['i', '\u0307'] ∨
      ∃ shift ∈ CaseTable.toLower, shift.toRun.contains c.toNat = true ∧
        lowerChar c = [Char.ofNat (shift.image c.toNat)] := by
  unfold lowerChar mapCase
  rw [toLowerFull_eq]
  split
  · next codes found =>
    obtain ⟨before, after, entries, -⟩ := List.lookup_eq_some_iff.mp found
    have only : (c.toNat, codes) ∈ [('İ'.toNat, ['i'.toNat, '\u0307'.toNat])] := by
      rw [entries]
      exact List.mem_append_right _ List.mem_cons_self
    obtain ⟨-, rfl⟩ := Prod.mk.inj (List.mem_singleton.mp only)
    exact .inr (.inl (by decide))
  · split
    · next code found =>
      obtain ⟨shift, first, rfl⟩ := Option.map_eq_some_iff.mp found
      have inside := List.find?_some first
      exact .inr (.inr ⟨shift, List.mem_of_find?_eq_some first, inside, rfl⟩)
    · exact .inl rfl

theorem lowerChar_cases {c : Char} (part : isNamePart c = true) :
    lowerChar c = [c] ∨ lowerChar c = ['i', '\u0307'] ∨
      ∃ lowered, lowerChar c = [lowered] ∧ isNameStart lowered = true := by
  rcases lowerChar_split c with same | dotted | ⟨shift, known, inside, image⟩
  · exact .inl same
  · exact .inr (.inl dotted)
  · exact .inr (.inr ⟨_, image, isNameStart_ofNat (starts_contains_image part known inside)⟩)

theorem lowerChar_isNamePart {c : Char} (part : isNamePart c = true) :
    ∀ lowered ∈ lowerChar c, isNamePart lowered = true := by
  have letter : ∀ lowered ∈ ['i', '\u0307'], isNamePart lowered = true := by decide +kernel
  rcases lowerChar_cases part with same | dotted | ⟨lowered, image, starts⟩
  · simpa [same] using part
  · rw [dotted]
    exact letter
  · simpa [image] using isNamePart_of_isNameStart starts

theorem lowerChar_isNameStart {c : Char} (starts : isNameStart c = true) :
    ∃ first rest, lowerChar c = first :: rest ∧ isNameStart first = true := by
  have letter : isNameStart 'i' = true := by decide +kernel
  rcases lowerChar_cases (isNamePart_of_isNameStart starts) with same | dotted | ⟨lowered, image, h⟩
  · exact ⟨c, [], same, starts⟩
  · exact ⟨'i', ['\u0307'], dotted, letter⟩
  · exact ⟨lowered, [], image, h⟩

theorem lowerChar_underscore {c : Char} (h : '_' ∈ lowerChar c) : c = '_' := by
  have table : avoids CaseTable.toLowerFull CaseTable.toLower '_'.toNat = true := by decide +kernel
  exact (eq_of_mem_mapCase table (by decide) h).symm

end EnumTables.Text
