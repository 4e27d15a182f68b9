import EnumTables.Text.Case
import EnumTables.Text.Name
import Mathlib.Tactic

/-!
# Marks and words

Marks set the parts of generated text off from each other. A word has none of them. Every name of
the described modules is a word (`isWord_of_isNamePart`), and a change of case turns nothing into a
mark (`upper_avoids`, `lowerChar_avoids`).
-/

namespace EnumTables.Text

/-- The characters of a text are looked at one by one, and not all that there are. -/
instance (priority := 2000) decidableForallMem {holds : Char → Prop} [DecidablePred holds]
    (text : List Char) : Decidable (∀ c ∈ text, holds c) :=
  List.decidableBAll holds text

/-- Characters that set the parts of generated text off from each other. -/
def marks : List Char :=
  ['\n', ' ', '"', ',', ':', ';', '(', ')', '[', ']', '\x7b', '\x7d']

def IsWord (text : String) : Prop :=
  text ≠ "" ∧ ∀ c ∈ text.toList, c ∉ marks

instance : DecidablePred IsWord := fun text =>
  inferInstanceAs (Decidable (text ≠ "" ∧ ∀ c ∈ text.toList, c ∉ marks))

namespace IsWord

theorem notMem {text : String} (word : IsWord text) {c : Char} (h : c ∈ marks) :
    c ∉ text.toList :=
  fun inside => word.2 c inside h

theorem append {left right : String} (hl : IsWord left) (hr : IsWord right) :
    IsWord (left ++ right) := by
  refine ⟨?_, ?_⟩
  · intro h
    exact hl.1 (String.append_eq_empty_iff.mp h).1
  · intro c h
    rw [String.toList_append, List.mem_append] at h
    exact h.elim (hl.2 c) (hr.2 c)

end IsWord

theorem isNamePart_mark : ∀ c ∈ marks, isNamePart c = false := by decide +kernel

theorem isWord_of_isNamePart {text : String} (nonempty : text ≠ "")
    (parts : ∀ c ∈ text.toList, isNamePart c = true) : IsWord text := by
  refine ⟨nonempty, fun c inside mark => ?_⟩
  have part := parts c inside
  rw [isNamePart_mark c mark] at part
  exact Bool.false_ne_true part

/-! ## Characters by their codes -/

theorem toNat_ofNat {code : Nat} (valid : code.isValidChar) : (Char.ofNat code).toNat = code := by
  rw [Char.ofNat, dif_pos valid]
  rfl

theorem eq_toNat_of_ofNat {code : Nat} {c : Char} (h : Char.ofNat code = c) (first : c ≠ '\x00') :
    code = c.toNat := by
  by_cases valid : code.isValidChar
  · rw [← h, toNat_ofNat valid]
  · rw [Char.ofNat, dif_neg valid] at h
    exact absurd h.symm first

/-! ## Change of case -/

def Shift.avoids (shift : Shift) (code : Nat) : Bool :=
  decide ((code : Int) - shift.distance < shift.first ∨ shift.last < (code : Int) - shift.distance)

def avoids (full : List (Nat × List Nat)) (simple : Shifts) (code : Nat) : Bool :=
  full.all (fun entry => !entry.2.contains code) && List.all simple (·.avoids code)

theorem Shifts.find?_ne {shifts : Shifts} {code image target : Nat}
    (avoided : List.all shifts (·.avoids target) = true) (positive : 0 < target)
    (found : shifts.find? code = some image) : image ≠ target := by
  intro equal
  subst equal
  obtain ⟨shift, first, rfl⟩ := Option.map_eq_some_iff.mp found
  have inside := List.find?_some first
  have away := List.all_eq_true.mp avoided shift (List.mem_of_find?_eq_some first)
  simp only [Run.contains, Bool.and_eq_true, decide_eq_true_eq] at inside
  simp only [Shift.avoids, decide_eq_true_eq] at away
  omega

theorem eq_of_mem_mapCase {full : List (Nat × List Nat)} {simple : Shifts} {c target : Char}
    (avoided : avoids full simple target.toNat = true) (first : target ≠ '\x00')
    (h : target ∈ mapCase full simple c) : target = c := by
  have positive : 0 < target.toNat := by
    refine Nat.pos_of_ne_zero fun zero => first ?_
    rw [← Char.ofNat_toNat target, zero]
  simp only [avoids, Bool.and_eq_true] at avoided
  unfold mapCase at h
  split at h
  · -- several characters, all taken from the table
    next codes found =>
    obtain ⟨code, inside, equal⟩ := List.mem_map.mp h
    obtain ⟨before, after, entries, -⟩ := List.lookup_eq_some_iff.mp found
    have entry := List.all_eq_true.mp avoided.1 (c.toNat, codes) (by simp [entries])
    rw [eq_toNat_of_ofNat equal first] at inside
    simp [inside] at entry
  · split at h
    · next code found =>
      rw [List.mem_singleton] at h
      exact absurd (eq_toNat_of_ofNat h.symm first)
        (Shifts.find?_ne avoided.2 positive found)
    · exact List.mem_singleton.mp h

theorem lowerChar_avoids {c : Char} : ∀ mark ∈ marks, mark ∈ lowerChar c → mark = c := by
  have tables : ∀ mark ∈ marks,
      avoids CaseTable.toLowerFull CaseTable.toLower mark.toNat = true ∧ mark ≠ '\x00' := by
    decide +kernel
  intro mark h inside
  exact eq_of_mem_mapCase (tables mark h).1 (tables mark h).2 inside

theorem upperChar_avoids {c : Char} : ∀ mark ∈ marks, mark ∈ upperChar c → mark = c := by
  have tables : ∀ mark ∈ marks,
      avoids CaseTable.toUpperFull CaseTable.toUpper mark.toNat = true ∧ mark ≠ '\x00' := by
    decide +kernel
  intro mark h inside
  exact eq_of_mem_mapCase (tables mark h).1 (tables mark h).2 inside

theorem upper_avoids {text : List Char} {mark : Char} (h : mark ∈ marks)
    (inside : mark ∈ upper text) : mark ∈ text := by
  obtain ⟨c, member, image⟩ := List.mem_flatMap.mp inside
  rw [upperChar_avoids mark h image]
  exact member

end EnumTables.Text
