import EnumTables.Value.Bits
import Mathlib.Tactic

/-!
# Iteration over sets of bits

Where a set of bits can be iterated over depends on its bits only, and iteration gives the set
itself, members with a single bit and nothing else (`iterate_parts`). A single bit that has a member
can always be iterated over (`iterates_single`), in whatever order the members are.
-/

namespace EnumTables

namespace Bits

theorem lt_two_pow_length (n : Int) : n.natAbs < 2 ^ length n := by
  unfold length
  split
  · next zero => simp [zero]
  · exact Nat.lt_log2_self

theorem common_of_nonneg {m : Int} (nonneg : 0 ≤ m) (n : Int) :
    ∃ other : Nat, common m n = (m.toNat &&& other : Nat) := by
  let width := max (length m) (length n)
  have small : m.toNat < 2 ^ width :=
    (by omega : m.toNat ≤ m.natAbs).trans_lt <| (lt_two_pow_length m).trans_le <|
      Nat.pow_le_pow_right (by decide) (le_max_left _ _)
  have low : lowest (width + 1) m = m.toNat := by
    have bound : m < 2 ^ (width + 1) := by
      have doubled : (2 : Int) ^ (width + 1) = 2 * 2 ^ width := pow_succ' 2 width
      have cast : ((2 ^ width : Nat) : Int) = 2 ^ width := by push_cast; rfl
      omega
    rw [lowest, Int.emod_eq_of_lt nonneg bound]
  refine ⟨lowest (width + 1) n, ?_⟩
  have less : m.toNat &&& lowest (width + 1) n < 2 ^ (width + 1 - 1) :=
    Nat.and_le_left.trans_lt small
  change signed (width + 1) (lowest (width + 1) m &&& lowest (width + 1) n) = _
  rw [low, signed, if_pos less]

theorem mem_ones {n bit : Nat} (h : bit ∈ ones n) : ∃ place, bit = 2 ^ place ∧ n.testBit place := by
  obtain ⟨place, inside, rfl⟩ := List.mem_map.mp h
  exact ⟨place, rfl, (List.mem_filter.mp inside).2⟩

theorem exists_two_pow_of_isSingle {n : Int} (h : isSingle n = true) :
    ∃ place, n.toNat = 2 ^ place := by
  simp only [isSingle, Bool.and_eq_true, decide_eq_true_eq, beq_iff_eq] at h
  exact (Nat.and_sub_one_eq_zero_iff_isPowerOfTwo (by omega)).mp h.2

theorem mem_singles {members : List (String × Int)} {flag : String × Nat}
    (h : flag ∈ singles members) :
    ∃ bits, (flag.1, bits) ∈ members ∧ isSingle bits = true ∧ flag.2 = bits.toNat := by
  unfold singles at h
  refine List.foldlRecOn (motive := fun kept => ∀ flag ∈ kept, ∃ bits, (flag.1, bits) ∈ members ∧
    isSingle bits = true ∧ flag.2 = bits.toNat) members _ (by simp) ?_ flag h
  intro kept ih member inside flag among
  split at among
  · next taken =>
    rcases List.mem_append.mp among with before | new
    · exact ih flag before
    · obtain rfl := List.mem_singleton.mp new
      rw [Bool.and_eq_true] at taken
      exact ⟨member.2, inside, taken.1, rfl⟩
  · exact ih flag among

end Bits

namespace MemberClass

variable {cls : MemberClass}

def iterates (cls : MemberClass) (bits : Int) : Bool :=
  (cls.iterate false .null bits).toOption.isSome

theorem iterates_single {flag : String × Nat} (known : flag ∈ cls.singles) :
    cls.iterates flag.2 = true := by
  obtain ⟨bits, -, isSingle, same⟩ := Bits.mem_singles known
  obtain ⟨place, power⟩ := Bits.exists_two_pow_of_isSingle isSingle
  obtain ⟨other, common⟩ := Bits.common_of_nonneg (Int.natCast_nonneg flag.2) cls.visited
  rw [iterates, iterate]
  simp only [common, Int.toNat_natCast]
  rw [if_neg (by omega)]
  split
  · rfl
  · have covered : ((Bits.ones (flag.2 &&& other)).find? fun bit =>
        !(cls.singles.map Prod.snd).contains bit) = none := by
      rw [List.find?_eq_none]
      intro bit inside
      obtain ⟨place', rfl, isSet⟩ := Bits.mem_ones inside
      rw [same, power, Nat.testBit_and, Nat.testBit_two_pow, Bool.and_eq_true,
        decide_eq_true_eq] at isSet
      obtain rfl := isSet.1
      simpa [← power, ← same] using ⟨flag.1, known⟩
    rw [covered]
    rfl

theorem iterate_parts (isInteger : Bool) (whole : Value) {bits : Int}
    (iterates : cls.iterates bits = true) :
    ∃ items, cls.iterate isInteger whole bits = .ok items ∧ ∀ item ∈ items,
      item = whole ∨ item = .null ∨
        ∃ flag ∈ cls.singles, item = cls.bitMember isInteger flag.1 flag.2 := by
  have part (bit : Nat) : cls.single isInteger whole bits bit = whole ∨
      cls.single isInteger whole bits bit = .null ∨ ∃ flag ∈ cls.singles,
        cls.single isInteger whole bits bit = cls.bitMember isInteger flag.1 flag.2 := by
    unfold single
    split
    · exact .inl rfl
    · split
      · next flag found => exact .inr (.inr ⟨flag, List.mem_of_find?_eq_some found, rfl⟩)
      · exact .inr (.inl rfl)
  unfold MemberClass.iterates iterate at iterates
  unfold iterate
  dsimp only at iterates ⊢
  split at iterates
  · cases numeral : Spoken.ofInteger (Bits.common bits cls.visited) <;>
      simp [numeral, bind, Except.bind, Except.toOption] at iterates
  · next nonneg =>
    rw [if_neg nonneg]
    split at iterates
    · next ascending =>
      rw [if_pos ascending]
      exact ⟨_, rfl, List.forall_mem_map.mpr fun bit _ => part bit⟩
    · next mixed =>
      rw [if_neg mixed]
      split at iterates
      · cases iterates
      · next covered =>
        exact ⟨_, rfl, List.forall_mem_map.mpr fun bit _ => part bit⟩

end MemberClass

end EnumTables
