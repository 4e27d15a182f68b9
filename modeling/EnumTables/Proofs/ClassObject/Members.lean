import EnumTables.ClassObject.Members
import EnumTables.Proofs.Outcome

/-!
# Canonical members

The members that iterating an enumeration gives are kept in a list of names of its own. They are its
canonical ones: those that stand under their own names and, in a class of flags, are single bits, in
the order of definition (`InOrder.listed_eq`). Creating members keeps it so, as long as their names
are new (`addMembers_inOrder`).
-/

namespace EnumTables

theorem lookup_of_mem {α : Type} {entries : List (String × α)}
    (distinct : (entries.map Prod.fst).Nodup) {entry : String × α} (h : entry ∈ entries) :
    entries.lookup entry.1 = some entry.2 := by
  induction entries with
  | nil => cases h
  | cons first rest ih =>
    obtain ⟨name, value⟩ := first
    rw [List.map_cons, List.nodup_cons] at distinct
    rcases List.mem_cons.mp h with rfl | later
    · rw [List.lookup_cons_self]
    · have apart : (entry.1 == name) = false := by
        rw [beq_eq_false_iff_ne]
        rintro rfl
        exact distinct.1 (List.mem_map.mpr ⟨entry, later, rfl⟩)
      rw [List.lookup_cons, apart]
      exact ih distinct.2 later

namespace Enumeration

def isSingleBit (held : Value) : Bool :=
  match ClassObject.checkSingleBit held with
  | .ok isSingle => isSingle
  | .error _ => false

def isCanonical (isFlag : Bool) (entry : String × EnumMember) : Bool :=
  entry.1 = entry.2.name && (!isFlag || isSingleBit entry.2.held)

/-- The members under their own names in the order of definition, and of flags only single bits. -/
def canonical (isFlag : Bool) (enumeration : Enumeration) : List EnumMember :=
  (enumeration.members.filter (isCanonical isFlag)).map Prod.snd

/-- No name stands for two members, and the canonical members are listed. -/
structure InOrder (isFlag : Bool) (enumeration : Enumeration) : Prop where
  distinct : enumeration.names.Nodup
  listed : enumeration.listedNames =
    (enumeration.members.filter (isCanonical isFlag)).map Prod.fst

variable {isFlag : Bool} {enumeration : Enumeration}

theorem inOrder_empty (release : Release) (dataClass : Option ClassName)
    (dataType : Option DataType) : InOrder isFlag ⟨release, dataClass, dataType, [], []⟩ :=
  ⟨List.nodup_nil, rfl⟩

theorem InOrder.listed_eq (h : enumeration.InOrder isFlag) :
    enumeration.listed = enumeration.canonical isFlag := by
  rw [Enumeration.listed, h.listed, List.filterMap_map, canonical, ← List.filterMap_eq_map]
  refine List.filterMap_congr fun entry inside => ?_
  exact lookup_of_mem h.distinct (List.mem_of_mem_filter inside)

theorem InOrder.add (h : enumeration.InOrder isFlag) {name : String} {member : EnumMember}
    (fresh : name ∉ enumeration.names) {isListed : Bool}
    (judged : isListed = isCanonical isFlag (name, member)) :
    InOrder isFlag ⟨enumeration.release, enumeration.dataClass, enumeration.dataType,
      enumeration.members ++ [(name, member)],
      enumeration.listedNames ++ if isListed then [name] else []⟩ := by
  refine ⟨?_, ?_⟩
  · simp only [names, List.map_append, List.map_cons, List.map_nil]
    exact List.nodup_append.mpr ⟨h.distinct, List.nodup_singleton _, fun other taken _ last =>
      by rintro rfl; exact fresh (List.mem_singleton.mp last ▸ taken)⟩
  · subst judged
    rw [h.listed]
    cases single : isCanonical isFlag (name, member) <;> simp [single]

end Enumeration

namespace ClassObject

open Enumeration (InOrder isCanonical isSingleBit)

variable {scope : Scope} {cls made : ClassObject} {enumeration : Enumeration}

theorem setUp_keeps {member result : EnumMember} {written : Value}
    (h : setUp scope cls enumeration member written = .ok result) :
    result.name = member.name ∧ result.held = member.held := by
  unfold setUp at h
  split at h
  · split at h
    · obtain ⟨data, -, h⟩ := bind_eq_ok.mp h
      obtain rfl := Except.ok.inj h
      exact ⟨rfl, rfl⟩
    · obtain rfl := Except.ok.inj h
      exact ⟨rfl, rfl⟩
  · obtain ⟨setup, -, h⟩ := bind_eq_ok.mp h
    obtain ⟨-, -, h⟩ := bind_eq_ok.mp h
    obtain rfl := Except.ok.inj h
    exact ⟨rfl, rfl⟩
  · obtain rfl := Except.ok.inj h
    exact ⟨rfl, rfl⟩

theorem name_mem_of_earlier {members : List (String × EnumMember)} {held : Value}
    {found : EnumMember} (h : earlier? members held = some found) :
    found.name ∈ members.map Prod.fst := by
  obtain ⟨entry, here, rfl⟩ := Option.map_eq_some_iff.mp h
  have own := List.find?_some here
  simp only [Bool.and_eq_true, decide_eq_true_eq] at own
  exact own.1.1 ▸ List.mem_map_of_mem (List.mem_of_find?_eq_some here)

def IsListed (cls : ClassObject) : Prop :=
  ∀ enumeration, cls.enumeration = some enumeration → enumeration.InOrder cls.isFlag

theorem addMember_inOrder {recipe : Recipe} {name : String} {written : Value}
    (order : enumeration.InOrder cls.isFlag) (fresh : name ∉ enumeration.names)
    (h : addMember scope cls enumeration recipe name written = .ok made) :
    made.isFlag = cls.isFlag ∧ ∃ after, made.enumeration = some after ∧
      after.names = enumeration.names ++ [name] ∧ after.InOrder cls.isFlag := by
  unfold addMember at h
  cases maker : recipe.maker with
  | some function =>
    simp only [maker] at h
    obtain ⟨found, -, refused⟩ := bind_eq_ok.mp h
    cases refused
  | none =>
    simp only [maker] at h
    obtain ⟨⟨held, data⟩, -, h⟩ := bind_eq_ok.mp h
    obtain ⟨member, setup, h⟩ := bind_eq_ok.mp h
    obtain ⟨named, -⟩ := setUp_keeps setup
    cases earlier : earlier? enumeration.members member.held with
    | some found =>
      simp only [earlier] at h
      obtain rfl := Except.ok.inj h
      have apart : name ≠ found.name := fun same =>
        fresh (same ▸ name_mem_of_earlier earlier)
      have other : false = isCanonical cls.isFlag (name, found) := by simp [isCanonical, apart]
      have added := order.add fresh other
      rw [if_neg Bool.false_ne_true, List.append_nil] at added
      exact ⟨rfl, _, rfl, by simp [Enumeration.names], added⟩
    | none =>
      simp only [earlier] at h
      split at h
      · next isFlag =>
        obtain ⟨isSingle, judged, h⟩ := bind_eq_ok.mp h
        obtain rfl := Except.ok.inj h
        have canonical : isSingle = isCanonical cls.isFlag (name, member) := by
          simp [isCanonical, isSingleBit, isFlag, judged, named]
        exact ⟨rfl, _, rfl, by simp [Enumeration.names], order.add fresh canonical⟩
      · next noFlag =>
        obtain rfl := Except.ok.inj h
        have canonical : true = isCanonical cls.isFlag (name, member) := by
          simp [isCanonical, noFlag, named]
        exact ⟨rfl, _, rfl, by simp [Enumeration.names], order.add fresh canonical⟩

theorem addMembers_isListed {members : List (String × Value)}
    (h : addMembers scope cls members = .ok made) (listed : cls.IsListed)
    (fresh : ∀ enumeration, cls.enumeration = some enumeration →
      (enumeration.names ++ members.map Prod.fst).Nodup) : made.IsListed := by
  induction members generalizing cls with
  | nil =>
    obtain rfl := Except.ok.inj h
    exact listed
  | cons first rest ih =>
    obtain ⟨name, written⟩ := first
    rw [addMembers] at h
    cases there : cls.enumeration with
    | none =>
      simp only [there] at h
      obtain rfl := Except.ok.inj h
      exact listed
    | some enumeration =>
      simp only [there] at h
      obtain ⟨middle, added, h⟩ := bind_eq_ok.mp h
      have distinct := fresh enumeration there
      rw [List.map_cons, List.append_cons] at distinct
      have unused : name ∉ enumeration.names := by
        have apart := (List.nodup_append.mp (List.nodup_append.mp distinct).1).2.2
        exact fun taken => apart name taken name (List.mem_singleton_self _) rfl
      obtain ⟨isFlag, after, holds, names, order⟩ :=
        addMember_inOrder (listed enumeration there) unused added
      refine ih h (fun other same => ?_) (fun other same => ?_)
      · rw [holds] at same
        obtain rfl := Option.some.inj same
        rw [isFlag]
        exact order
      · rw [holds] at same
        obtain rfl := Option.some.inj same
        rw [names]
        exact distinct

end ClassObject

end EnumTables
