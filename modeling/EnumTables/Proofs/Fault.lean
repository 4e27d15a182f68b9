import EnumTables.Fault
import EnumTables.Proofs.Outcome

/-!
# Faults of parts

A field succeeds iff what it needs is there and can be read (`field_eq_ok`, `optionalField_eq_ok`),
and otherwise its faults are those of what is there, or that it is missing. The faults of a sequence
are those of its parts, each placed below its index (`faults_parts`). What is put together from such
readings fails only with faults (`IsSound`).
-/

namespace EnumTables

theorem Fault.within_injective (step : Step) : Function.Injective (Fault.within step) := by
  rintro ⟨location, kind⟩ ⟨location', kind'⟩ same
  simpa [Fault.within] using same

namespace Checked

variable {α β γ : Type}

/-! ## Success -/

theorem within_eq_ok {step : Step} {checked : Checked α} {a : α} :
    checked.within step = .ok a ↔ checked = .ok a := by
  cases checked <;> simp [within]

theorem both_eq_ok {combine : α → β → γ} {left : Checked α} {right : Checked β} {c : γ} :
    both combine left right = .ok c ↔
      ∃ a b, left = .ok a ∧ right = .ok b ∧ combine a b = c := by
  cases left <;> cases right <;> simp [both]

theorem map_eq_ok {f : α → β} {checked : Checked α} {b : β} :
    checked.map f = .ok b ↔ ∃ a, checked = .ok a ∧ f a = b := by
  cases checked <;> simp [Except.map]

theorem field_eq_ok {entries : List (String × α)} {name : String} {read : α → Checked β} {b : β} :
    field entries name read = .ok b ↔
      ∃ entry, entries.lookup name = some entry ∧ read entry = .ok b := by
  unfold field
  cases entries.lookup name with
  | none => simp [fault, within]
  | some entry => simp [within_eq_ok]

theorem optionalField_eq_ok {entries : List (String × α)} {name : String} {default : β}
    {read : α → Checked β} {b : β} :
    optionalField entries name default read = .ok b ↔
      (∃ entry, entries.lookup name = some entry ∧ read entry = .ok b) ∨
        entries.lookup name = none ∧ default = b := by
  unfold optionalField
  cases entries.lookup name with
  | none => simp
  | some entry => simp [within_eq_ok]

theorem parts_eq_ok {read : α → Checked β} {items : List α} {index : Int} {results : List β} :
    parts read items index = .ok results ↔
      List.Forall₂ (fun item b => read item = .ok b) items results := by
  induction items generalizing index results with
  | nil => simp [parts, eq_comm]
  | cons item rest ih =>
    simp only [parts, both_eq_ok, within_eq_ok, ih, List.forall₂_cons_left_iff]
    constructor
    · rintro ⟨b, others, first, later, rfl⟩
      exact ⟨b, others, first, later, rfl⟩
    · rintro ⟨b, others, first, later, rfl⟩
      exact ⟨b, others, first, later, rfl⟩

/-! ## Failure -/

@[simp] theorem faults_map (f : α → β) (checked : Checked α) :
    Checked.faults (checked.map f) = checked.faults := by
  cases checked <;> rfl

theorem faults_field (entries : List (String × α)) (name : String) (read : α → Checked β) :
    (field entries name read).faults = match entries.lookup name with
      | some entry => (read entry).faults.map (Fault.within (.key name))
      | none => [⟨[.key name], .missing⟩] := by
  unfold field
  cases entries.lookup name with
  | none => rfl
  | some entry => exact faults_within _ _

theorem faults_optionalField (entries : List (String × α)) (name : String) (default : β)
    (read : α → Checked β) :
    (optionalField entries name default read).faults = match entries.lookup name with
      | some entry => (read entry).faults.map (Fault.within (.key name))
      | none => [] := by
  unfold optionalField
  cases entries.lookup name with
  | none => rfl
  | some entry => exact faults_within _ _

/-- The faults of a sequence from an index on: those of its parts, one after the other. -/
def faultsFrom (faults : α → List Fault) (parts : List α) (start : Nat) : List Fault :=
  (parts.zipIdx start).flatMap fun part =>
    (faults part.1).map (Fault.within (.place part.2))

theorem faults_parts (read : α → Checked β) (items : List α) (start : Nat) :
    (parts read items start).faults = faultsFrom (fun item => (read item).faults) items start := by
  induction items generalizing start with
  | nil => rfl
  | cons item rest ih =>
    have next : ((start : Int) + 1) = ((start + 1 : Nat) : Int) := by omega
    rw [parts, faults_both, faults_within, next, ih]
    simp [faultsFrom]

theorem nodup_faultsFrom {faults : α → List Fault} (each : ∀ part, (faults part).Nodup)
    (parts : List α) (start : Nat) : (faultsFrom faults parts start).Nodup := by
  refine List.nodup_flatMap.mpr ⟨fun part _ => (each _).map (Fault.within_injective _), ?_⟩
  have indices : ((parts.zipIdx start).map Prod.snd).Nodup := by
    rw [List.zipIdx_map_snd]
    exact List.nodup_range'
  refine (List.pairwise_map.mp indices).imp ?_
  intro part other differ fault left right
  obtain ⟨under, -, rfl⟩ := List.mem_map.mp left
  obtain ⟨under', -, same⟩ := List.mem_map.mp right
  have place := (List.cons.inj (congrArg Fault.location same)).1
  exact differ (Int.ofNat.inj (Step.place.inj place)).symm

def IsSound (checked : Checked α) : Prop :=
  checked.faults = [] → ∃ a, checked = .ok a

theorem IsSound.ok (a : α) : IsSound (.ok a : Checked α) :=
  fun _ => ⟨a, rfl⟩

theorem IsSound.fault (kind : FaultKind) : IsSound (Checked.fault kind : Checked α) :=
  fun none => by cases none

theorem IsSound.within {checked : Checked α} (h : IsSound checked) (step : Step) :
    IsSound (checked.within step) := by
  intro none
  obtain ⟨a, rfl⟩ := h (by simpa using none)
  exact ⟨a, rfl⟩

theorem IsSound.map {checked : Checked α} (h : IsSound checked) (f : α → β) :
    IsSound (checked.map f) := by
  intro none
  obtain ⟨a, rfl⟩ := h (by simpa using none)
  exact ⟨f a, rfl⟩

theorem IsSound.both {left : Checked α} {right : Checked β} (first : IsSound left)
    (second : IsSound right) (combine : α → β → γ) : IsSound (Checked.both combine left right) := by
  intro none
  obtain ⟨noneLeft, noneRight⟩ := List.append_eq_nil_iff.mp ((faults_both ..).symm.trans none)
  obtain ⟨a, rfl⟩ := first noneLeft
  obtain ⟨b, rfl⟩ := second noneRight
  exact ⟨combine a b, rfl⟩

theorem IsSound.field {entries : List (String × α)} {name : String} {read : α → Checked β}
    (each : ∀ entry, entries.lookup name = some entry → IsSound (read entry)) :
    IsSound (Checked.field entries name read) := by
  unfold Checked.field
  split
  · rename_i entry found
    exact (each entry found).within _
  · exact (IsSound.fault _).within _

theorem IsSound.optionalField {entries : List (String × α)} {name : String} {read : α → Checked β}
    (each : ∀ entry, entries.lookup name = some entry → IsSound (read entry)) (default : β) :
    IsSound (Checked.optionalField entries name default read) := by
  unfold Checked.optionalField
  split
  · rename_i entry found
    exact (each entry found).within _
  · exact .ok _

theorem IsSound.parts {read : α → Checked β} {items : List α}
    (each : ∀ item ∈ items, IsSound (read item)) (index : Int) :
    IsSound (Checked.parts read items index) := by
  induction items generalizing index with
  | nil => exact .ok _
  | cons item rest ih =>
    obtain ⟨first, others⟩ := List.forall_mem_cons.mp each
    exact (first.within _).both (ih others _) _

theorem IsSound.faults_eq_nil_iff {checked : Checked α} (h : IsSound checked) :
    checked.faults = [] ↔ ∃ a, checked = .ok a := by
  refine ⟨h, ?_⟩
  rintro ⟨a, rfl⟩
  rfl

end Checked

end EnumTables
