import EnumTables.Proofs.Value.Plain
import EnumTables.Proofs.Yaml.RoundTrip

/-!
# What documents hold

The data of a YAML document are null, truth values, numbers, texts, bytes and times, and lists,
tuples, sets and mappings of such (`read_isData`). The keys of a mapping are all different, so that
it has at most one value for a name (`read_entries`).
-/

namespace EnumTables

def Yaml.HasDifferentKeys (entries : List (Value × Value)) : Prop :=
  entries.Pairwise fun entry other => Node.sameKey entry.1 other.1 = false

inductive Value.IsData : Value → Prop where
  | null : IsData .null
  | bool (b : Bool) : IsData (.bool b)
  | int (n : Int) : IsData (.int n)
  | float (x : Decimal.Binary64) : IsData (.float x)
  | text (s : String) : IsData (.text s)
  | bytes (data : List UInt8) : IsData (.bytes false data)
  | time (traits : Traits) : IsData (.object traits [])
  | collection {kind : Collection} {items : List Value} (each : ∀ item ∈ items, IsData item) :
      IsData (.collection kind items)
  | mapping {entries : List (Value × Value)} (keys : ∀ entry ∈ entries, IsData entry.1)
      (values : ∀ entry ∈ entries, IsData entry.2) (different : Yaml.HasDifferentKeys entries) :
      IsData (.dict entries)

namespace Yaml

open Value (IsData HasDistinctKeys)

namespace Built

variable {α β γ : Type} {holds : α → Prop}

/-- What is built, if anything is, has a property. -/
def Yields (holds : α → Prop) (built : Built α) : Prop :=
  ∀ a, built = .ok a → holds a

theorem Yields.ok {a : α} (h : holds a) : Yields holds (.ok a) := by
  rintro _ ⟨⟩
  exact h

theorem Yields.error (error : BuildError) : Yields holds (.error error : Built α) :=
  fun _ failed => by cases failed

theorem Yields.map {f : α → β} {holds' : β → Prop} {built : Built α} (h : Yields holds built)
    (next : ∀ a, holds a → holds' (f a)) : Yields holds' (built.map f) := by
  cases built with
  | ok a => exact .ok (next a (h a rfl))
  | error error => exact .error error

theorem Yields.both {combine : α → β → γ} {left : Built α} {right : Built β} {holds' : β → Prop}
    {holds'' : γ → Prop} (first : Yields holds left) (second : Yields holds' right)
    (next : ∀ a b, holds a → holds' b → holds'' (combine a b)) :
    Yields holds'' (Built.both combine left right) := by
  cases left with
  | ok a =>
    cases right with
    | ok b => exact .ok (next a b (first a rfl) (second b rfl))
    | error error => exact .error error
  | error error =>
    cases right with
    | ok b => exact .error error
    | error error' => exact .error _

theorem Yields.ofRaised {spot : Spot} {result : Except Raised α}
    (h : ∀ a, result = .ok a → holds a) : Yields holds (Built.ofRaised spot result) := by
  cases result with
  | ok a => exact .ok (h a rfl)
  | error raised => exact .error _

end Built

/-! ## Mappings -/

def AreData (entries : List (Value × Value)) : Prop :=
  ∀ entry ∈ entries, IsData entry.1 ∧ IsData entry.2

variable {entries : List (Value × Value)} {key value : Value}

theorem mem_keys_insertBy {other : Value}
    (inside : other ∈ (Value.insertBy Node.sameKey entries key value).map Prod.fst) :
    other ∈ entries.map Prod.fst ∨ other = key := by
  induction entries with
  | nil => simpa [Value.insertBy] using inside
  | cons entry rest ih =>
    rw [Value.insertBy] at inside
    split at inside
    · exact .inl inside
    · rcases List.mem_cons.mp inside with rfl | later
      · exact .inl List.mem_cons_self
      · exact (ih later).imp_left (List.mem_cons_of_mem _)

theorem HasDifferentKeys.insertBy (different : HasDifferentKeys entries) :
    HasDifferentKeys (Value.insertBy Node.sameKey entries key value) := by
  induction entries with
  | nil => exact List.pairwise_singleton _ _
  | cons entry rest ih =>
    obtain ⟨differ, later⟩ := List.pairwise_cons.mp different
    rw [Value.insertBy]
    split
    · exact List.pairwise_cons.mpr ⟨differ, later⟩
    · rename_i new
      refine List.pairwise_cons.mpr ⟨fun other inside => ?_, ih later⟩
      rcases mem_keys_insertBy (List.mem_map_of_mem inside) with old | same
      · obtain ⟨entry', inside', is⟩ := List.mem_map.mp old
        rw [← is]
        exact differ entry' inside'
      · rw [same]
        simpa using new

theorem AreData.insertBy (data : AreData entries) (keyData : IsData key)
    (valueData : IsData value) : AreData (Value.insertBy Node.sameKey entries key value) := by
  induction entries with
  | nil => exact List.forall_mem_singleton.mpr ⟨keyData, valueData⟩
  | cons entry rest ih =>
    obtain ⟨first, others⟩ := List.forall_mem_cons.mp data
    rw [Value.insertBy]
    split
    · exact List.forall_mem_cons.mpr ⟨⟨first.1, valueData⟩, others⟩
    · exact List.forall_mem_cons.mpr ⟨first, ih others⟩

theorem foldl_insertBy_data {before built : List (Value × Value)}
    (good : HasDifferentKeys before ∧ AreData before) (data : AreData built) :
    HasDifferentKeys (built.foldl
        (fun all entry => Value.insertBy Node.sameKey all entry.1 entry.2) before) ∧
      AreData (built.foldl
        (fun all entry => Value.insertBy Node.sameKey all entry.1 entry.2) before) := by
  induction built generalizing before with
  | nil => exact good
  | cons entry rest ih =>
    obtain ⟨first, others⟩ := List.forall_mem_cons.mp data
    exact ih ⟨good.1.insertBy, good.2.insertBy first.1 first.2⟩ others

theorem Node.sameKey_of_same {key other : Value} (same : key.same other = true) :
    Node.sameKey key other = true := by
  unfold Node.sameKey
  split
  · rename_i x y
    have same : x.same y = true := by
      simpa [Value.same, Value.asData, Value.number?, Value.asInteger?, Value.asFloat?,
        Value.Number.same] using same
    rw [same, Bool.true_or]
  · exact same

theorem HasDifferentKeys.distinct (different : HasDifferentKeys entries) :
    HasDistinctKeys entries := by
  refine different.imp fun {entry other} differ => Bool.eq_false_of_not_eq_true fun same => ?_
  cases differ.symm.trans (Node.sameKey_of_same same)

/-! ## Building -/

namespace Node

open Built (Yields fail failInside)

theorem scalarValue_data (spot : Spot) (tag : Tag) (text : String) :
    Yields IsData (scalarValue spot tag text) := by
  have mapped {α : Type} {f : α → Value} (data : ∀ a, IsData (f a)) (result : Except Raised α) :
      Yields IsData (Built.ofRaised spot (result.map f)) := by
    refine .ofRaised fun value made => ?_
    cases result with
    | ok a =>
      cases made
      exact data a
    | error raised => cases made
  unfold scalarValue
  dsimp only
  split
  · exact .ok .null
  · exact .ok (.text text)
  · exact mapped .bool _
  · exact mapped .int _
  · exact mapped .float _
  · refine .ofRaised fun value made => ?_
    unfold readTimestamp at made
    split at made
    · cases made
    · split at made
      · cases made
      · cases made
        unfold Timestamp.toValue
        split <;> exact .time ..
  · split
    · exact .ok (.bytes _)
    · exact .error _
  · exact .error _

theorem scalar_data (builder : Builder) (spot : Spot) (node : Node) :
    Yields IsData (builder.scalar spot node) := by
  unfold Builder.scalar
  split
  · exact scalarValue_data spot _ _
  · exact .error _
  · split
    · exact .error _
    · split
      · exact .error _
      · split
        · exact .error _
        · exact scalarValue_data spot _ _

mutual

theorem build_data (builder : Builder) : ∀ (fuel : Nat) (spot : Spot) (node : Node),
    Yields IsData (build builder fuel spot node)
  | 0, _, _ => .error _
  | fuel + 1, spot, node => by
    rw [build.eq_def]
    dsimp only
    split
    · exact scalar_data builder spot _
    · split
      · split
        · exact (buildItems_data builder fuel spot 0 _).map fun _ each => .collection each
        · exact .error _
      · exact (buildMapping_data builder fuel spot _).map fun _ good =>
          .mapping (fun entry inside => (good.2 entry inside).1)
            (fun entry inside => (good.2 entry inside).2) good.1
      · refine (buildMapping_data builder fuel spot _).map fun _ good => .collection ?_
        intro item inside
        obtain ⟨entry, among, rfl⟩ :=
          List.mem_map.mp ((builder.runtime.order_perm _).mem_iff.mp inside)
        exact (good.2 entry among).1
      · split
        · exact (buildPairs_data builder fuel spot 0 _).map fun _ each => .collection each
        · exact .error _
      · split
        · exact (buildPairs_data builder fuel spot 0 _).map fun _ each => .collection each
        · exact .error _
      · exact .error _

theorem buildItems_data (builder : Builder) : ∀ (fuel : Nat) (spot : Spot) (index : Nat)
    (items : List Node), Yields (fun values => ∀ value ∈ values, IsData value)
      (buildItems builder fuel spot index items)
  | 0, _, _, _ => .error _
  | _ + 1, _, _, [] => .ok (by simp)
  | fuel + 1, spot, index, item :: rest =>
    (build_data builder fuel (index :: spot) item).both
      (buildItems_data builder fuel spot (index + 1) rest)
      fun _ _ first others => List.forall_mem_cons.mpr ⟨first, others⟩

theorem buildMapping_data (builder : Builder) : ∀ (fuel : Nat) (spot : Spot) (node : Node),
    Yields (fun entries => HasDifferentKeys entries ∧ AreData entries)
      (buildMapping builder fuel spot node)
  | 0, _, _ => .error _
  | fuel + 1, spot, node => by
    rw [buildMapping]
    split
    · exact .error _
    split
    · exact .error _
    · refine (buildEntries_data builder fuel spot 0 _).map fun _ data => ?_
      exact foldl_insertBy_data ⟨List.Pairwise.nil, by simp [AreData]⟩ data

theorem buildKey_data (builder : Builder) : ∀ (fuel : Nat) (spot : Spot) (key : Node),
    Yields IsData (buildKey builder fuel spot key)
  | 0, _, _ => .error _
  | fuel + 1, spot, key => by
    rw [buildKey]
    split
    · exact .error _
    · exact build_data builder fuel spot _

theorem buildEntries_data (builder : Builder) : ∀ (fuel : Nat) (spot : Spot) (index : Nat)
    (entries : List (Node × Node)), Yields AreData (buildEntries builder fuel spot index entries)
  | 0, _, _, _ => .error _
  | _ + 1, _, _, [] => .ok (by simp [AreData])
  | fuel + 1, spot, index, (key, value) :: rest => by
    have first : Yields (fun entry => IsData entry.1 ∧ IsData entry.2)
        (Built.both Prod.mk (buildKey builder fuel (index :: spot) key)
          (build builder fuel (index :: spot) value)) :=
      (buildKey_data builder fuel (index :: spot) key).both
        (build_data builder fuel (index :: spot) value) fun _ _ keyData valueData =>
          ⟨keyData, valueData⟩
    exact first.both (buildEntries_data builder fuel spot (index + 1) rest)
      fun _ _ first others => List.forall_mem_cons.mpr ⟨first, others⟩

theorem buildPairs_data (builder : Builder) : ∀ (fuel : Nat) (spot : Spot) (index : Nat)
    (items : List Node), Yields (fun values => ∀ value ∈ values, IsData value)
      (buildPairs builder fuel spot index items)
  | 0, _, _, _ => .error _
  | _ + 1, _, _, [] => .ok (by simp)
  | fuel + 1, spot, index, item :: rest => by
    rw [buildPairs.eq_def]
    dsimp only
    have put (first : Value) (others : List Value) (data : IsData first)
        (each : ∀ value ∈ others, IsData value) : ∀ value ∈ first :: others, IsData value :=
      List.forall_mem_cons.mpr ⟨data, each⟩
    refine Yields.both ?_ (buildPairs_data builder fuel spot (index + 1) rest) put
    split
    · exact (build_data builder fuel _ _).both (build_data builder fuel _ _) fun _ _ first second =>
        .collection (List.forall_mem_cons.mpr ⟨first, List.forall_mem_singleton.mpr second⟩)
    · exact .error _

end

end Node

theorem read_isData {runtime : Runtime} {text : String} {value : Value}
    (parsed : read runtime text = .ok value) :
    IsData value := by
  unfold read at parsed
  obtain ⟨document, -, built⟩ := bind_eq_ok.mp parsed
  cases document with
  | none =>
    cases built
    exact .null
  | some node => exact Node.build_data _ _ _ node value (mapError_eq_ok.mp built)

theorem read_entries {runtime : Runtime} {text : String} {readOnly : Bool}
    (parsed : read runtime text = .ok (.mapping readOnly entries)) :
    AreData entries ∧ HasDifferentKeys entries := by
  cases read_isData parsed with
  | mapping keys values different =>
    exact ⟨fun entry inside => ⟨keys entry inside, values entry inside⟩, different⟩

end Yaml

end EnumTables
