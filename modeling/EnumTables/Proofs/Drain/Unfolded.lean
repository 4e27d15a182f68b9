import EnumTables.Proofs.Drain
import EnumTables.Proofs.Literal.Unfolded

/-!
# Streams in values without mappings

Reading the streams of a value goes through the entries of its mappings as it goes through a list of
pairs. What it leaves of a value without mappings is what it leaves of the value, without mappings,
and the same streams are read on the way (`Representation.drain_unfolded`). That holds of values that
have a literal afterwards: a pair takes a list of two entries apart, and a mapping it leaves alone.
-/

namespace EnumTables

namespace Drain

/-- Reading the streams of a value without mappings gives what reading those of the value gives,
without mappings. -/
def UnfoldsAt (drain : Drain) (value : Value) (spent : Spent) : Prop :=
  (drain value.unfolded).run spent =
    (((drain value).run spent).1.unfolded, ((drain value).run spent).2)

def KeepsEntries (drain : Drain) : Prop :=
  ∀ pair spent, ∃ other, ((drain (Value.entry pair)).run spent).1 = Value.entry other

variable {element first second : Drain}

theorem run_bind_of_run {α β : Type} {first : StateM Spent α} {next : α → StateM Spent β}
    {x : α} {spent later : Spent} (h : first.run spent = (x, later)) :
    (first >>= next).run spent = (next x).run later := by
  rw [StateT.run_bind, h]
  rfl

/-- What a step on an element gives for another form of it, if the outcome is one that counts, the
steps over a list give for the other forms of its elements. -/
theorem run_mapM_map {α : Type} {form : α → α} {holds : α → Prop} {step : α → StateM Spent α}
    (each : ∀ x spent, holds ((step x).run spent).1 →
      (step (form x)).run spent = (form ((step x).run spent).1, ((step x).run spent).2))
    {xs : List α} {spent : Spent} (all : ∀ x ∈ ((xs.mapM step).run spent).1, holds x) :
    ((xs.map form).mapM step).run spent =
      (((xs.mapM step).run spent).1.map form, ((xs.mapM step).run spent).2) := by
  induction xs generalizing spent with
  | nil => rfl
  | cons x rest ih =>
    simp only [List.mapM_cons, StateT.run_bind] at all
    obtain ⟨here, later⟩ := List.forall_mem_cons.mp all
    rw [List.map_cons, List.mapM_cons, run_bind_of_run (each x spent here),
      run_bind_of_run (ih later), List.mapM_cons]
    rfl

def each (element : Drain) (wrap : List Value → Value) (items : List Value) :
    StateM Spent Value := do
  return wrap (← items.mapM element)

theorem run_each_unfolded {holds : Value → Prop} {wrap rewrap : List Value → Value}
    {items : List Value} {spent : Spent}
    (alike : ∀ item spent, holds ((element item).run spent).1 → element.UnfoldsAt item spent)
    (all : ∀ item ∈ ((items.mapM element).run spent).1, holds item)
    (wrapped : (wrap ((items.mapM element).run spent).1).unfolded =
      rewrap (((items.mapM element).run spent).1.map Value.unfolded)) :
    (each element rewrap (items.map Value.unfolded)).run spent =
      (((each element wrap items).run spent).1.unfolded,
        ((each element wrap items).run spent).2) := by
  have read : ((items.map Value.unfolded).mapM element).run spent = _ := run_mapM_map alike all
  rw [each, run_bind_of_run read]
  exact Prod.ext wrapped.symm rfl

theorem run_both_unfolded (join : Value → Value → Value) {x y : Value} {spent : Spent}
    (left : first.UnfoldsAt x spent) (right : second.UnfoldsAt y ((first x).run spent).2)
    (joined : ∀ x y, (join x y).unfolded = join x.unfolded y.unfolded) :
    (both first second join x.unfolded y.unfolded).run spent =
      (((both first second join x y).run spent).1.unfolded,
        ((both first second join x y).run spent).2) := by
  have left : (first x.unfolded).run spent = _ := left
  have right : (second y.unfolded).run ((first x).run spent).2 = _ := right
  rw [both, run_bind_of_run left, run_bind_of_run right]
  exact Prod.ext (joined _ _).symm rfl

theorem keepsEntries_pure : KeepsEntries pure := fun pair _ => ⟨pair, rfl⟩

theorem keepsEntries_slice : (slice element).KeepsEntries := by
  intro pair spent
  exact ⟨(((element pair.1).run spent).1,
    ((element pair.2).run ((element pair.1).run spent).2).1), rfl⟩

theorem keepsEntries_pair : (Drain.pair first second).KeepsEntries := by
  intro pair spent
  exact ⟨(((first pair.1).run spent).1,
    ((second pair.2).run ((first pair.1).run spent).2).1), rfl⟩

theorem map_entry_components {read : List Value}
    (entries : ∀ value ∈ read, ∃ pair, value = Value.entry pair) :
    (read.filterMap Value.components?).map Value.entry = read := by
  induction read with
  | nil => rfl
  | cons value rest ih =>
    obtain ⟨⟨⟨left, right⟩, rfl⟩, others⟩ := List.forall_mem_cons.mp entries
    have split : (Value.entry (left, right)).components? = some (left, right) := rfl
    rw [List.filterMap_cons, split, List.map_cons, ih others]

theorem entries_of_read (keeps : element.KeepsEntries) (entries : List (Value × Value))
    (spent : Spent) :
    ((((entries.map Value.entry).mapM element).run spent).1.filterMap Value.components?).map
      Value.entry = (((entries.map Value.entry).mapM element).run spent).1 := by
  refine map_entry_components fun value inside => ?_
  rw [List.mapM_map] at inside
  have each := forall₂_of_mapM_run (R := fun _ after => ∃ other, after = Value.entry other)
    (fun pair s => keeps pair s) entries spent
  obtain ⟨-, -, entry⟩ := exists_mem_of_forall₂ each inside
  exact entry

end Drain

namespace Representation

theorem drain_keepsEntries (representation : Representation) :
    representation.drain.KeepsEntries := by
  cases representation with
  | slice element => exact Drain.keepsEntries_slice
  | pair first second => exact Drain.keepsEntries_pair
  | _ => exact Drain.keepsEntries_pure

def IsTaken (representation : Representation) (value : Value) : Prop :=
  ∃ found, representation.literal value = .ok found

theorem isTaken_of_written {representation : Representation} {value : Value} {text : String}
    (h : representation.written value = .ok text) : representation.IsTaken value := by
  obtain ⟨found, written, -⟩ := bind_eq_ok.mp h
  exact ⟨found, written⟩

theorem elements_areTaken {element : Representation} {value : Value}
    (h : (Representation.slice element).IsTaken value) :
    ∃ items, value.elements? = some (.ok items) ∧ ∀ item ∈ items, element.IsTaken item := by
  obtain ⟨found, written⟩ := h
  simp only [literal] at written
  cases elements : value.elements? with
  | none => simp [elements, reject_ne_ok] at written
  | some outcome =>
    rw [elements] at written
    obtain ⟨items, rfl⟩ : ∃ items, outcome = .ok items := by
      cases outcome with
      | ok items => exact ⟨items, rfl⟩
      | error cause => cases written
    obtain ⟨labels, each, -⟩ := bind_eq_ok.mp written
    refine ⟨items, rfl, fun item inside => ?_⟩
    obtain ⟨label, -, taken⟩ := exists_mem_of_forall₂ (mapM_eq_ok_iff.mp each).flip inside
    exact ⟨label, taken⟩

theorem components_areTaken {first second : Representation} {value : Value}
    (h : (Representation.pair first second).IsTaken value) :
    ∃ left right, value.components? = some (left, right) ∧ first.IsTaken left ∧
      second.IsTaken right := by
  obtain ⟨found, written⟩ := h
  simp only [literal] at written
  cases components : value.components? with
  | none => simp [components, reject_ne_ok] at written
  | some both =>
    rw [components] at written
    obtain ⟨leftLabel, left, written⟩ := bind_eq_ok.mp written
    obtain ⟨_, _, written⟩ := bind_eq_ok.mp written
    obtain ⟨rightLabel, right, -⟩ := bind_eq_ok.mp written
    exact ⟨both.1, both.2, rfl, ⟨leftLabel, left⟩, rightLabel, right⟩

variable {element first second : Representation}

theorem unfoldsAt_slice
    (alike : ∀ item spent, element.IsTaken ((element.drain item).run spent).1 →
      element.drain.UnfoldsAt item spent) {value : Value} {spent : Spent}
    (taken : (Representation.slice element).IsTaken
      (((Representation.slice element).drain value).run spent).1) :
    (Representation.slice element).drain.UnfoldsAt value spent := by
  obtain ⟨parts, elements, all⟩ := elements_areTaken taken
  rw [drain] at elements ⊢
  rw [Drain.UnfoldsAt]
  cases value with
  | collection kind items =>
    cases kind with
    | list =>
      obtain rfl := Except.ok.inj (Option.some.inj elements)
      rw [Value.unfolded_list]
      exact Drain.run_each_unfolded alike all (Value.unfolded_list _)
    | tuple =>
      obtain rfl := Except.ok.inj (Option.some.inj elements)
      rw [Value.unfolded_tuple]
      exact Drain.run_each_unfolded alike all (Value.unfolded_tuple _)
    | set | frozenSet => rfl
    | stream mark =>
      change (Drain.slice element.drain (.collection (.stream mark) items)).run spent = _
      cases read : mark.any (List.contains spent) <;>
        simp only [Drain.slice, StateT.run_bind, StateT.run_get, pure_bind, read, if_true,
          Bool.false_eq_true, if_false, StateT.run_modify] <;> rfl
  | mapping readOnly entries =>
    let wrap (read : List Value) : Value := .mapping readOnly (read.filterMap Value.components?)
    have readAs : Drain.slice element.drain (.mapping readOnly entries) =
        Drain.each element.drain wrap (entries.map Value.entry) := by
      rw [Drain.each, List.mapM_map]
      rfl
    have kept := Drain.entries_of_read element.drain_keepsEntries entries spent
    rw [readAs] at elements ⊢
    change (wrap (((entries.map Value.entry).mapM element.drain).run spent).1).elements? =
      some (.ok parts) at elements
    rw [Value.elements?, kept] at elements
    obtain rfl := Except.ok.inj (Option.some.inj elements)
    rw [Value.unfolded_mapping]
    exact Drain.run_each_unfolded alike all (by rw [Value.unfolded_mapping, kept])
  | position x y =>
    obtain rfl := Except.ok.inj (Option.some.inj elements)
    obtain ⟨left, right, -⟩ := List.forall_mem_cons.mp all |>.imp_right List.forall_mem_cons.mp
    exact Drain.run_both_unfolded Value.position (alike x spent left) (alike y _ right)
      fun _ _ => rfl
  | _ => rfl

theorem unfoldsAt_pair
    (left : ∀ item spent, first.IsTaken ((first.drain item).run spent).1 →
      first.drain.UnfoldsAt item spent)
    (right : ∀ item spent, second.IsTaken ((second.drain item).run spent).1 →
      second.drain.UnfoldsAt item spent) {value : Value} {spent : Spent}
    (taken : (Representation.pair first second).IsTaken
      (((Representation.pair first second).drain value).run spent).1) :
    (Representation.pair first second).drain.UnfoldsAt value spent := by
  obtain ⟨x', y', components, takenL, takenR⟩ := components_areTaken taken
  rw [drain] at components ⊢
  rw [Drain.UnfoldsAt]
  induction value using Drain.pair.induct with
  | case1 x y =>
    obtain ⟨rfl, rfl⟩ := Prod.mk.inj (Option.some.inj components)
    exact Drain.run_both_unfolded (fun x y => Value.list [x, y]) (left x spent takenL)
      (right y _ takenR) fun _ _ => rfl
  | case2 x y =>
    obtain ⟨rfl, rfl⟩ := Prod.mk.inj (Option.some.inj components)
    exact Drain.run_both_unfolded (fun x y => Value.tuple [x, y]) (left x spent takenL)
      (right y _ takenR) fun _ _ => rfl
  | case3 x y =>
    obtain ⟨rfl, rfl⟩ := Prod.mk.inj (Option.some.inj components)
    exact Drain.run_both_unfolded Value.position (left x spent takenL)
      (right y _ takenR) fun _ _ => rfl
  | case4 => rfl
  | case5 value notList notTuple notPosition notMember =>
    have untouched : Drain.pair first.drain second.drain value = pure value := by
      rw [Drain.pair] <;> assumption
    have single : value.components? = none := by
      rw [Value.components?] <;> assumption
    rw [untouched] at components
    exact absurd (single.symm.trans components) (by simp)

theorem drain_unfolded {representation : Representation} {value : Value} {spent : Spent}
    (taken : representation.IsTaken ((representation.drain value).run spent).1) :
    representation.drain.UnfoldsAt value spent := by
  induction representation generalizing value spent with
  | slice element ih => exact unfoldsAt_slice (fun _ _ => ih) taken
  | pair first second left right =>
    exact unfoldsAt_pair (fun _ _ => left) (fun _ _ => right) taken
  | _ => rfl

end Representation

end EnumTables
