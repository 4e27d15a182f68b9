import EnumTables.Drain
import EnumTables.Proofs.Value.Tame

/-!
# What reading streams keeps

Reading the streams of a class changes values only: properties, and the name, the ordinal and the
keys of every variant stay (`drained_keeps`), and tame values are tame afterwards.
-/

namespace EnumTables

theorem forall₂_of_mapM_run {σ α β : Type} {R : α → β → Prop} {step : α → StateM σ β}
    (each : ∀ x s, R x ((step x).run s).1) (xs : List α) (s : σ) :
    List.Forall₂ R xs ((xs.mapM step).run s).1 := by
  induction xs generalizing s with
  | nil => exact .nil
  | cons x xs ih =>
    simp only [List.mapM_cons, StateT.run_bind]
    exact .cons (each x s) (ih _)

theorem mem_of_lookup {α : Type} {entries : List (String × α)} {name : String} {value : α}
    (h : entries.lookup name = some value) : (name, value) ∈ entries := by
  obtain ⟨front, back, rfl, -⟩ := List.lookup_eq_some_iff.mp h
  exact List.mem_append_right _ List.mem_cons_self

namespace Drain

def KeepsTame (drain : Drain) : Prop :=
  ∀ value spent, value.isTame = true → ((drain value).run spent).1.isTame = true

variable {element first second : Drain}

theorem items_keepTame (keeps : element.KeepsTame) {items : List Value}
    (tame : Value.areTame items = true) (spent : Spent) :
    Value.areTame ((items.mapM element).run spent).1 = true := by
  rw [Value.areTame_iff] at tame ⊢
  intro item inside
  obtain ⟨before, there, kept⟩ := exists_mem_of_forall₂
    (forall₂_of_mapM_run (R := fun before after => before.isTame = true → after.isTame = true)
      (fun before s => keeps before s) items spent) inside
  exact kept (tame before there)

def both (first second : Drain) (join : Value → Value → Value) (x y : Value) :
    StateM Spent Value := do
  let x ← first x
  return join x (← second y)

theorem both_keepTame (left : first.KeepsTame) (right : second.KeepsTame) {x y : Value}
    {join : Value → Value → Value}
    (joined : ∀ x y, (join x y).isTame = (x.isTame && y.isTame))
    (tame : (join x y).isTame = true) (spent : Spent) :
    ((both first second join x y).run spent).1.isTame = true := by
  rw [joined, Bool.and_eq_true] at tame
  change (join ((first x).run spent).1 ((second y).run ((first x).run spent).2).1).isTame = true
  rw [joined, left x spent tame.1, right y _ tame.2]
  rfl

theorem isTame_position (x y : Value) :
    (Value.position x y).isTame = (x.isTame && y.isTame) := by
  rw [Value.isTame]

theorem isTame_two (kind : Collection) (x y : Value) :
    (Value.collection kind [x, y]).isTame = (x.isTame && y.isTame) := by
  simp [Value.isTame, Value.areTame]

-- what a member holds is not read, and with it the bits of a set stay what they are
theorem member_keepsTame {drain : Drain} {cls : MemberClass} {name : Option String}
    {held data : Value} {looks : Option Looks}
    (keeps : ∀ spent, data.isTame = true → ((drain data).run spent).1.isTame = true)
    (tame : (Value.member cls name held data looks).isTame = true) (spent : Spent) :
    ((do return Value.member cls name held (← drain data) looks :
      StateM Spent Value).run spent).1.isTame = true := by
  simp only [Value.isTame, Bool.and_eq_true] at tame
  change (Value.member cls name held ((drain data).run spent).1 looks).isTame = true
  simp only [Value.isTame, Bool.and_eq_true]
  exact ⟨tame.1, keeps spent tame.2⟩

theorem keepsTame_slice (keeps : element.KeepsTame) : (slice element).KeepsTame
  | .collection (.stream mark) items, spent, tame => by
    cases read : mark.any (List.contains spent) with
    | true =>
      simp only [slice, StateT.run_bind, StateT.run_get, pure_bind, read, if_true]
      rfl
    | false =>
      simp only [slice, StateT.run_bind, StateT.run_get, pure_bind, read, Bool.false_eq_true,
        if_false, StateT.run_modify]
      exact items_keepTame keeps tame _
  | .collection .list items, spent, tame | .collection .tuple items, spent, tame
  | .collection .set items, spent, tame | .collection .frozenSet items, spent, tame =>
    items_keepTame keeps tame spent
  | .mapping readOnly entries, spent, tame => by
    have parts := Value.entriesAreTame_iff.mp tame
    refine Value.entriesAreTame_iff.mpr fun pair inside => ?_
    obtain ⟨after, read, taken⟩ := List.mem_filterMap.mp inside
    obtain ⟨before, there, kept⟩ := exists_mem_of_forall₂
      (forall₂_of_mapM_run (R := fun before after => (Value.entry before).isTame = true →
        after.isTame = true) (fun before s => keeps (Value.entry before) s) entries spent)
      read
    have tameEntry : (Value.entry before).isTame = true := by
      simp [Value.entry, Value.isTame, Value.areTame, parts before there]
    exact Value.components?_isTame (kept tameEntry) taken
  | .position _ _, spent, tame =>
    both_keepTame keeps keeps isTame_position tame spent
  | .member _ _ _ data _, spent, tame =>
    member_keepsTame (fun spent => keepsTame_slice keeps data spent) tame spent
  | .null, _, tame | .bool _, _, tame | .int _, _, tame | .float _, _, tame
  | .text _, _, tame | .bytes _ _, _, tame | .range _ _ _, _, tame | .object _ _, _, tame
  | .record _, _, tame => tame

theorem keepsTame_pair (left : first.KeepsTame) (right : second.KeepsTame) :
    (pair first second).KeepsTame := by
  intro value spent tame
  induction value using pair.induct generalizing spent with
  | case1 x y => exact both_keepTame left right (isTame_two .list) tame spent
  | case2 x y => exact both_keepTame left right (isTame_two .tuple) tame spent
  | case3 x y => exact both_keepTame left right isTame_position tame spent
  | case4 cls name held data looks ih =>
    exact member_keepsTame ih tame spent
  | case5 value =>
    rw [pair] <;> assumption

end Drain

theorem Representation.drain_keepsTame (representation : Representation) :
    representation.drain.KeepsTame := by
  induction representation with
  | slice element ih => exact Drain.keepsTame_slice ih
  | pair first second left right => exact Drain.keepsTame_pair left right
  | _ => exact fun _ _ tame => tame

namespace DomainClass

/-- Some value of a variant may raise an exception where it is shown or iterated over. -/
def HasWild (cls : DomainClass) : Prop :=
  ∃ variant ∈ cls.variants, ∃ entry ∈ variant.values, entry.2.isTame = false

/-- The variants differ in their values at most, and tame values are tame afterwards. -/
structure Keeps (before after : Variant) : Prop where
  name : after.name = before.name
  ordinal : after.ordinal = before.ordinal
  keys : after.values.map Prod.fst = before.values.map Prod.fst
  tame : (∀ entry ∈ before.values, entry.2.isTame = true) →
    ∀ entry ∈ after.values, entry.2.isTame = true

theorem Keeps.refl (variant : Variant) : Keeps variant variant := ⟨rfl, rfl, rfl, id⟩

theorem Keeps.trans {first second third : Variant} (h : Keeps first second)
    (h' : Keeps second third) : Keeps first third :=
  ⟨h'.name.trans h.name, h'.ordinal.trans h.ordinal, h'.keys.trans h.keys, h'.tame ∘ h.tame⟩

theorem keeps_put {variant : Variant} {name : String} {value after : Value}
    (found : variant.values.lookup name = some value)
    (keeps : value.isTame = true → after.isTame = true) :
    Keeps variant { variant with values := variant.values.map fun entry =>
      if entry.1 = name then (entry.1, after) else entry } := by
  refine ⟨rfl, rfl, ?_, fun tame => List.forall_mem_map.mpr fun entry inside => ?_⟩
  · rw [List.map_map]
    refine List.map_congr_left fun entry _ => ?_
    dsimp only [Function.comp]
    split <;> rfl
  · split
    · exact keeps (tame (name, value) (mem_of_lookup found))
    · exact tame entry inside

theorem drainVariant_keeps (fields : List Field) (variant : Variant) (spent : Spent) :
    Keeps variant ((drainVariant fields variant).run spent).1 := by
  unfold drainVariant
  induction fields generalizing variant spent with
  | nil => exact .refl variant
  | cons field rest ih =>
    rw [List.foldlM_cons]
    cases found : variant.values.lookup field.sourceName with
    | none => exact ih variant spent
    | some value =>
      exact (keeps_put found (field.representation.drain_keepsTame value spent)).trans (ih _ _)

theorem drained_keeps (cls : DomainClass) (spent : Spent) :
    (cls.drained.run spent).1.name = cls.name ∧
      (cls.drained.run spent).1.properties = cls.properties ∧
      List.Forall₂ Keeps cls.variants (cls.drained.run spent).1.variants := by
  unfold drained
  cases Schema.ofClass cls with
  | error error => exact ⟨rfl, rfl, List.forall₂_same.mpr fun variant _ => .refl variant⟩
  | ok schema =>
    exact ⟨rfl, rfl, forall₂_of_mapM_run
      (fun variant s => drainVariant_keeps schema.fields variant s) cls.variants spent⟩

theorem hasWild_of_drained {cls : DomainClass} {spent : Spent}
    (h : (cls.drained.run spent).1.HasWild) : cls.HasWild := by
  obtain ⟨-, -, each⟩ := drained_keeps cls spent
  obtain ⟨variant, inside, entry, held, wild⟩ := h
  obtain ⟨before, there, keeps⟩ := exists_mem_of_forall₂ each inside
  by_contra tame
  have stays := keeps.tame (fun entry held => Bool.eq_true_of_not_eq_false fun wild =>
    tame ⟨before, there, entry, held, wild⟩) entry held
  rw [wild] at stays
  cases stays

end DomainClass

end EnumTables
