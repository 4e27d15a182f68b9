import EnumTables.ClassObject.Creation
import EnumTables.Proofs.ClassObject.Members

/-!
# Classes of a module

Running a module keeps two things at every step: no name stands twice in a class body, and every
class created so far lists its canonical members. So the members of any class of a module are listed
in the order of their definition (`Scope.isListed_of_run`).
-/

namespace EnumTables

/-! ## Bodies -/

namespace ClassBody

theorem mem_names_put {entries : List (String × Attribute)} {key name : String} {slot : Attribute}
    (h : name ∈ (put entries key slot).map Prod.fst) :
    name = key ∨ name ∈ entries.map Prod.fst := by
  induction entries with
  | nil => exact Or.inl (List.mem_singleton.mp h)
  | cons first rest ih =>
    obtain ⟨other, old⟩ := first
    rw [put] at h
    split at h
    · rcases List.mem_cons.mp h with rfl | later
      · exact Or.inl rfl
      · exact Or.inr (List.mem_cons_of_mem _ later)
    · rcases List.mem_cons.mp h with rfl | later
      · exact Or.inr List.mem_cons_self
      · exact (ih later).imp_right (List.mem_cons_of_mem _)

theorem nodup_put {entries : List (String × Attribute)}
    (distinct : (entries.map Prod.fst).Nodup) (key : String) (slot : Attribute) :
    ((put entries key slot).map Prod.fst).Nodup := by
  induction entries with
  | nil => exact List.nodup_singleton key
  | cons first rest ih =>
    obtain ⟨other, old⟩ := first
    rw [List.map_cons, List.nodup_cons] at distinct
    rw [put]
    split
    · next same =>
      subst same
      rwa [List.map_cons, List.nodup_cons]
    · next apart =>
      rw [List.map_cons, List.nodup_cons]
      refine ⟨fun again => ?_, ih distinct.2⟩
      rcases mem_names_put again with same | later
      · exact apart same
      · exact distinct.1 later

end ClassBody

namespace EnumBody

theorem refused_ne_ok {α β : Type} {outcome : Except Raised α} {refusal : α → Raised} {b : β} :
    (do .error (refusal (← outcome)) : Except Raised β) ≠ .ok b := by
  cases outcome <;> exact nofun

theorem assign_entries {scope : Scope} {className name : String} {body after : EnumBody}
    {slot : Attribute} (h : assign scope className body name slot = .ok after) :
    ∃ key, after.entries = ClassBody.put body.entries key slot := by
  unfold assign at h
  by_cases isPrivate : ClassBody.isPrivate className name
  · rw [if_pos isPrivate] at h
    obtain rfl := Except.ok.inj h
    exact ⟨name, rfl⟩
  rw [if_neg isPrivate] at h
  by_cases isSunder : ClassBody.isSunder name
  · rw [if_pos isSunder] at h
    split at h
    · cases h
    · split at h
      · split at h
        · next value plain =>
          obtain ⟨ignored, -, h⟩ := bind_eq_ok.mp h
          split at h
          · obtain rfl := Except.ok.inj h
            exact ⟨name, rfl⟩
          · cases h
        · cases h
      · obtain rfl := Except.ok.inj h
        exact ⟨name, rfl⟩
  rw [if_neg isSunder] at h
  by_cases isOrder : name = "__order__"
  · rw [if_pos isOrder] at h
    obtain rfl := Except.ok.inj h
    exact ⟨"_order_", rfl⟩
  rw [if_neg isOrder] at h
  by_cases isDunder : ClassBody.isDunder name
  · rw [if_pos isDunder] at h
    obtain rfl := Except.ok.inj h
    exact ⟨name, rfl⟩
  rw [if_neg isDunder] at h
  dsimp only at h
  split at h
  · exact (refused_ne_ok h).elim
  · split at h
    · obtain rfl := Except.ok.inj h
      exact ⟨name, rfl⟩
    · split at h
      · exact (refused_ne_ok h).elim
      · obtain rfl := Except.ok.inj h
        exact ⟨name, rfl⟩

theorem members_nodup {scope : Scope} {body : EnumBody}
    (distinct : (body.entries.map Prod.fst).Nodup) :
    ((body.members scope).map Prod.fst).Nodup := by
  refine distinct.sublist ?_
  unfold members
  induction body.entries with
  | nil => exact List.nil_sublist _
  | cons first rest ih =>
    obtain ⟨name, slot⟩ := first
    rw [List.filterMap_cons]
    split
    · exact ih.cons _
    · next entry kept =>
      dsimp only at kept
      split at kept
      · obtain ⟨value, -, rfl⟩ := Option.map_eq_some_iff.mp kept
        exact ih.cons_cons name
      · cases kept

end EnumBody

/-! ## Classes -/

def Scope.IsListed (scope : Scope) : Prop :=
  ∀ cls ∈ scope.classes, cls.IsListed

namespace ClassObject

theorem isListed_of_none {cls : ClassObject} (h : cls.enumeration = none) : cls.IsListed :=
  fun _ found => by rw [h] at found; cases found

theorem isListed_plainClass (name : ClassName) : (plainClass name).IsListed :=
  isListed_of_none rfl

theorem isListed_append {scope : Scope} {cls : ClassObject} (listed : scope.IsListed)
    (last : cls.IsListed) : Scope.IsListed { scope with classes := scope.classes ++ [cls] } := by
  intro other inside
  rcases List.mem_append.mp inside with earlier | here
  · exact listed other earlier
  · rw [List.mem_singleton.mp here]
    exact last

/-- No name stands twice in a body, and the classes before it list their canonical members. -/
structure Body.IsSound (body : Body) : Prop where
  distinct : (body.entries.entries.map Prod.fst).Nodup
  listed : body.scope.IsListed

namespace Body

variable {className : String} {body after : Body}

theorem IsSound.assign (sound : body.IsSound) {name : String} {slot : Attribute}
    (h : body.assign className name slot = .ok after) : after.IsSound := by
  unfold Body.assign at h
  split at h
  · obtain ⟨entries, assigned, h⟩ := bind_eq_ok.mp h
    obtain rfl := Except.ok.inj h
    obtain ⟨key, put⟩ := EnumBody.assign_entries assigned
    refine ⟨?_, sound.listed⟩
    rw [put]
    exact ClassBody.nodup_put sound.distinct key slot
  · obtain rfl := Except.ok.inj h
    exact ⟨ClassBody.nodup_put sound.distinct name slot, sound.listed⟩

theorem IsSound.runValues (sound : body.IsSound) {values : List (String × Value)}
    (h : body.runValues className values = .ok after) : after.IsSound := by
  refine keeps_of_foldlM IsSound (fun before entry middle kept step => ?_) sound h
  obtain ⟨value, -, step⟩ := bind_eq_ok.mp step
  exact kept.assign step

theorem IsSound.runAttributes (sound : body.IsSound) {deferred : Bool} {path : String}
    {models : List AttributeModel}
    (h : body.runAttributes deferred path className models = .ok after) : after.IsSound := by
  refine keeps_of_foldlM IsSound (fun before model middle kept step => ?_) sound h
  obtain ⟨slot, -, step⟩ := bind_eq_ok.mp step
  cases slot with
  | nestedClass name =>
    have extended : IsSound { before with scope := { before.scope with
        classes := before.scope.classes ++ [plainClass name] } } :=
      ⟨kept.distinct, isListed_append kept.listed (isListed_plainClass name)⟩
    exact extended.assign step
  | _ => exact kept.assign step

end Body

theorem isListed_of_ofBody {body : Body} (sound : body.IsSound) {path : String}
    {bases : List ClassName} {dataClass : Option ClassName} {positionMark : Option Value}
    {cls : ClassObject} (h : ofBody body path bases dataClass positionMark = .ok cls) :
    cls.IsListed := by
  unfold ofBody at h
  split at h
  · cases h
  · obtain ⟨layout, -, h⟩ := bind_eq_ok.mp h
    obtain ⟨order, -, h⟩ := bind_eq_ok.mp h
    split at h
    · obtain ⟨made, added, h⟩ := bind_eq_ok.mp h
      have same : made = cls := by
        dsimp only at h
        split at h
        · obtain ⟨asked, -, h⟩ := bind_eq_ok.mp h
          obtain ⟨-, -, h⟩ := bind_eq_ok.mp h
          exact Except.ok.inj h
        · exact Except.ok.inj h
      rw [← same]
      refine addMembers_isListed added (fun enumeration found => ?_) (fun enumeration found => ?_)
      · obtain rfl := Option.some.inj found
        exact Enumeration.inOrder_empty _ _ _
      · obtain rfl := Option.some.inj found
        exact EnumBody.members_nodup sound.distinct
    · obtain rfl := Except.ok.inj h
      exact isListed_of_none rfl

mutual

theorem isListed_of_create {deferred : Bool} {outer : String}
    {enclosing : List (String × Attribute)} {scope after : Scope} {model : ClassModel}
    {made : ClassName} (listed : scope.IsListed)
    (h : create deferred outer enclosing scope model = .ok (after, made)) : after.IsListed := by
  cases model with
  | mk name bases members attributes nested positionMark =>
    rw [create] at h
    obtain ⟨bases, -, h⟩ := bind_eq_ok.mp h
    obtain ⟨dataClass, -, h⟩ := bind_eq_ok.mp h
    obtain ⟨valued, values, h⟩ := bind_eq_ok.mp h
    obtain ⟨filled, inner, h⟩ := bind_eq_ok.mp h
    obtain ⟨body, run, h⟩ := bind_eq_ok.mp h
    obtain ⟨positionMark, -, h⟩ := bind_eq_ok.mp h
    obtain ⟨cls, created, h⟩ := bind_eq_ok.mp h
    obtain ⟨rfl, -⟩ := Prod.mk.inj (Except.ok.inj h)
    have started : Body.IsSound ⟨scope, {}, bases.any (isEnumeration scope)⟩ :=
      ⟨List.nodup_nil, listed⟩
    have sound := (isSound_of_createAll (started.runValues values) inner).runAttributes run
    exact isListed_append sound.listed (isListed_of_ofBody sound created)

theorem isSound_of_createAll {deferred : Bool} {outer className : String} {body after : Body}
    {models : List ClassModel} (sound : body.IsSound)
    (h : createAll deferred outer className body models = .ok after) : after.IsSound := by
  cases models with
  | nil =>
    rw [createAll] at h
    obtain rfl := Except.ok.inj h
    exact sound
  | cons model rest =>
    rw [createAll] at h
    obtain ⟨⟨scope, made⟩, created, h⟩ := bind_eq_ok.mp h
    obtain ⟨assigned, put, h⟩ := bind_eq_ok.mp h
    have listed := isListed_of_create sound.listed created
    have extended : Body.IsSound { body with scope := scope } := ⟨sound.distinct, listed⟩
    exact isSound_of_createAll (extended.assign put) h

end

theorem isListed_of_createTop {deferred : Bool} {scope after : Scope} {models : List ClassModel}
    (listed : scope.IsListed) (h : createTop deferred scope models = .ok after) :
    after.IsListed := by
  induction models generalizing scope with
  | nil =>
    obtain rfl := Except.ok.inj h
    exact listed
  | cons model rest ih =>
    obtain ⟨⟨made, name⟩, created, h⟩ := bind_eq_ok.mp h
    have kept : made.IsListed := isListed_of_create listed created
    have renamed : Scope.IsListed { made with
        names := (made.names.filter fun entry => entry.1 != name.name) ++ [(name.name, name)] } :=
      kept
    exact ih renamed h

end ClassObject

theorem Scope.isListed_of_run {model : ModuleModel} {release : Release} {name : String}
    {scope : Scope} (h : model.run release name = .ok scope) : scope.IsListed := by
  obtain ⟨made, created, h⟩ := bind_eq_ok.mp h
  have listed := ClassObject.isListed_of_createTop (fun _ inside => by cases inside) created
  cases raises : model.raises with
  | none =>
    rw [raises] at h
    obtain rfl := Except.ok.inj h
    exact listed
  | some raised =>
    rw [raises] at h
    cases h

theorem Scope.IsListed.ofName {scope : Scope} (listed : scope.IsListed) (name : ClassName) :
    (ClassObject.ofName scope name).IsListed := by
  unfold ClassObject.ofName
  cases found : scope.class? name with
  | some cls =>
    unfold Scope.class? at found
    split at found
    · exact listed cls (List.mem_of_find?_eq_some found)
    · cases found
  | none =>
    intro enumeration there
    dsimp only at there
    split at there
    · obtain rfl := Option.some.inj there
      exact Enumeration.inOrder_empty _ _ _
    · cases there

end EnumTables
