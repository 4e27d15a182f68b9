import EnumTables.Proofs.DomainClass.Rows

/-!
# Discovered accessors

The place of an accessor comes from one end of the search order and its definition from the other.
Names stand in the order in which they are first defined, base classes first, and each of them is
tabulated as its most derived definition says, or not at all (`discover_isDiscovery`).
-/

namespace EnumTables.Accessor

variable {scope : Scope} {cls : ClassObject} {className name : String} {definition : Attribute}
  {accessors : List Accessor}

/-! ## Names -/

/-- The names that classes define, those of base classes first. -/
def definitionsIn (scope : Scope) (order : List ClassName) : List String :=
  (order.reverse.filter fun owner => !StandardClass.isMachinery owner).flatMap (ownNames scope)

def definitions (scope : Scope) (cls : ClassObject) : List String :=
  definitionsIn scope cls.order

def memberNames (cls : ClassObject) : List String :=
  (cls.enumeration.map Enumeration.names).getD []

structure IsPublic (cls : ClassObject) (name : String) : Prop where
  unmarked : name.toList.head? ≠ some '_'
  notName : name ≠ "name"
  notValue : name ≠ "value"
  notMember : name ∉ memberNames cls

theorem isCandidate_iff : isCandidate (memberNames cls) name ↔ IsPublic cls name := by
  simp only [isCandidate, incidentalNames, Bool.and_eq_true, Bool.not_eq_true', beq_eq_false_iff_ne,
    List.contains_eq_mem, decide_eq_false_iff_not, List.mem_cons, List.not_mem_nil, or_false, not_or]
  constructor
  · rintro ⟨⟨unmarked, notName, notValue⟩, notMember⟩
    exact ⟨unmarked, notName, notValue, notMember⟩
  · rintro ⟨unmarked, notName, notValue, notMember⟩
    exact ⟨⟨unmarked, notName, notValue⟩, notMember⟩

theorem candidates_eq (scope : Scope) (cls : ClassObject) : candidates scope cls =
    ((definitions scope cls).filter (isCandidate (memberNames cls))).eraseDups := rfl

theorem mem_candidates_iff :
    name ∈ candidates scope cls ↔ name ∈ definitions scope cls ∧ IsPublic cls name := by
  rw [candidates_eq, List.mem_eraseDups, List.mem_filter, isCandidate_iff]

theorem idxOf_cons_lt {first a b : String} {rest : List String} (ha : a ≠ first) (hb : b ≠ first)
    (h : rest.idxOf a < rest.idxOf b) : (first :: rest).idxOf a < (first :: rest).idxOf b := by
  rw [List.idxOf_cons_ne _ ha.symm, List.idxOf_cons_ne _ hb.symm]
  exact Nat.succ_lt_succ h

theorem idxOf_filter_lt {names : List String} {keeps : String → Bool} {a b : String}
    (ha : keeps a = true) (hb : keeps b = true)
    (h : (names.filter keeps).idxOf a < (names.filter keeps).idxOf b) :
    names.idxOf a < names.idxOf b := by
  induction names with
  | nil => simp at h
  | cons first rest ih =>
    by_cases kept : keeps first = true
    · rw [List.filter_cons_of_pos kept] at h
      by_cases here : a = first
      · subst here
        by_cases same : b = a
        · exact absurd (same ▸ h) (Nat.lt_irrefl _)
        · rw [List.idxOf_cons_self, List.idxOf_cons_ne _ (Ne.symm same)]
          exact Nat.succ_pos _
      · by_cases there : b = first
        · subst there
          rw [List.idxOf_cons_self] at h
          exact absurd h (Nat.not_lt_zero _)
        · rw [List.idxOf_cons_ne _ (Ne.symm here), List.idxOf_cons_ne _ (Ne.symm there)] at h
          exact idxOf_cons_lt here there (ih (Nat.lt_of_succ_lt_succ h))
    · rw [List.filter_cons_of_neg kept] at h
      exact idxOf_cons_lt (fun same => kept (same ▸ ha)) (fun same => kept (same ▸ hb)) (ih h)

theorem eraseDups_pairwise (names : List String) :
    names.eraseDups.Pairwise fun a b => names.idxOf a < names.idxOf b := by
  match names with
  | [] => simp
  | first :: rest =>
    have later := eraseDups_pairwise (rest.filter fun other => !other == first)
    have other {name : String}
        (h : name ∈ (rest.filter fun other => !other == first).eraseDups) : name ≠ first := by
      rw [List.mem_eraseDups, List.mem_filter] at h
      simpa using h.2
    rw [List.eraseDups_cons, List.pairwise_cons]
    refine ⟨?_, later.imp_of_mem ?_⟩
    · intro name inside
      rw [List.idxOf_cons_self, List.idxOf_cons_ne _ (other inside).symm]
      exact Nat.succ_pos _
    · intro a b ha hb order
      exact idxOf_cons_lt (other ha) (other hb)
        (idxOf_filter_lt (by simpa using other ha) (by simpa using other hb) order)
termination_by names.length
decreasing_by exact Nat.lt_succ_of_le (List.length_filter_le _ _)

theorem candidates_pairwise (scope : Scope) (cls : ClassObject) :
    (candidates scope cls).Pairwise fun a b =>
      (definitions scope cls).idxOf a < (definitions scope cls).idxOf b := by
  rw [candidates_eq]
  refine (eraseDups_pairwise _).imp_of_mem ?_
  intro a b ha hb order
  rw [List.mem_eraseDups, List.mem_filter] at ha hb
  exact idxOf_filter_lt ha.2 hb.2 order

/-! ## Definitions -/

/-- The definition of a name in the first class of the search order that has one. -/
def IsMostDerived (scope : Scope) (cls : ClassObject) (name : String) (definition : Attribute) :
    Prop :=
  ∃ derived owner bases, cls.order = derived ++ owner :: bases ∧
    (∀ other ∈ derived, scope.ownAttribute? other name = none) ∧
    scope.ownAttribute? owner name = some definition

theorem attribute?_eq_some_iff :
    scope.attribute? cls name = some definition ↔ IsMostDerived scope cls name definition := by
  rw [Scope.attribute?, Scope.attributeIn?, List.findSome?_eq_some_iff]
  constructor
  · rintro ⟨derived, owner, bases, order, found, others⟩
    exact ⟨derived, owner, bases, order, others, found⟩
  · rintro ⟨derived, owner, bases, order, others, found⟩
    exact ⟨derived, owner, bases, order, found, others⟩

inductive Returns (scope : Scope) (function : Function) : Descriptor → Prop
  | undeclared {types : List (String × TypeForm)} : function.signature scope = .ok types →
      types.lookup Function.resultKey = none → Returns scope function .undeclared
  | declared {types : List (String × TypeForm)} {result : TypeForm} {type : Descriptor} :
      function.signature scope = .ok types →
      types.lookup Function.resultKey = some result → result.isNoneType = false →
      result.describe = .ok type → Returns scope function type

def ReturnsNothing (scope : Scope) (function : Function) : Prop :=
  ∃ types result, function.signature scope = .ok types ∧
    types.lookup Function.resultKey = some result ∧ result.isNoneType = true

inductive Tabulates (scope : Scope) (name : String) : Attribute → Accessor → Prop
  | property {getter : Function} {type : Descriptor} : Returns scope getter type →
      Tabulates scope name (.property (some getter)) ⟨name, type, false⟩
  | method {function : Function} {type : Descriptor} : takesOnlyMember function = true →
      Returns scope function type → Tabulates scope name (.method function) ⟨name, type, true⟩

inductive IsIneligible (scope : Scope) : Attribute → Prop
  | writeOnly : IsIneligible scope (.property none)
  | absentProperty {getter : Function} : ReturnsNothing scope getter →
      IsIneligible scope (.property (some getter))
  | absentMethod {function : Function} : takesOnlyMember function = true →
      ReturnsNothing scope function → IsIneligible scope (.method function)
  | takesMore {function : Function} : takesOnlyMember function = false →
      IsIneligible scope (.method function)
  | staticMethod {function : Function} : IsIneligible scope (.staticMethod function)
  | classMethod {function : Function} : IsIneligible scope (.classMethod function)
  | cachedProperty {function : Function} : IsIneligible scope (.cachedProperty function)
  | memberProperty {getter : Getter} : IsIneligible scope (.memberProperty getter)
  | dynamicProperty {getter : Function} : IsIneligible scope (.dynamicProperty getter)
  | constant {value : Value} : IsIneligible scope (.constant value)
  | nestedClass {cls : ClassName} : IsIneligible scope (.nestedClass cls)
  | member {hidden : Option Getter} : IsIneligible scope (.member hidden)
  | native {kind : NativeKind} : IsIneligible scope (.native kind)

def tabulated (scope : Scope) (className name : String) :
    Attribute → Except DiscoveryError (Option Accessor)
  | .property (some getter) => ofFunction scope className name getter false
  | .method function =>
    if takesOnlyMember function then ofFunction scope className name function true else .ok none
  | _ => .ok none

theorem ofFunction_eq_some_iff {function : Function} {isMethod : Bool} {accessor : Accessor} :
    ofFunction scope className name function isMethod = .ok (some accessor) ↔
      ∃ type, Returns scope function type ∧ accessor = ⟨name, type, isMethod⟩ := by
  unfold ofFunction
  constructor
  · intro h
    split at h
    · cases h
    · next types signature =>
      split at h
      · next undeclared =>
        exact ⟨_, .undeclared signature undeclared, (Option.some.inj (Except.ok.inj h)).symm⟩
      · next result declared =>
        split at h
        · cases h
        · next something =>
          split at h
          · next type described =>
            exact ⟨_, .declared signature declared (eq_false_of_ne_true something) described,
              (Option.some.inj (Except.ok.inj h)).symm⟩
          · cases h
  · rintro ⟨type, returns, rfl⟩
    cases returns with
    | undeclared signature undeclared => simp [signature, undeclared]
    | declared signature declared something described =>
      simp [signature, declared, something, described]

theorem ofFunction_eq_none_iff {function : Function} {isMethod : Bool} :
    ofFunction scope className name function isMethod = .ok none ↔
      ReturnsNothing scope function := by
  unfold ofFunction
  constructor
  · intro h
    split at h
    · cases h
    · next types signature =>
      split at h
      · cases h
      · next result declared =>
        split at h
        · next nothing => exact ⟨types, result, signature, declared, nothing⟩
        · split at h <;> cases h
  · rintro ⟨types, result, signature, declared, nothing⟩
    simp [signature, declared, nothing]

theorem tabulated_eq_some_iff {accessor : Accessor} :
    tabulated scope className name definition = .ok (some accessor) ↔
      Tabulates scope name definition accessor := by
  constructor
  · intro h
    unfold tabulated at h
    split at h
    · obtain ⟨type, returns, rfl⟩ := ofFunction_eq_some_iff.mp h
      exact .property returns
    · split at h
      · next only =>
        obtain ⟨type, returns, rfl⟩ := ofFunction_eq_some_iff.mp h
        exact .method only returns
      · cases h
    · cases h
  · intro h
    cases h with
    | property returns => exact ofFunction_eq_some_iff.mpr ⟨_, returns, rfl⟩
    | method only returns =>
      rw [tabulated, if_pos only]
      exact ofFunction_eq_some_iff.mpr ⟨_, returns, rfl⟩

theorem tabulated_eq_none_iff :
    tabulated scope className name definition = .ok none ↔ IsIneligible scope definition := by
  constructor
  · intro h
    cases definition with
    | property getter =>
      cases getter with
      | none => exact .writeOnly
      | some getter => exact .absentProperty (ofFunction_eq_none_iff.mp h)
    | method function =>
      rw [tabulated] at h
      split at h
      · next only => exact .absentMethod only (ofFunction_eq_none_iff.mp h)
      · next more => exact .takesMore (eq_false_of_ne_true more)
    | _ => constructor
  · intro h
    cases h with
    | absentProperty nothing => exact ofFunction_eq_none_iff.mpr nothing
    | absentMethod only nothing =>
      rw [tabulated, if_pos only]
      exact ofFunction_eq_none_iff.mpr nothing
    | takesMore more => rw [tabulated, if_neg (by simp [more])]
    | _ => rfl

def settled (scope : Scope) (cls : ClassObject) (name : String) :
    Except DiscoveryError (Option Accessor) :=
  match scope.attribute? cls name with
  | none => .ok none
  | some definition => tabulated scope cls.name.name name definition

/-! ## Accessors in order -/

theorem map_nil_append {ε α : Type} (outcome : Except ε (List α)) :
    outcome.map ([] ++ ·) = outcome := by
  cases outcome <;> rfl

theorem discoverFrom_cons (name : String) (rest : List String) :
    (discoverFrom scope cls (name :: rest)).result = match settled scope cls name with
      | .error error => .error error
      | .ok found => (discoverFrom scope cls rest).result.map (found.toList ++ ·) := by
  rw [discoverFrom, settled]
  cases scope.attribute? cls name with
  | none => exact (map_nil_append _).symm
  | some definition =>
    cases definition with
    | property getter =>
      cases getter with
      | none => exact (map_nil_append _).symm
      | some getter =>
        simp only [judge, tabulated]
        cases ofFunction scope cls.name.name name getter false with
        | error cause => rfl
        | ok found => cases found <;> first | rfl | exact (map_nil_append _).symm
    | method function =>
      simp only [judge, tabulated]
      by_cases only : takesOnlyMember function = true
      · rw [if_pos only, if_pos only]
        dsimp only
        cases ofFunction scope cls.name.name name function true with
        | error cause => rfl
        | ok found => cases found <;> first | rfl | exact (map_nil_append _).symm
      · rw [if_neg only, if_neg only]
        exact (map_nil_append _).symm
    | _ => exact (map_nil_append _).symm

def column? (scope : Scope) (cls : ClassObject) (name : String) : Option Accessor :=
  (settled scope cls name).toOption.join

theorem column?_of_settled {found : Option Accessor} (h : settled scope cls name = .ok found) :
    column? scope cls name = found := by
  rw [column?, h]
  rfl

theorem discoverFrom_eq_ok_iff {names : List String} :
    (discoverFrom scope cls names).result = .ok accessors ↔
      (∀ name ∈ names, ∃ found, settled scope cls name = .ok found) ∧
        accessors = names.filterMap (column? scope cls) := by
  induction names generalizing accessors with
  | nil => simp [discoverFrom, eq_comm]
  | cons name rest ih =>
    rw [discoverFrom_cons, List.forall_mem_cons]
    cases first : settled scope cls name with
    | error cause => simp
    | ok found =>
      have column := column?_of_settled first
      have front : (name :: rest).filterMap (column? scope cls) =
          found.toList ++ rest.filterMap (column? scope cls) := by
        cases found <;> simp [column]
      rw [front]
      cases others : (discoverFrom scope cls rest).result with
      | error error =>
        have fails : ¬∀ name ∈ rest, ∃ found, settled scope cls name = .ok found := fun each => by
          have made := ih.mpr ⟨each, rfl⟩
          simp [others] at made
        simp [Except.map, fails]
      | ok more =>
        obtain ⟨each, rfl⟩ := ih.mp others
        simp only [Except.map, Except.ok.injEq]
        exact ⟨fun same => ⟨⟨⟨found, rfl⟩, each⟩, same.symm⟩, fun h => h.2.symm⟩

theorem discover_eq_ok_iff :
    (discover scope cls).result = .ok accessors ↔
      (∀ name ∈ candidates scope cls, ∃ found, settled scope cls name = .ok found) ∧
        accessors = (candidates scope cls).filterMap (column? scope cls) :=
  discoverFrom_eq_ok_iff

/-! ## What is discovered -/

theorem Tabulates.name_eq {accessor : Accessor} (h : Tabulates scope name definition accessor) :
    accessor.name = name := by
  cases h <;> rfl

theorem settled_eq_ok_iff {found : Option Accessor} (defined : scope.attribute? cls name ≠ none) :
    settled scope cls name = .ok found ↔ ∃ definition, IsMostDerived scope cls name definition ∧
      tabulated scope cls.name.name name definition = .ok found := by
  unfold settled
  cases looked : scope.attribute? cls name with
  | none => exact absurd looked defined
  | some definition =>
    have derived := attribute?_eq_some_iff.mp looked
    constructor
    · intro h
      exact ⟨definition, derived, h⟩
    · rintro ⟨other, derived', h⟩
      obtain rfl := Option.some.inj (looked.symm.trans (attribute?_eq_some_iff.mpr derived'))
      exact h

theorem column?_eq_some {accessor : Accessor} (h : column? scope cls name = some accessor) :
    ∃ definition, IsMostDerived scope cls name definition ∧
      Tabulates scope name definition accessor := by
  unfold column? settled at h
  cases looked : scope.attribute? cls name with
  | none => simp [looked, Except.toOption] at h
  | some definition =>
    simp only [looked] at h
    cases outcome : tabulated scope cls.name.name name definition with
    | error cause => simp [outcome, Except.toOption] at h
    | ok found =>
      obtain rfl : found = some accessor := by simpa [outcome, Except.toOption] using h
      exact ⟨definition, attribute?_eq_some_iff.mp looked, tabulated_eq_some_iff.mp outcome⟩

theorem name_of_column? {accessor : Accessor} (h : column? scope cls name = some accessor) :
    accessor.name = name := by
  obtain ⟨_, -, tabulates⟩ := column?_eq_some h
  exact tabulates.name_eq

theorem names_of_columns (names : List String) :
    ((names.filterMap (column? scope cls)).map Accessor.name).Sublist names := by
  induction names with
  | nil => exact List.nil_sublist _
  | cons name rest ih =>
    cases column : column? scope cls name with
    | none =>
      rw [List.filterMap_cons_none column]
      exact ih.cons _
    | some accessor =>
      rw [List.filterMap_cons_some column, List.map_cons, name_of_column? column]
      exact ih.cons_cons _

theorem ownAttribute?_of_mem {owner : ClassName} (h : name ∈ ownNames scope owner) :
    scope.ownAttribute? owner name ≠ none := by
  unfold ownNames at h
  unfold Scope.ownAttribute?
  cases found : scope.class? owner with
  | some cls =>
    rw [found] at h
    simp only
    obtain ⟨entry, inside, rfl⟩ := List.mem_map.mp h
    intro absent
    have differs := List.lookup_eq_none_iff.mp absent entry inside
    simp at differs
  | none =>
    rw [found] at h
    simp only at h ⊢
    split at h
    · next position =>
      subst position
      rcases List.mem_pair.mp h with rfl | rfl <;> decide +kernel
    · exact absurd h List.not_mem_nil

theorem attribute?_of_mem (h : name ∈ definitions scope cls) : scope.attribute? cls name ≠ none := by
  obtain ⟨owner, inside, own⟩ := List.mem_flatMap.mp h
  have searched : owner ∈ cls.order := List.mem_reverse.mp (List.mem_of_mem_filter inside)
  intro absent
  exact ownAttribute?_of_mem own (List.findSome?_eq_none_iff.mp absent owner searched)

/-- Accessors stand in the order in which their names are first defined, and each is tabulated as
the most derived definition of its name says; a public name without one has an ineligible
definition. -/
structure IsDiscovery (scope : Scope) (cls : ClassObject) (accessors : List Accessor) : Prop where
  distinct : (accessors.map Accessor.name).Nodup
  isPublic : ∀ accessor ∈ accessors, IsPublic cls accessor.name
  ordered : (accessors.map Accessor.name).Pairwise fun a b =>
    (definitions scope cls).idxOf a < (definitions scope cls).idxOf b
  tabulated : ∀ accessor ∈ accessors, accessor.name ∈ definitions scope cls ∧
    ∃ definition, IsMostDerived scope cls accessor.name definition ∧
      Tabulates scope accessor.name definition accessor
  complete : ∀ name ∈ definitions scope cls, IsPublic cls name →
    ∃ definition, IsMostDerived scope cls name definition ∧
      ((∃ accessor ∈ accessors, Tabulates scope name definition accessor) ∨
        IsIneligible scope definition ∧ name ∉ accessors.map Accessor.name)

theorem discover_isDiscovery (h : (discover scope cls).result = .ok accessors) :
    IsDiscovery scope cls accessors where
  distinct := distinct_of_discover h
  isPublic accessor inside := by
    obtain ⟨-, rfl⟩ := discover_eq_ok_iff.mp h
    obtain ⟨name, candidate, column⟩ := List.mem_filterMap.mp inside
    rw [name_of_column? column]
    exact (mem_candidates_iff.mp candidate).2
  ordered := by
    obtain ⟨-, rfl⟩ := discover_eq_ok_iff.mp h
    exact (candidates_pairwise scope cls).sublist (names_of_columns _)
  tabulated accessor inside := by
    obtain ⟨-, rfl⟩ := discover_eq_ok_iff.mp h
    obtain ⟨name, candidate, column⟩ := List.mem_filterMap.mp inside
    obtain rfl := name_of_column? column
    exact ⟨(mem_candidates_iff.mp candidate).1, column?_eq_some column⟩
  complete name defined isPublic := by
    obtain ⟨each, rfl⟩ := discover_eq_ok_iff.mp h
    have candidate := mem_candidates_iff.mpr ⟨defined, isPublic⟩
    obtain ⟨found, outcome⟩ := each name candidate
    have column := column?_of_settled outcome
    obtain ⟨definition, derived, comes⟩ :=
      (settled_eq_ok_iff (attribute?_of_mem defined)).mp outcome
    refine ⟨definition, derived, ?_⟩
    cases found with
    | some accessor =>
      exact Or.inl ⟨accessor, List.mem_filterMap.mpr ⟨name, candidate, column⟩,
        tabulated_eq_some_iff.mp comes⟩
    | none =>
      refine Or.inr ⟨tabulated_eq_none_iff.mp comes, ?_⟩
      intro inside
      obtain ⟨accessor, found, same⟩ := List.mem_map.mp inside
      obtain ⟨other, -, column'⟩ := List.mem_filterMap.mp found
      obtain rfl : other = name := (name_of_column? column').symm.trans same
      rw [column] at column'
      cases column'

end EnumTables.Accessor
