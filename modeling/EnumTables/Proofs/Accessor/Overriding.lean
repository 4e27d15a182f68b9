import EnumTables.Proofs.Accessor.Discovery
import EnumTables.Proofs.DomainClass.Table

/-!
# Overridden accessors

A definition in a derived class takes the place of an earlier one without a place of its own. Where
it is eligible, the accessor of the name is another one in the same place; where it is not, the name
is gone, and the other accessors stay as they are (`discover_overrides`).
-/

namespace EnumTables.Accessor

variable {scope : Scope} {cls before after : ClassObject} {className name : String}
  {definition : Attribute} {accessors : List Accessor}

/-- Classes searched one after the other define the same names in the same order, and to the same
effect, but for one name. -/
structure AlikeBut (scope : Scope) (name : String) (order order' : List ClassName) : Prop where
  names : (definitionsIn scope order).filter (· != name) =
    (definitionsIn scope order').filter (· != name)
  definitions : ∀ className other, other ≠ name →
    (scope.attributeIn? order other).map (tabulated scope className other) =
      (scope.attributeIn? order' other).map (tabulated scope className other)

/-- Two classes differ in how classes derived from the first owner of a name define it. -/
structure Overrides (scope : Scope) (name : String) (before after : ClassObject) : Prop where
  orders : ∃ derived derived' owner bases, before.order = derived ++ owner :: bases ∧
    after.order = derived' ++ owner :: bases ∧ StandardClass.isMachinery owner = false ∧
    name ∈ ownNames scope owner ∧ AlikeBut scope name derived derived'
  members : memberNames before = memberNames after

/-! ## Names and definitions -/

theorem definitionsIn_append (derived bases : List ClassName) :
    definitionsIn scope (derived ++ bases) =
      definitionsIn scope bases ++ definitionsIn scope derived := by
  rw [definitionsIn, List.reverse_append, List.filter_append, List.flatMap_append]
  rfl

theorem mem_definitionsIn {owner : ClassName} {bases : List ClassName}
    (own : StandardClass.isMachinery owner = false) (h : name ∈ ownNames scope owner) :
    name ∈ definitionsIn scope (owner :: bases) := by
  refine List.mem_flatMap.mpr ⟨owner, List.mem_filter.mpr ⟨?_, by simp [own]⟩, h⟩
  exact List.mem_reverse.mpr List.mem_cons_self

theorem filter_eq_of_alike {names names' : List String} {keeps : String → Bool}
    (drops : keeps name = false) (alike : names.filter (· != name) = names'.filter (· != name)) :
    names.filter keeps = names'.filter keeps := by
  have inner (l : List String) : (l.filter (· != name)).filter keeps = l.filter keeps := by
    rw [List.filter_filter]
    apply List.filter_congr
    intro other _
    by_cases same : other = name
    · rw [same, drops, Bool.false_and]
    · simp [same]
  rw [← inner names, alike, inner]

theorem eraseDups_append_of_alike {front names names' : List String} {keeps : String → Bool}
    (inside : name ∈ front) (alike : names.filter (· != name) = names'.filter (· != name)) :
    ((front ++ names).filter keeps).eraseDups = ((front ++ names').filter keeps).eraseDups := by
  have drops : (!(front.filter keeps).elem name && keeps name) = false := by
    cases kept : keeps name with
    | false => exact Bool.and_false _
    | true =>
      have there : name ∈ front.filter keeps := List.mem_filter.mpr ⟨inside, kept⟩
      simp [there]
  have later : (names.filter keeps).removeAll (front.filter keeps) =
      (names'.filter keeps).removeAll (front.filter keeps) := by
    rw [List.removeAll, List.removeAll, List.filter_filter, List.filter_filter]
    exact filter_eq_of_alike drops alike
  rw [List.filter_append, List.filter_append, List.eraseDups_append, List.eraseDups_append, later]

theorem candidates_of_overrides (h : Overrides scope name before after) :
    candidates scope after = candidates scope before := by
  obtain ⟨⟨derived, derived', owner, bases, first, second, own, defined, alike⟩, members⟩ := h
  rw [candidates_eq, candidates_eq, definitions, definitions, first, second, ← members,
    definitionsIn_append, definitionsIn_append]
  exact (eraseDups_append_of_alike (mem_definitionsIn own defined) alike.names).symm

theorem tabulated_elsewhere {className' : String} {found : Option Accessor}
    (h : tabulated scope className name definition = .ok found) :
    tabulated scope className' name definition = .ok found := by
  cases found with
  | none => exact tabulated_eq_none_iff.mpr (tabulated_eq_none_iff.mp h)
  | some accessor => exact tabulated_eq_some_iff.mpr (tabulated_eq_some_iff.mp h)

theorem toOption_tabulated (className' : String) (definition : Attribute) :
    (tabulated scope className name definition).toOption =
      (tabulated scope className' name definition).toOption := by
  refine Option.ext fun found => ?_
  rw [toOption_eq_some, toOption_eq_some]
  exact ⟨tabulated_elsewhere, tabulated_elsewhere⟩

theorem toOption_settled (scope : Scope) (cls : ClassObject) (className name : String) :
    (settled scope cls name).toOption =
      (((scope.attribute? cls name).map (tabulated scope className name)).map
        Except.toOption).getD (some none) := by
  unfold settled
  cases scope.attribute? cls name with
  | none => rfl
  | some definition => exact toOption_tabulated className definition

theorem settled_of_overrides (h : Overrides scope name before after) {other : String}
    (differs : other ≠ name) :
    (settled scope after other).toOption = (settled scope before other).toOption := by
  obtain ⟨⟨derived, derived', owner, bases, first, second, -, -, alike⟩, -⟩ := h
  have split_ (front : List ClassName) : scope.attributeIn? (front ++ owner :: bases) other =
      (scope.attributeIn? front other).or (scope.attributeIn? (owner :: bases) other) :=
    List.findSome?_append
  rw [toOption_settled scope after name, toOption_settled scope before name]
  simp only [Scope.attribute?, first, second, split_, Option.map_or,
    alike.definitions name other differs]

theorem settled_of_mostDerived (h : IsMostDerived scope cls name definition) :
    settled scope cls name = tabulated scope cls.name.name name definition := by
  rw [settled, attribute?_eq_some_iff.mpr h]

theorem column?_of_overrides (h : Overrides scope name before after) {other : String}
    (differs : other ≠ name) : column? scope after other = column? scope before other := by
  rw [column?, column?, settled_of_overrides h differs]

/-! ## Accessors -/

theorem filter_columns (h : Overrides scope name before after) (names : List String) :
    (names.filterMap (column? scope after)).filter (·.name ≠ name) =
      (names.filterMap (column? scope before)).filter (·.name ≠ name) := by
  induction names with
  | nil => rfl
  | cons first rest ih =>
    by_cases here : first = name
    · subst here
      -- whatever the name has in either class is filtered out
      have dropped (cls : ClassObject) :
          ((first :: rest).filterMap (column? scope cls)).filter (·.name ≠ first) =
            (rest.filterMap (column? scope cls)).filter (·.name ≠ first) := by
        cases column : column? scope cls first with
        | none => rw [List.filterMap_cons_none column]
        | some accessor =>
          rw [List.filterMap_cons_some column, List.filter_cons_of_neg]
          simp [name_of_column? column]
      rw [dropped, dropped, ih]
    · have same := column?_of_overrides h here
      cases column : column? scope before first with
      | none => rw [List.filterMap_cons_none column, List.filterMap_cons_none (same.trans column), ih]
      | some accessor =>
        rw [List.filterMap_cons_some column, List.filterMap_cons_some (same.trans column),
          List.filter_cons, List.filter_cons, ih]

theorem filter_columns_of_none (h : column? scope cls name = none) (names : List String) :
    (names.filterMap (column? scope cls)).filter (·.name ≠ name) =
      names.filterMap (column? scope cls) := by
  apply List.filter_eq_self.mpr
  intro accessor inside
  apply decide_eq_true
  intro same
  obtain ⟨other, -, column⟩ := List.mem_filterMap.mp inside
  obtain rfl : other = name := (name_of_column? column).symm.trans same
  rw [h] at column
  cases column

theorem map_columns (h : Overrides scope name before after) {accessor old : Accessor}
    (now : column? scope after name = some accessor)
    (earlier : column? scope before name = some old) (names : List String) :
    names.filterMap (column? scope after) = (names.filterMap (column? scope before)).map fun other =>
      if other.name = name then accessor else other := by
  rw [List.map_filterMap]
  apply List.filterMap_congr
  intro other _
  by_cases here : other = name
  · rw [here, now, earlier, Option.map_some, if_pos (name_of_column? earlier)]
  · rw [column?_of_overrides h here]
    cases column : column? scope before other with
    | none => rfl
    | some found =>
      have differs : found.name ≠ name := name_of_column? column ▸ here
      rw [Option.map_some, if_neg differs]

theorem discover_of_overrides {found : Option Accessor}
    (h : (discover scope before).result = .ok accessors)
    (overrides : Overrides scope name before after)
    (now : settled scope after name = .ok found) :
    (discover scope after).result =
      .ok ((candidates scope before).filterMap (column? scope after)) := by
  obtain ⟨each, -⟩ := discover_eq_ok_iff.mp h
  rw [discover_eq_ok_iff, candidates_of_overrides overrides]
  refine ⟨?_, rfl⟩
  intro other inside
  by_cases here : other = name
  · rw [here]
    exact ⟨found, now⟩
  · obtain ⟨found, outcome⟩ := each other inside
    refine ⟨found, toOption_eq_some.mp ?_⟩
    rw [settled_of_overrides overrides here, outcome]
    rfl

open DomainClass (selfParameter)

/-- A base with three accessors, a class that takes them over, and one that hides the second of
them by a static method. -/
def shades : ModuleModel where
  name := "m"
  classes := [
    .mk "Base" [] []
      [⟨"label", .property, [selfParameter], none, .read "name"⟩,
        ⟨"cost", .method, [selfParameter], none, .read "value"⟩,
        ⟨"rank", .property, [selfParameter], none, .read "value"⟩] [] none,
    .mk "Plain" ["Base", "Enum"] [("A", .int 1)] [] [] none,
    .mk "Muted" ["Base", "Enum"] [("A", .int 1)]
      [⟨"cost", .staticMethod, [], none, .nothing⟩] [] none]
  raises := none
  deferred := false

def baseName : ClassName := ⟨"m", "Base", 0⟩

def plainName : ClassName := ⟨"m", "Plain", 1⟩

def mutedName : ClassName := ⟨"m", "Muted", 2⟩

def isStatic : Option Attribute → Bool
  | some (.staticMethod _) => true
  | _ => false

def isMember : Option Attribute → Bool
  | some (.member _) => true
  | _ => false

def shownAs (scope : Scope) (cls : ClassObject) : Option (List (String × Bool)) :=
  (discover scope cls).result.toOption.map fun accessors =>
    accessors.map fun accessor => (accessor.name, accessor.isMethod)

structure View where
  orders : List (List ClassName)
  names : List (List String)
  members : List (List String)
  keepMember : List Bool
  hidesCost : Bool
  plain : Option (List (String × Bool))
  deriving DecidableEq

def view (scope : Scope) : View where
  orders := [plainName, mutedName].map fun cls => (ClassObject.ofName scope cls).order
  names := [baseName, plainName, mutedName].map (ownNames scope)
  members := [plainName, mutedName].map fun cls => memberNames (.ofName scope cls)
  keepMember := [plainName, mutedName].map fun cls => isMember (scope.ownAttribute? cls "A")
  hidesCost := isStatic (scope.attribute? (.ofName scope mutedName) "cost")
  plain := shownAs scope (.ofName scope plainName)

def expected : View where
  orders := [[plainName, baseName, StandardClass.enumName "Enum", StandardClass.object],
    [mutedName, baseName, StandardClass.enumName "Enum", StandardClass.object]]
  names := [["label", "cost", "rank"], ["A"], ["cost", "A"]]
  members := [["A"], ["A"]]
  keepMember := [true, true]
  hidesCost := true
  plain := some [("label", false), ("cost", true), ("rank", false)]

theorem shades_view : (shades.run .named "m").toOption.map view = some expected := by
  decide +kernel

theorem exists_shades : ∃ scope, shades.run .named "m" = .ok scope ∧ view scope = expected := by
  obtain ⟨scope, run, seen⟩ := Option.map_eq_some_iff.mp shades_view
  exact ⟨scope, toOption_eq_some.mp run, seen⟩

theorem ownAttribute?_of_notMem {owner : ClassName} (some_ : ownNames scope owner ≠ [])
    (h : name ∉ ownNames scope owner) (standard : owner ≠ StandardClass.tilePosition) :
    scope.ownAttribute? owner name = none := by
  unfold ownNames at some_ h
  unfold Scope.ownAttribute?
  cases found : scope.class? owner with
  | some cls =>
    simp only [found] at h ⊢
    refine List.lookup_eq_none_iff.mpr fun entry inside => bne_iff_ne.mpr fun same => h ?_
    exact same ▸ List.mem_map_of_mem inside
  | none => simp [found, standard] at some_

theorem definitionsIn_singleton {owner : ClassName}
    (own : StandardClass.isMachinery owner = false) :
    definitionsIn scope [owner] = ownNames scope owner := by
  simp [definitionsIn, own]

theorem attributeIn?_singleton (owner : ClassName) (name : String) :
    scope.attributeIn? [owner] name = scope.ownAttribute? owner name := by
  cases own : scope.ownAttribute? owner name <;> simp [Scope.attributeIn?, own]

theorem tabulated_of_isMember {looked : Option Attribute} (h : isMember looked = true) :
    looked.map (tabulated scope className name) = some (.ok none) := by
  unfold isMember at h
  split at h
  · rfl
  · cases h

theorem overrides_shades (seen : view scope = expected) :
    Overrides scope "cost" (.ofName scope plainName) (.ofName scope mutedName) := by
  have orders := congrArg View.orders seen
  have names := congrArg View.names seen
  have members := congrArg View.members seen
  have keepMember := congrArg View.keepMember seen
  simp only [view, expected, List.map_cons, List.map_nil, List.cons.injEq,
    and_true] at orders names members keepMember
  obtain ⟨plain, muted⟩ := orders
  obtain ⟨base, plainOwn, mutedOwn⟩ := names
  obtain ⟨plainMembers, mutedMembers⟩ := members
  obtain ⟨isPlain, isMuted⟩ := keepMember
  refine ⟨⟨[plainName], [mutedName], baseName, _, plain, muted, by decide, by simp [base], ?_, ?_⟩,
    plainMembers.trans mutedMembers.symm⟩
  · rw [definitionsIn_singleton (by decide), definitionsIn_singleton (by decide), plainOwn, mutedOwn]
    decide
  · intro className other differs
    rw [attributeIn?_singleton, attributeIn?_singleton]
    by_cases named : other = "A"
    · subst named
      rw [tabulated_of_isMember isPlain, tabulated_of_isMember isMuted]
    · rw [ownAttribute?_of_notMem (by simp [plainOwn]) (by simp [plainOwn, named]) (by decide),
        ownAttribute?_of_notMem (by simp [mutedOwn]) (by simp [mutedOwn, named, differs])
          (by decide)]

end EnumTables.Accessor
