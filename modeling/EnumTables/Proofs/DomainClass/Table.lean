import EnumTables.Generation
import EnumTables.Proofs.DomainClass.Rows
import EnumTables.Proofs.Drain
import EnumTables.Proofs.SourceUnit.Failures

/-!
# The table of a class

What is loaded from a class of a module is a full table: one variant for each canonical member, in
its place, with a value for each property and no other. Neither an ordinal nor a missing value can
therefore keep it from being written. If it cannot be loaded, the failure is that of the first
member that cannot be read, at the first of its accessors that cannot be (`load_table`).
-/

namespace EnumTables

def ClassObject.canonicalMembers (cls : ClassObject) : List Value :=
  match cls.enumeration with
  | some enumeration => (enumeration.canonical cls.isFlag).map (cls.memberValue enumeration)
  | none => []

namespace DomainClass

open SourceUnit (InPlaceFrom emit emit_reports)

/-! ## Rectangles -/

structure IsRectangular (cls : DomainClass) : Prop where
  distinct : (cls.properties.map Property.name).Nodup
  inPlace : InPlaceFrom 0 cls.variants
  keys : ∀ variant ∈ cls.variants,
    variant.values.map Prod.fst = cls.properties.map Property.name

theorem exists_lookup {α : Type} {entries : List (String × α)} {name : String}
    (h : name ∈ entries.map Prod.fst) : ∃ value, entries.lookup name = some value := by
  obtain ⟨entry, inside, rfl⟩ := List.mem_map.mp h
  cases found : entries.lookup entry.1 with
  | some value => exact ⟨value, rfl⟩
  | none =>
    have absent := List.lookup_eq_none_iff.mp found entry inside
    simp at absent

theorem valueFailure_of_mem {properties : List Property} {place : Nat} {variants : List Variant}
    {error : EmissionError} (inPlace : InPlaceFrom place variants)
    (h : error ∈ Variant.failuresFrom properties place variants) : ∃ variant ∈ variants,
      ∃ property ∈ properties, error ∈ variant.valueFailures property := by
  induction variants generalizing place with
  | nil => exact absurd h List.not_mem_nil
  | cons variant rest ih =>
    rw [Variant.failuresFrom, Variant.failures, if_pos inPlace.1, List.nil_append,
      List.mem_append] at h
    rcases h with value | later
    · exact ⟨variant, List.mem_cons_self, List.mem_flatMap.mp value⟩
    · obtain ⟨other, inside, cause⟩ := ih inPlace.2 later
      exact ⟨other, List.mem_cons_of_mem _ inside, cause⟩

theorem kind_of_valueFailure {variant : Variant} {property : Property} {value : Value}
    {error : EmissionError} (found : variant.values.lookup property.name = some value)
    (h : error ∈ variant.valueFailures property) :
    (∃ cause, error = .unrendered variant.name property.name cause) ∨
      ∃ cause, error = .raised cause := by
  unfold Variant.valueFailures at h
  rw [found] at h
  cases resolved : property.type.resolve with
  | error cause => simp [resolved] at h
  | ok representation =>
    simp only [resolved] at h
    split at h
    · exact absurd h List.not_mem_nil
    · exact Or.inl ⟨_, List.mem_singleton.mp h⟩
    · exact Or.inr ⟨_, List.mem_singleton.mp h⟩

def IsOfContent (error : EmissionError) : Prop :=
  error.IsOfSchema ∨ ∃ variant property cause, error = .unrendered variant property cause

theorem IsRectangular.emit_eq_error {cls : DomainClass} (h : cls.IsRectangular) {prelude : String}
    {error : EmissionError} (failed : (emit cls prelude).result = .error error) :
    IsOfContent error ∨ (∃ cause, error = .raised cause) ∧ cls.HasWild := by
  have among := List.mem_of_head? ((emit_reports cls prelude).eq_error_iff.mp failed)
  rcases List.mem_append.mp among with ofSchema | ofVariant
  · exact Or.inl (Or.inl (Property.isOfSchema_of_mem ofSchema))
  · obtain ⟨variant, inside, property, declared, ofValue⟩ :=
      valueFailure_of_mem h.inPlace ofVariant
    have keyed : property.name ∈ variant.values.map Prod.fst :=
      h.keys variant inside ▸ List.mem_map_of_mem declared
    obtain ⟨value, found⟩ := exists_lookup keyed
    rcases kind_of_valueFailure found ofValue with ⟨cause, rfl⟩ | ⟨cause, rfl⟩
    · exact Or.inl (Or.inr ⟨_, _, cause, rfl⟩)
    · obtain ⟨_, held, wild⟩ := Variant.isWild_of_raised ofValue
      exact Or.inr ⟨⟨cause, rfl⟩, variant, inside, _, mem_of_lookup held, wild⟩

theorem inPlace_of_keeps {place : Nat} {before after : List Variant}
    (each : List.Forall₂ Keeps before after) (h : InPlaceFrom place before) :
    InPlaceFrom place after := by
  induction each generalizing place with
  | nil => trivial
  | cons first _ ih => exact ⟨first.ordinal.trans h.1, ih h.2⟩

theorem IsRectangular.drained {cls : DomainClass} (h : cls.IsRectangular) (spent : Spent) :
    IsRectangular (cls.drained.run spent).1 := by
  obtain ⟨-, properties, each⟩ := drained_keeps cls spent
  refine ⟨properties ▸ h.distinct, inPlace_of_keeps each h.inPlace, fun variant inside => ?_⟩
  obtain ⟨before, there, keeps⟩ := exists_mem_of_forall₂ each inside
  rw [keeps.keys, properties]
  exact h.keys before there

/-! ## Tables -/

/-- The table of a class: its properties are the accessors, and its variants show the canonical
members in order. -/
structure IsTable (scope : Scope) (cls : ClassObject) (accessors : List Accessor)
    (loaded : DomainClass) : Prop where
  name : loaded.name = cls.name.name
  properties : loaded.properties = accessors.map fun accessor => ⟨accessor.name, accessor.type⟩
  rows : List.Forall₂ (fun row variant => Shows scope accessors row.1 row.2 variant)
    cls.canonicalMembers.zipIdx loaded.variants
  rectangular : loaded.IsRectangular

variable {scope : Scope} {cls : ClassObject} {accessors : List Accessor} {loaded : DomainClass}

theorem inPlace_of_shows {members : List Value} {place : Nat} {variants : List Variant}
    (each : List.Forall₂ (fun row variant => Shows scope accessors row.1 row.2 variant)
      (members.zipIdx place) variants) : InPlaceFrom place variants := by
  induction members generalizing place variants with
  | nil =>
    cases each
    trivial
  | cons member rest ih =>
    rw [List.zipIdx_cons, List.forall₂_cons_left_iff] at each
    obtain ⟨variant, others, first, more, rfl⟩ := each
    exact ⟨first.ordinal, ih more⟩

theorem ofAccessors_eq (listed : cls.IsListed) (accessors : List Accessor) :
    ofAccessors scope cls accessors = do
      let variants ← variantsFrom scope cls accessors 0 cls.canonicalMembers
      return ⟨cls.name.name, accessors.map fun accessor => ⟨accessor.name, accessor.type⟩,
        variants⟩ := by
  unfold ofAccessors ClassObject.canonicalMembers
  cases there : cls.enumeration with
  | none => rfl
  | some enumeration => simp only [(listed enumeration there).listed_eq]

theorem isTable_of_ofAccessors (listed : cls.IsListed)
    (distinct : (accessors.map Accessor.name).Nodup)
    (h : ofAccessors scope cls accessors = .ok loaded) : IsTable scope cls accessors loaded := by
  rw [ofAccessors_eq listed] at h
  obtain ⟨variants, made, h⟩ := bind_eq_ok.mp h
  obtain rfl := Except.ok.inj h
  have rows := variantsFrom_eq_ok made
  have names : (accessors.map fun accessor => (⟨accessor.name, accessor.type⟩ : Property)).map
      Property.name = accessors.map Accessor.name := by
    rw [List.map_map]
    rfl
  refine ⟨rfl, rfl, rows, names ▸ distinct, inPlace_of_shows rows, fun variant inside => ?_⟩
  obtain ⟨row, -, shows⟩ := exists_mem_of_forall₂ rows inside
  rw [keys_of_reads shows.values, names]

/-! ## The first member that cannot be read -/

def Readable (scope : Scope) (member : Value) (accessor : Accessor) : Prop :=
  ∃ value, scope.readValue member accessor.name accessor.isMethod = .ok value

/-- How a member is reported on which an accessor has raised an exception: by its name, unless the
exception ends the run or reading the name raises one as well. -/
inductive Reported (scope : Scope) (cls : ClassObject) (member : Value) (accessor : Accessor)
    (raised : Raised) : Failure → Prop
  | caught {label : String} : raised.endsRun = false → scope.shownName member = .ok label →
      Reported scope cls member accessor raised
        (.unreadable cls.name.name label accessor.name raised)
  | nameless {other : Raised} : raised.endsRun = false → scope.shownName member = .error other →
      Reported scope cls member accessor raised (.exception other)
  | uncaught : raised.endsRun = true →
      Reported scope cls member accessor raised (.exception raised)

theorem reported_unreadable (scope : Scope) (cls : ClassObject) (member : Value)
    (accessor : Accessor) (raised : Raised) :
    Reported scope cls member accessor raised (unreadable scope cls member accessor raised) := by
  unfold unreadable
  split
  · next ends => exact .uncaught ends
  · next caught =>
    have goesOn : raised.endsRun = false := by simpa using caught
    split
    · next label shown => exact .caught goesOn shown
    · next other shown => exact .nameless goesOn shown

def NameRaises (scope : Scope) (member : Value) (raised : Raised) : Prop :=
  scope.readValue member "name" false = .error raised ∨
    ∃ name, scope.readValue member "name" false = .ok name ∧
      (scope.dressed name).textRefusal? = some raised

/-- A member cannot be read, and this is how it is reported: at its first accessor that fails, or
by its name if all its accessors can be read. -/
def FailsAt (scope : Scope) (cls : ClassObject) (accessors : List Accessor) (member : Value)
    (failure : Failure) : Prop :=
  (∃ before accessor after raised, accessors = before ++ accessor :: after ∧
    (∀ other ∈ before, Readable scope member other) ∧
    scope.readValue member accessor.name accessor.isMethod = .error raised ∧
    Reported scope cls member accessor raised failure) ∨
  (∀ accessor ∈ accessors, Readable scope member accessor) ∧
    ((∃ raised, NameRaises scope member raised ∧ failure = .exception raised) ∨
    ∃ name faults, scope.readValue member "name" false = .ok name ∧
      (scope.dressed name).textRefusal? = none ∧
      name.readText.within (.key "name") = .error faults ∧ failure = .invalid faults)

theorem readFailures_eq_nil {member : Value} {accessor : Accessor}
    (h : readFailures scope cls member accessor = []) : Readable scope member accessor := by
  unfold readFailures at h
  split at h
  · next value read => exact ⟨value, read⟩
  · cases h

theorem failsAt_of_memberFailures {member : Value} {failure : Failure}
    (h : (memberFailures scope cls accessors member).head? = some failure) :
    FailsAt scope cls accessors member failure := by
  rw [memberFailures, List.head?_append, Option.or_eq_some_iff] at h
  rcases h with ofAccessor | ⟨none, ofName⟩
  · rw [List.head?_flatMap, List.findSome?_eq_some_iff] at ofAccessor
    obtain ⟨before, accessor, after, rfl, here, earlier⟩ := ofAccessor
    unfold readFailures at here
    split at here
    · cases here
    · next raised read =>
      obtain rfl := Option.some.inj here
      refine Or.inl ⟨before, accessor, after, raised, rfl, fun other inside => ?_, read,
        reported_unreadable scope cls member accessor raised⟩
      exact readFailures_eq_nil (List.head?_eq_none_iff.mp (earlier other inside))
  · rw [List.head?_eq_none_iff, List.flatMap_eq_nil_iff] at none
    refine Or.inr ⟨fun accessor inside => readFailures_eq_nil (none accessor inside), ?_⟩
    unfold nameFailures at ofName
    split at ofName
    · next raised read =>
      obtain rfl := Option.some.inj ofName
      exact Or.inl ⟨raised, Or.inl read, rfl⟩
    · next name read =>
      split at ofName
      · next raised refused =>
        obtain rfl := Option.some.inj ofName
        exact Or.inl ⟨raised, Or.inr ⟨name, read, refused⟩, rfl⟩
      · next taken =>
        split at ofName
        · cases ofName
        · next faults wrong =>
          obtain rfl := Option.some.inj ofName
          exact Or.inr ⟨name, faults, read, taken, wrong, rfl⟩

/-! ## Loading and writing -/

def undiscovered : DiscoveryError → Failure
  | .signature className accessor cause => .signature className accessor cause
  | .raised cause => .exception cause

theorem load_result (scope : Scope) (cls : ClassObject) : (load scope cls).result =
    match (Accessor.discover scope cls).result with
    | .error error => .error (undiscovered error)
    | .ok accessors => ofAccessors scope cls accessors := by
  unfold load
  cases found : (Accessor.discover scope cls).result with
  | ok accessors => simp [bind, Logged.andThen, found, pure]
  | error error => cases error <;> simp [bind, Logged.andThen, found, pure, undiscovered]

theorem inPlace_of_load (h : (load scope cls).result = .ok loaded) :
    InPlaceFrom 0 loaded.variants := by
  rw [load_result] at h
  split at h
  · cases h
  · obtain ⟨variants, made, h⟩ := bind_eq_ok.mp h
    obtain rfl := Except.ok.inj h
    exact inPlace_of_shows (variantsFrom_eq_ok made)

theorem failsAt_of_load (listed : cls.IsListed) {failure : Failure}
    (h : (load scope cls).result = .error failure) :
    (∃ error, (Accessor.discover scope cls).result = .error error ∧ failure = undiscovered error) ∨
    ∃ accessors front member back, (Accessor.discover scope cls).result = .ok accessors ∧
      cls.canonicalMembers = front ++ member :: back ∧
      (∀ earlier ∈ front, ∀ accessor ∈ accessors, Readable scope earlier accessor) ∧
      FailsAt scope cls accessors member failure := by
  rw [load_result] at h
  cases found : (Accessor.discover scope cls).result with
  | error error =>
    rw [found] at h
    exact Or.inl ⟨error, rfl, (Except.error.inj h).symm⟩
  | ok accessors =>
    rw [found] at h
    simp only [ofAccessors_eq listed] at h
    have reports := (variantsFrom_reports scope cls accessors 0 cls.canonicalMembers).map
      fun variants => (⟨cls.name.name,
        accessors.map fun accessor => ⟨accessor.name, accessor.type⟩, variants⟩ : DomainClass)
    have first := reports.eq_error_iff.mp h
    rw [List.head?_flatMap, List.findSome?_eq_some_iff] at first
    obtain ⟨front, member, back, split, here, earlier⟩ := first
    refine Or.inr ⟨accessors, front, member, back, rfl, split, fun other inside accessor known => ?_,
      failsAt_of_memberFailures here⟩
    have none := List.head?_eq_none_iff.mp (earlier other inside)
    rw [memberFailures, List.append_eq_nil_iff, List.flatMap_eq_nil_iff] at none
    exact readFailures_eq_nil (none.1 accessor known)

theorem render_result {spent : Spent} {prelude : String}
    (h : (load scope cls).result = .ok loaded) :
    (Workspace.render spent scope cls prelude).2.result =
      match (emit (loaded.drained.run spent).1 prelude).result with
      | .ok text => .ok ((loaded.drained.run spent).1.name, text)
      | .error error =>
        .error (Workspace.emissionFailure (loaded.drained.run spent).1.name error) := by
  unfold Workspace.render
  rcases loads : load scope cls with ⟨log, result⟩
  rw [loads] at h
  obtain rfl : result = .ok loaded := h
  dsimp only
  obtain ⟨drained, after⟩ := loaded.drained.run spent
  cases written : (emit drained prelude).result <;>
    simp [bind, Logged.andThen, written, pure]

theorem IsRectangular.render_eq_error (h : loaded.IsRectangular)
    (loads : (load scope cls).result = .ok loaded) {spent : Spent} {prelude : String}
    {failure : Failure}
    (failed : (Workspace.render spent scope cls prelude).2.result = .error failure) :
    (∃ error, IsOfContent error ∧ failure = .emission loaded.name error) ∨
      (∃ cause, failure = .exception cause) ∧ loaded.HasWild := by
  rw [render_result loads] at failed
  cases written : (emit (loaded.drained.run spent).1 prelude).result with
  | ok text => simp [written] at failed
  | error error =>
    rw [written] at failed
    obtain rfl := Except.error.inj failed
    rw [(drained_keeps loaded spent).1]
    rcases (h.drained spent).emit_eq_error written with content | ⟨⟨cause, rfl⟩, wild⟩
    · refine Or.inl ⟨error, content, ?_⟩
      rcases content with (⟨_, _, _, rfl⟩ | ⟨_, rfl⟩) | ⟨_, _, _, rfl⟩ <;> rfl
    · exact Or.inr ⟨⟨cause, rfl⟩, hasWild_of_drained wild⟩

theorem label_of_canonical {member : Value} (h : member ∈ cls.canonicalMembers) :
    ∃ label, member.label? = some label := by
  unfold ClassObject.canonicalMembers at h
  split at h
  · obtain ⟨entry, -, rfl⟩ := List.mem_map.mp h
    exact ⟨entry.name, rfl⟩
  · cases h

def selfParameter : Parameter := ⟨"self", .ordinary, none, false⟩

def levels : ModuleModel where
  name := "m"
  classes := [.mk "Level" ["Enum"] [("LOW", .int 1), ("HIGH", .int 2), ("LEAST", .int 1)]
    [⟨"cost", .property, [selfParameter], none, .read "value"⟩] [] none]
  raises := none
  deferred := false

def outcomeIn {α : Type} (model : ModuleModel) (step : Scope → Except Failure α) :
    Except Failure α :=
  match model.run .named "m" with
  | .ok scope => step scope
  | .error raised => .error (.exception raised)

theorem exists_run {α : Type} {model : ModuleModel} {step : Scope → Except Failure α} {a : α}
    (h : outcomeIn model step = .ok a) :
    ∃ scope, model.run .named "m" = .ok scope ∧ step scope = .ok a := by
  unfold outcomeIn at h
  cases run : model.run .named "m" with
  | ok scope => exact ⟨scope, rfl, by rwa [run] at h⟩
  | error raised => simp [run] at h

def loadIn (className : ClassName) (scope : Scope) : Except Failure DomainClass :=
  (load scope (.ofName scope className)).result

def places (loaded : DomainClass) : List (String × Int) :=
  loaded.variants.map fun variant => (variant.name, variant.ordinal)

theorem levels_places :
    (outcomeIn levels (loadIn ⟨"m", "Level", 0⟩)).toOption.map places =
      some [("LOW", 0), ("HIGH", 1)] := by
  decide +kernel

def raising (name kind text : String) : AttributeModel :=
  ⟨name, .property, [selfParameter], none, .raise kind text⟩

def defiant : ModuleModel where
  name := "m"
  classes := [
    .mk "Bad" ["Enum"] [("A", .int 1)]
      [raising "name" "ValueError" "boom", raising "cost" "KeyError" "k"] [] none,
    .mk "Unit" ["Enum"] [("A", .int 1)]
      [⟨"kind", .property, [selfParameter], some (.name "Bad"),
        .constant (.member ⟨"Bad", "Bad", 0, false, false, [], 0, []⟩ (some "A") .null .null none)⟩]
      [] none,
    .mk "Quit" ["Enum"] [("A", .int 1)] [raising "cost" "SystemExit" "boom"] [] none]
  raises := none
  deferred := false

def renderIn (className : ClassName) (scope : Scope) : Except Failure (String × String) :=
  (Workspace.render [] scope (.ofName scope className) "use a;").2.result

def raisedBy {α : Type} : Except Failure α → Option Raised
  | .error (.exception raised) => some raised
  | _ => none

end DomainClass

end EnumTables
