import EnumTables.Proofs.Outcome
import EnumTables.Reference

/-!
# Failures of references

Reading an attribute raises nothing but that it is missing, unless a function is run for it
(`Scope.exists_run_of_read`). Importing a module raises nothing but an import error, unless a
described module raises something else (`ModuleTable.importModule_eq_error`). These and a module that
is named relative to no package are the ways in which a reference leads to none of the documented
errors (`Reference.uncaught_iff`).
-/

namespace EnumTables

/-! ## Reading attributes -/

namespace Scope

/-- Without running anything, nothing but a missing attribute is raised. -/
def Plan.IsTame : Plan → Prop
  | .raise raised => raised.kind = "AttributeError"
  | .ready _ | .run _ _ => True

theorem Plan.missing_isTame (message : String) : (Plan.missing message).IsTame := rfl

theorem Plan.ofOption_isTame (value : Option Value) (name : String) :
    (Plan.ofOption value name).IsTame := by
  cases value with
  | some value => trivial
  | none => rfl

variable (scope : Scope)

theorem nativePlan_isTame (value : Value) (name : String) (kind : NativeKind) :
    (scope.nativePlan value name kind).IsTame := by
  unfold nativePlan
  split <;> try trivial
  split <;> first | rfl | trivial

theorem attributePlan_isTame (value : Value) (name : String) (found : Attribute) :
    (scope.attributePlan value name found).IsTame := by
  have tame : ∀ getter, (getterPlan value getter).IsTame := by
    intro getter
    cases getter with
    | function function => trivial
    | memberName | memberValue => cases value <;> first | rfl | trivial
  cases found with
  | native kind => exact scope.nativePlan_isTame value name kind
  | memberProperty getter => exact tame getter
  | member hidden =>
    cases hidden with
    | none => exact Plan.ofOption_isTame _ _
    | some getter => exact tame getter
  | property getter => cases getter <;> first | rfl | trivial
  | cachedProperty getter => cases value <;> trivial
  | _ => trivial

theorem instancePlan?_isTame {value : Value} {name : String} {plan : Plan}
    (h : scope.instancePlan? value name = some plan) : plan.IsTame := by
  unfold instancePlan? at h
  split at h
  all_goals try (obtain rfl := Option.some.inj h; trivial)
  · obtain ⟨owner, -, h⟩ := Option.bind_eq_some_iff.mp h
    obtain ⟨enumeration, -, rfl⟩ := Option.map_eq_some_iff.mp h
    trivial
  · obtain ⟨value, -, rfl⟩ := Option.map_eq_some_iff.mp h
    trivial
  · cases h

theorem valuePlan_isTame (value : Value) (name : String) :
    (scope.valuePlan value name).IsTame := by
  unfold valuePlan
  split
  · next plan found => exact scope.instancePlan?_isTame found
  · split
    · exact scope.attributePlan_isTame value name _
    · rfl

theorem classAttributePlan_isTame (cls : ClassName) (name : String) {missing : Plan}
    (tame : missing.IsTame) (found : Attribute) :
    (scope.classAttributePlan cls name missing found).IsTame := by
  unfold classAttributePlan
  split
  all_goals try trivial
  all_goals split <;> first | exact tame | trivial

theorem classPlan_isTame (cls : ClassName) (name : String) :
    (scope.classPlan cls name).IsTame := by
  unfold classPlan
  dsimp only
  split
  · trivial
  · split
    · exact scope.classAttributePlan_isTame cls name (Plan.missing_isTame _) _
    · split
      · split <;> first | rfl | trivial
      · rfl

theorem objectPlan_isTame (typeName name : String) : (scope.objectPlan typeName name).IsTame := by
  unfold objectPlan
  exact scope.valuePlan_isTame _ _

theorem functionPlan_isTame (function : Function) (typeName name : String) :
    (scope.functionPlan function typeName name).IsTame := by
  unfold functionPlan
  split
  all_goals try trivial
  exact scope.objectPlan_isTame _ _

theorem plan_isTame (entity : Entity) (name : String) : (scope.plan entity name).IsTame := by
  cases entity with
  | value value => exact scope.valuePlan_isTame value name
  | cls cls => exact scope.classPlan_isTame cls name
  | function function => exact scope.functionPlan_isTame function _ name
  | bound function owner => exact scope.functionPlan_isTame function _ name
  | routine | other => exact scope.objectPlan_isTame _ name

variable {scope} in
theorem exists_run_of_read {entity : Entity} {name : String} {raised : Raised}
    (h : scope.read entity name = .error raised) (other : raised.kind ≠ "AttributeError") :
    ∃ getter mark, scope.plan entity name = .run getter mark := by
  obtain ⟨fuel, enough⟩ : ∃ fuel, scope.enough = fuel + 1 :=
    ⟨scope.enough - 1, by unfold enough; omega⟩
  have tame := scope.plan_isTame entity name
  rw [read, enough, readWithin] at h
  cases planned : scope.plan entity name with
  | ready found => simp [planned] at h
  | run getter mark => exact ⟨getter, mark, rfl⟩
  | raise missing =>
    rw [planned] at h tame
    obtain rfl := Except.error.inj h
    exact absurd tame other

end Scope

namespace ModuleTable

variable {tree : FileTree} {roots : List Place} {raised : Raised}

/-- A described module of the tree raises the exception when it is imported. -/
def RaisedByModule (tree : FileTree) (raised : Raised) : Prop :=
  ∃ place model release fullName, tree.node? place = some (.module model) ∧
    model.run release fullName = .error raised

theorem load_eq_error {release : Release} {fullName name : String} {directories : List Place}
    (h : load tree release fullName name directories = .error raised) :
    raised.isImportError = true ∨ RaisedByModule tree raised := by
  unfold load at h
  split at h
  · cases h
  · next model _ found =>
    obtain ⟨directory, -, here⟩ := List.exists_of_findSome?_eq_some found
    split at here
    · next model' there =>
      obtain rfl := Option.some.inj here
      rcases bind_eq_error.mp h with run | ⟨_, _, h⟩
      · exact .inr ⟨_, _, _, _, there, run⟩
      · cases h
    · cases here
  · obtain rfl := Except.error.inj h
    exact .inl rfl
  · cases h

theorem importPart_eq_error {table : ModuleTable} {parent : Option String} {name : String}
    (h : table.importPart tree roots parent name = .error raised) :
    raised.isImportError = true ∨ RaisedByModule tree raised := by
  unfold importPart at h
  dsimp only at h
  split at h
  · cases h
  · rcases bind_eq_error.mp h with loading | ⟨_, _, h⟩
    · exact load_eq_error loading
    · cases h
  · split at h
    · obtain rfl := Except.error.inj h
      exact .inl rfl
    · rcases bind_eq_error.mp h with loading | ⟨_, _, h⟩
      · exact load_eq_error loading
      · cases h

theorem importParts_eq_error {table : ModuleTable} {parent : Option String} {names : List String}
    (h : (table.importParts tree roots parent names).2 = .error raised) :
    raised.isImportError = true ∨ RaisedByModule tree raised := by
  induction names generalizing table parent with
  | nil => cases h
  | cons name rest ih =>
    unfold importParts at h
    split at h
    · next failed =>
      obtain rfl := Except.error.inj h
      exact importPart_eq_error failed
    · exact ih h

def relativeImport (name : String) : Raised :=
  .typeError ("the 'package' argument is required to perform a relative import for " ++
    Text.quote name)

theorem importModule_relative {table : ModuleTable} {name : String}
    (relative : name.toList.head? = some '.') :
    table.importModule tree roots name = (table, .error (relativeImport name)) := by
  rw [importModule, if_pos (by simp [relative])]
  rfl

theorem importModule_eq_error {table : ModuleTable} {name : String}
    (top : name.toList.head? ≠ some '.')
    (h : (table.importModule tree roots name).2 = .error raised) :
    raised.isImportError = true ∨ RaisedByModule tree raised := by
  rw [importModule, if_neg (by simpa using top)] at h
  exact importParts_eq_error h

end ModuleTable

/-! ## Errors that are documented -/

inductive ErrorClass where
  | reflection
  | unsupportedType
  | emission
  | output
  deriving DecidableEq, Repr

def Failure.errorClass? : Failure → Option ErrorClass
  | .malformed _ | .unimportable _ _ | .attributeMissing _ _ | .notEnumeration _
  | .signature _ _ _ | .unreadable _ _ _ _ => some .reflection
  | .emission _ (.unsupported _) => some .unsupportedType
  | .emission _ (.raised _) => none
  | .emission _ _ => some .emission
  | .unwritable _ _ => some .output
  | .exception _ | .invalid _ => none

theorem Failure.exists_report {failure : Failure} {error : ErrorClass}
    (h : failure.errorClass? = some error) : ∃ report, failure.report? = some report := by
  cases failure with
  | exception | invalid => cases h
  | _ => exact ⟨_, rfl⟩

/-! ## Following a reference -/

theorem Destination.exists_entity_of_read {table : ModuleTable} {place : Destination}
    {name : String} {raised : Raised} (h : place.read table name = .error raised)
    (other : raised.kind ≠ "AttributeError") : ∃ scope entity, place = .entity scope entity ∧
      scope.read entity name = .error raised := by
  cases place with
  | module path =>
    rw [read] at h
    split at h
    · cases h
    · obtain rfl := Except.error.inj h
      exact absurd rfl other
  | entity scope entity =>
    rcases bind_eq_error.mp h with failed | ⟨_, _, h⟩
    · exact ⟨scope, entity, rfl, failed⟩
    · cases h

namespace Reference

variable {tree : FileTree} {roots : List Place} {table : ModuleTable} {text : String}

def stuck (reference : Reference) (name : String) (raised : Raised) : Failure :=
  if raised.kind = "AttributeError" then .attributeMissing reference.text name
  else .exception raised

theorem follow_cons_of_error {reference : Reference} {place : Destination} {name : String}
    {rest : List String} {raised : Raised} (h : place.read table name = .error raised) :
    reference.follow table place (name :: rest) = .error (reference.stuck name raised) := by
  rw [follow, h, stuck]
  dsimp only
  split <;> rfl

theorem follow_append (reference : Reference) (place : Destination) (front back : List String) :
    reference.follow table place (front ++ back) =
      reference.follow table place front >>= fun reached =>
        reference.follow table reached back := by
  induction front generalizing place with
  | nil => rfl
  | cons name rest ih =>
    rw [List.cons_append]
    cases read : place.read table name with
    | ok next =>
      rw [follow, follow, read]
      exact ih next
    | error raised =>
      rw [follow_cons_of_error read, follow_cons_of_error read]
      rfl

theorem follow_eq_error {reference : Reference} {place : Destination} {names : List String}
    {failure : Failure} (h : reference.follow table place names = .error failure) :
    ∃ before name after reached raised, names = before ++ name :: after ∧
      reference.follow table place before = .ok reached ∧
      reached.read table name = .error raised ∧ failure = reference.stuck name raised := by
  induction names generalizing place with
  | nil => cases h
  | cons name rest ih =>
    cases read : place.read table name with
    | error raised =>
      rw [follow_cons_of_error read] at h
      exact ⟨[], name, rest, place, raised, rfl, rfl, read, (Except.error.inj h).symm⟩
    | ok next =>
      rw [follow, read] at h
      obtain ⟨before, other, after, reached, raised, rfl, front, found, same⟩ := ih h
      refine ⟨name :: before, other, after, reached, raised, rfl, ?_, found, same⟩
      rw [follow, read]
      exact front

/-- What ends the search for a class with an exception that is not caught. -/
inductive Uncaught (tree : FileTree) (roots : List Place) (table : ModuleTable) (text : String) :
    Failure → Prop
  | relative {reference : Reference} : ofText? text = some reference →
      reference.module.toList.head? = some '.' →
      Uncaught tree roots table text (.exception (ModuleTable.relativeImport reference.module))
  | importing {reference : Reference} {raised : Raised} : ofText? text = some reference →
      reference.module.toList.head? ≠ some '.' →
      (table.importModule tree roots reference.module).2 = .error raised →
      raised.isImportError = false → ModuleTable.RaisedByModule tree raised →
      Uncaught tree roots table text (.exception raised)
  | reading {reference : Reference} {imported : ModuleTable} {before after : List String}
      {name : String} {scope : Scope} {entity : Entity} {getter : Function}
      {mark : Option String} {raised : Raised} : ofText? text = some reference →
      table.importModule tree roots reference.module = (imported, .ok ()) →
      reference.names = before ++ name :: after →
      reference.follow imported (.module reference.module) before = .ok (.entity scope entity) →
      scope.plan entity name = .run getter mark → scope.read entity name = .error raised →
      raised.kind ≠ "AttributeError" → Uncaught tree roots table text (.exception raised)

theorem uncaught_of_locate {reference : Reference} {imported : ModuleTable} {failure : Failure}
    (read : ofText? text = some reference)
    (importing : table.importModule tree roots reference.module = (imported, .ok ()))
    (h : reference.locate imported = .error failure) (undocumented : failure.errorClass? = none) :
    Uncaught tree roots table text failure := by
  rcases bind_eq_error.mp h with following | ⟨found, -, h⟩
  · obtain ⟨before, name, after, reached, raised, split, front, failed, rfl⟩ :=
      follow_eq_error following
    unfold stuck at undocumented ⊢
    split at undocumented
    · cases undocumented
    · next other =>
      rw [if_neg other]
      obtain ⟨scope, entity, rfl, raises⟩ := Destination.exists_entity_of_read failed other
      obtain ⟨getter, mark, planned⟩ := Scope.exists_run_of_read raises other
      exact .reading read importing split front planned raises other
  · dsimp only at h
    split at h
    · split at h
      · cases h
      · obtain rfl := Except.error.inj h
        cases undocumented
    · obtain rfl := Except.error.inj h
      cases undocumented

theorem uncaught_iff {failure : Failure} :
    (resolve tree roots table text).2 = .error failure ∧ failure.errorClass? = none ↔
      Uncaught tree roots table text failure := by
  constructor
  · rintro ⟨h, undocumented⟩
    unfold resolve at h
    cases read : ofText? text with
    | none =>
      rw [read] at h
      obtain rfl := Except.error.inj h
      cases undocumented
    | some reference =>
      rw [read] at h
      rcases importing : table.importModule tree roots reference.module with
        ⟨imported, raised | ⟨⟩⟩
      · simp only [importing, Except.error.injEq] at h
        subst h
        split at undocumented
        · cases undocumented
        · next uncaught =>
          rw [if_neg uncaught]
          have other : raised.isImportError = false := Bool.eq_false_of_not_eq_true uncaught
          by_cases relative : reference.module.toList.head? = some '.'
          · rw [ModuleTable.importModule_relative relative] at importing
            obtain rfl := Except.error.inj (Prod.mk.inj importing).2
            exact .relative read relative
          · have failed : (table.importModule tree roots reference.module).2 = .error raised := by
              rw [importing]
            rcases ModuleTable.importModule_eq_error relative failed with caught | source
            · exact absurd caught uncaught
            · exact .importing read relative failed other source
      · simp only [importing] at h
        exact uncaught_of_locate read importing h undocumented
  · intro uncaught
    cases uncaught with
    | relative read relative =>
      refine ⟨?_, rfl⟩
      simp only [resolve, read, ModuleTable.importModule_relative relative]
      rfl
    | importing read top failed other source =>
      rename_i reference raised
      rcases importing : table.importModule tree roots reference.module with ⟨imported, result⟩
      rw [importing] at failed
      obtain rfl : result = .error raised := failed
      refine ⟨?_, rfl⟩
      simp only [resolve, read, importing, other, Bool.false_eq_true, if_false]
    | reading read importing split front planned raises other =>
      rename_i reference imported before after name scope entity getter mark raised
      have stops : reference.follow imported (.module reference.module) reference.names =
          .error (.exception raised) := by
        have here : (Destination.entity scope entity).read imported name = .error raised := by
          rw [Destination.read, raises]
          rfl
        rw [split, follow_append, front]
        change reference.follow imported (.entity scope entity) (name :: after) = _
        rw [follow_cons_of_error here, stuck, if_neg other]
      refine ⟨?_, rfl⟩
      simp only [resolve, read, importing, locate, stops]
      rfl

end Reference

end EnumTables
