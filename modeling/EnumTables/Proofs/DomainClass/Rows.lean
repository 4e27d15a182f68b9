import EnumTables.DomainClass.Loading
import EnumTables.Proofs.ClassObject.Creation

/-!
# Rows of a table

A class that is loaded has one variant for each of its canonical members, in order, with the value
of every accessor on it (`ofAccessors_eq_ok`). Members are read one after the other, and each of
them accessor by accessor before its name: the failures stand in that order (`ofAccessors_reports`).
-/

namespace EnumTables

/-! ## Accessors -/

theorem nodup_eraseDups (names : List String) : names.eraseDups.Nodup := by
  match names with
  | [] => simp
  | name :: rest =>
    rw [List.eraseDups_cons, List.nodup_cons]
    exact ⟨by simp, nodup_eraseDups _⟩
termination_by names.length
decreasing_by exact Nat.lt_succ_of_le (List.length_filter_le _ _)

namespace Accessor

variable {scope : Scope} {cls : ClassObject} {accessors : List Accessor}

theorem name_of_ofFunction {className name : String} {function : Function} {isMethod : Bool}
    {accessor : Accessor}
    (h : ofFunction scope className name function isMethod = .ok (some accessor)) :
    accessor.name = name := by
  unfold ofFunction at h
  split at h
  · cases h
  · split at h
    · obtain rfl := Option.some.inj (Except.ok.inj h)
      rfl
    · split at h
      · cases h
      · split at h
        · obtain rfl := Option.some.inj (Except.ok.inj h)
          rfl
        · cases h

theorem names_of_discoverFrom {names : List String}
    (h : (discoverFrom scope cls names).result = .ok accessors) :
    (accessors.map Accessor.name).Sublist names := by
  induction names generalizing accessors with
  | nil =>
    obtain rfl := Except.ok.inj h
    exact List.nil_sublist _
  | cons name rest ih =>
    rw [discoverFrom] at h
    split at h
    · exact (ih h).cons _
    · split at h
      · exact (ih h).cons _
      · exact (ih h).cons _
      · split at h
        · cases h
        · exact (ih h).cons _
        · next accessor made =>
          cases others : (discoverFrom scope cls rest).result with
          | error error => simp [others, Except.map] at h
          | ok more =>
            simp only [others, Except.map] at h
            obtain rfl := Except.ok.inj h
            rw [List.map_cons, name_of_ofFunction made]
            exact (ih others).cons_cons name

theorem distinct_of_discover (h : (discover scope cls).result = .ok accessors) :
    (accessors.map Accessor.name).Nodup :=
  (nodup_eraseDups _).sublist (names_of_discoverFrom h)

end Accessor

/-! ## Names of members -/

def Value.label? : Value → Option String
  | .member _ label .. => label
  | _ => none

/-- Nothing in the class of a member takes the place of its name. -/
def Scope.KeepsName (scope : Scope) (member : Value) : Prop :=
  scope.anyAttributeIn? (scope.orderOf (scope.classOf member)) "name" =
    some (.memberProperty .memberName)

def Scope.shownName (scope : Scope) (member : Value) : Except Raised String :=
  (scope.readValue member "name" false).bind fun name => (scope.dressed name).inline

theorem Scope.read_of_ready {scope : Scope} {entity found : Entity} {name : String}
    (h : scope.plan entity name = .ready found) : scope.read entity name = .ok found := by
  obtain ⟨fuel, enough⟩ : ∃ fuel, scope.enough = fuel + 1 :=
    ⟨scope.enough - 1, by unfold enough; omega⟩
  rw [read, enough, readWithin, h]

theorem Scope.readValue_name {scope : Scope} {member : Value} (keeps : scope.KeepsName member)
    {label : String} (labeled : member.label? = some label) :
    scope.readValue member "name" false = .ok (.text label) := by
  cases member with
  | member cls name held data looks =>
    obtain rfl : name = some label := labeled
    have plan : scope.plan (.value (.member cls (some label) held data looks)) "name" =
        .ready (.value (.text label)) := by
      unfold KeepsName at keeps
      simp only [Scope.plan, valuePlan, instancePlan?, keeps]
      rfl
    rw [readValue, read_of_ready plan]
    rfl
  | _ => cases labeled

theorem Scope.shownName_eq {scope : Scope} {member : Value} (keeps : scope.KeepsName member)
    {label : String} (labeled : member.label? = some label) :
    scope.shownName member = .ok label := by
  rw [shownName, readValue_name keeps labeled]
  rfl

/-! ## Rows -/

namespace DomainClass

def Reads (scope : Scope) (member : Value) (accessor : Accessor) (entry : String × Value) : Prop :=
  ∃ value, scope.readValue member accessor.name accessor.isMethod = .ok value ∧
    entry = (accessor.name, scope.dressed value)

structure Shows (scope : Scope) (accessors : List Accessor) (member : Value) (place : Nat)
    (variant : Variant) : Prop where
  ordinal : variant.ordinal = place
  values : List.Forall₂ (Reads scope member) accessors variant.values
  name : ∃ name, scope.readValue member "name" false = .ok name ∧
    name.readText = .ok variant.name

variable {scope : Scope} {cls : ClassObject} {accessors : List Accessor} {member : Value}

theorem keys_of_reads {values : List (String × Value)}
    (each : List.Forall₂ (Reads scope member) accessors values) :
    values.map Prod.fst = accessors.map Accessor.name := by
  induction each with
  | nil => rfl
  | cons first _ ih =>
    obtain ⟨value, -, rfl⟩ := first
    rw [List.map_cons, List.map_cons, ih]

theorem Shows.name_eq {place : Nat} {variant : Variant}
    (h : Shows scope accessors member place variant) (keeps : scope.KeepsName member)
    {label : String} (labeled : member.label? = some label) : variant.name = label := by
  obtain ⟨name, read, named⟩ := h.name
  rw [Scope.readValue_name keeps labeled] at read
  obtain rfl := Except.ok.inj read
  exact (Except.ok.inj named).symm

/-! ## Failures in the order of reading -/

def readFailures (scope : Scope) (cls : ClassObject) (member : Value) (accessor : Accessor) :
    List Failure :=
  match scope.readValue member accessor.name accessor.isMethod with
  | .ok _ => []
  | .error raised => [unreadable scope cls member accessor raised]

def nameFailures (scope : Scope) (member : Value) : List Failure :=
  match scope.readValue member "name" false with
  | .error raised => [.exception raised]
  | .ok name => match (scope.dressed name).textRefusal? with
    | some raised => [.exception raised]
    | none => match name.readText.within (.key "name") with
      | .ok _ => []
      | .error faults => [.invalid faults]

def memberFailures (scope : Scope) (cls : ClassObject) (accessors : List Accessor)
    (member : Value) : List Failure :=
  accessors.flatMap (readFailures scope cls member) ++ nameFailures scope member

theorem valuesOf_reports (scope : Scope) (cls : ClassObject) (member : Value)
    (accessors : List Accessor) :
    Reports (valuesOf scope cls member accessors)
      (accessors.flatMap (readFailures scope cls member)) := by
  induction accessors with
  | nil => exact rfl
  | cons accessor rest ih =>
    rw [valuesOf, List.flatMap_cons, readFailures]
    cases read : scope.readValue member accessor.name accessor.isMethod with
    | error raised => exact rfl
    | ok value => exact ih.map _

theorem variantOf_reports (scope : Scope) (cls : ClassObject) (member : Value)
    (accessors : List Accessor) (place : Nat) :
    Reports (variantOf scope cls member accessors place)
      (memberFailures scope cls accessors member) := by
  refine (valuesOf_reports scope cls member accessors).bind fun values _ => ?_
  unfold nameFailures
  cases scope.readValue member "name" false with
  | error raised => exact rfl
  | ok name =>
    dsimp only
    cases (scope.dressed name).textRefusal? with
    | some raised => exact rfl
    | none =>
      dsimp only
      cases name.readText.within (.key "name") <;> exact rfl

theorem variantsFrom_reports (scope : Scope) (cls : ClassObject) (accessors : List Accessor)
    (place : Nat) (members : List Value) :
    Reports (variantsFrom scope cls accessors place members)
      (members.flatMap (memberFailures scope cls accessors)) := by
  induction members generalizing place with
  | nil => exact rfl
  | cons member rest ih =>
    rw [variantsFrom, List.flatMap_cons]
    exact (variantOf_reports scope cls member accessors place).bind fun first _ =>
      (ih (place + 1)).map _

/-! ## What is loaded -/

theorem valuesOf_eq_ok {values : List (String × Value)}
    (h : valuesOf scope cls member accessors = .ok values) :
    List.Forall₂ (Reads scope member) accessors values := by
  induction accessors generalizing values with
  | nil =>
    obtain rfl := Except.ok.inj h
    exact .nil
  | cons accessor rest ih =>
    rw [valuesOf] at h
    cases read : scope.readValue member accessor.name accessor.isMethod with
    | error raised => simp [read] at h
    | ok value =>
      rw [read] at h
      obtain ⟨others, made, h⟩ := bind_eq_ok.mp h
      obtain rfl := Except.ok.inj h
      exact .cons ⟨value, read, rfl⟩ (ih made)

theorem variantOf_eq_ok {place : Nat} {variant : Variant}
    (h : variantOf scope cls member accessors place = .ok variant) :
    Shows scope accessors member place variant := by
  obtain ⟨values, made, h⟩ := bind_eq_ok.mp h
  cases read : scope.readValue member "name" false with
  | error raised => simp [read] at h
  | ok name =>
    simp only [read] at h
    split at h
    · cases h
    · cases text : name.readText with
      | error faults => simp [text, Checked.within] at h
      | ok label =>
        rw [text] at h
        obtain rfl := Except.ok.inj h
        exact ⟨rfl, valuesOf_eq_ok made, name, read, text⟩

theorem variantsFrom_eq_ok {place : Nat} {members : List Value} {variants : List Variant}
    (h : variantsFrom scope cls accessors place members = .ok variants) :
    List.Forall₂ (fun row variant => Shows scope accessors row.1 row.2 variant)
      (members.zipIdx place) variants := by
  induction members generalizing place variants with
  | nil =>
    obtain rfl := Except.ok.inj h
    exact .nil
  | cons member rest ih =>
    obtain ⟨first, made, h⟩ := bind_eq_ok.mp h
    obtain ⟨others, more, h⟩ := bind_eq_ok.mp h
    obtain rfl := Except.ok.inj h
    rw [List.zipIdx_cons]
    exact .cons (variantOf_eq_ok made) (ih more)

end DomainClass

end EnumTables
