import EnumTables.Proofs.Literal.NormalForm
import EnumTables.Proofs.Value.Tame

/-!
# The first part that fails

A value is looked at before its parts, and its parts from left to right. `places` lists in this
order what a value is made of, each part with its representation. A value has no literal iff it
fails at one of its places on its own account, and its error is that of the first of them
(`literal_first_fault`).
-/

namespace EnumTables

open Decimal Literal

def Value.elements (value : Value) : List Value :=
  match value.elements? with
  | some (.ok items) => items
  | some (.error _) | none => []

namespace Representation

/-! ## Places -/

def places : Representation → Value → List (Representation × Value)
  | .slice element, value =>
    (.slice element, value) :: value.elements.flatMap (places element)
  | .pair first second, value =>
    (.pair first second, value) :: match value.components? with
      | some (left, right) => places first left ++ places second right
      | none => []
  | representation, value => [(representation, value)]

/-- A way to a part on which every element and component before it has a literal. -/
inductive LeadsTo : Representation → Value → Representation × Value → Prop
  | here {representation : Representation} {value : Value} :
      LeadsTo representation value (representation, value)
  | element {element : Representation} {value item : Value} {before after : List Value}
      {place : Representation × Value} : value.elements? = some (.ok (before ++ item :: after)) →
      (∀ earlier ∈ before, ∃ text, element.literal earlier = .ok (label text)) →
      LeadsTo element item place → LeadsTo (.slice element) value place
  | first {first second : Representation} {value left right : Value}
      {place : Representation × Value} : value.components? = some (left, right) →
      LeadsTo first left place → LeadsTo (.pair first second) value place
  | second {first second : Representation} {value left right : Value}
      {place : Representation × Value} : value.components? = some (left, right) →
      (∃ text, first.literal left = .ok (label text)) → LeadsTo second right place →
      LeadsTo (.pair first second) value place

/-! ## What goes wrong at one place -/

inductive Rejects : Representation → Value → Reason → Prop
  | notBool {value : Value} : (∀ b, value ≠ .bool b) → Rejects (.scalar .bool) value .notBool
  | notNumber {kind : Scalar} {value : Value} : kind ≠ .bool → value.asInteger? = none →
      value.asFloat? = none → Rejects (.scalar kind) value .notNumber
  | notInteger {value : Value} {x : Binary64} : value.asInteger? = none →
      value.asFloat? = some x → Rejects (.scalar .int32) value .notInteger
  | outsideInt32 {value : Value} {n : Int} : value.asInteger? = some n →
      ¬(int32Min ≤ n ∧ n ≤ int32Max) → Rejects (.scalar .int32) value .outsideInt32
  | outsideFloat64 {value : Value} {n : Int} : value.asInteger? = some n →
      Binary64.ofInt n = .overflow → Rejects (.scalar .float64) value .outsideFloat64
  | inexactFloat64 {value : Value} {n : Int} : value.asInteger? = some n →
      Binary64.ofInt n = .inexact → Rejects (.scalar .float64) value .inexactFloat64
  | notMember {name : String} {qualified : Bool} {value : Value} : value.isMember = false →
      value.asText? = none → Rejects (.enumeration name qualified) value .notMember
  | notText {value : Value} : value.asText? = none → Rejects .text value .notText
  | notCoordinates {name : String} {value : Value} :
      (∀ isX cause, value.coordinate isX ≠ .raised cause) →
      (∃ isX, value.coordinate isX = .other) → Rejects (.position name) value .notCoordinates
  | notCollection {element : Representation} {value : Value} : value.elements? = none →
      Rejects (.slice element) value .notCollection
  | notPair {first second : Representation} {value : Value} : value.components? = none →
      Rejects (.pair first second) value .notPair

/-- A value that is of the right shape raises an exception where it is written or iterated over. -/
inductive Raises : Representation → Value → Raised → Prop
  | number {value : Value} {n : Int} {cause : Raised} : value.asInteger? = some n →
      int32Min ≤ n ∧ n ≤ int32Max → value.shown = .error cause →
      Raises (.scalar .int32) value cause
  | name {name : String} {qualified : Bool} {value : Value} {cause : Raised} :
      variantLabel value = .ok (.error cause) → Raises (.enumeration name qualified) value cause
  | variant {name : String} {value : Value} {found : Label} {cause : Raised} :
      variantLabel value = .ok (.ok found) → found.text = .error cause →
      Raises (.enumeration name true) value cause
  | text {value : Value} {cause : Raised} : value.asText?.isSome = true →
      value.inline = .error cause → Raises .text value cause
  | x {name : String} {value : Value} {cause : Raised} :
      value.coordinate true = .raised cause → Raises (.position name) value cause
  | y {name : String} {value : Value} {cause : Raised} :
      (∀ other, value.coordinate true ≠ .raised other) →
      value.coordinate false = .raised cause → Raises (.position name) value cause
  | xText {name : String} {value : Value} {y : Spoken} {cause : Raised} :
      value.coordinate true = .integer (.error cause) → value.coordinate false = .integer y →
      Raises (.position name) value cause
  | yText {name x : String} {value : Value} {cause : Raised} :
      value.coordinate true = .integer (.ok x) → value.coordinate false = .integer (.error cause) →
      Raises (.position name) value cause
  | elements {element : Representation} {value : Value} {cause : Raised} :
      value.elements? = some (.error cause) → Raises (.slice element) value cause

/-- A value fails under a representation on its own account. A rejected value is shown in the
report, which may raise an exception as well. -/
inductive FailsAt (place : Representation × Value) : LiteralError → Prop
  | rejected {reason : Reason} {shown : String} : Rejects place.1 place.2 reason →
      place.2.display = .ok shown → FailsAt place (.mismatch ⟨place.1, place.2, reason, shown⟩)
  | unreported {reason : Reason} {cause : Raised} : Rejects place.1 place.2 reason →
      place.2.display = .error cause → FailsAt place (.raised cause)
  | raised {cause : Raised} : Raises place.1 place.2 cause → FailsAt place (.raised cause)

/-! ## Leaves -/

theorem reject_eq_error {α : Type} {representation : Representation} {value : Value}
    {reason : Reason} {error : LiteralError} :
    (representation.reject value reason : Except LiteralError α) = .error error ↔
      (∃ shown, value.display = .ok shown ∧
        error = .mismatch ⟨representation, value, reason, shown⟩) ∨
      ∃ cause, value.display = .error cause ∧ error = .raised cause := by
  unfold reject
  cases value.display <;> simp [eq_comm]

theorem ofScalar_eq_error {kind : Scalar} {value : Value} {reason : Reason} :
    ofScalar kind value = .error reason ↔ Rejects (.scalar kind) value reason := by
  constructor
  · intro h
    cases kind with
    | bool =>
      obtain ⟨rfl, other⟩ : reason = .notBool ∧ ∀ b, value ≠ .bool b := by
        cases value <;> simp_all [ofScalar]
      exact .notBool other
    | int32 =>
      unfold ofScalar at h
      cases number : value.asInteger? with
      | some n =>
        by_cases range : int32Min ≤ n ∧ n ≤ int32Max
        · simp [number, range] at h
        · obtain rfl : reason = .outsideInt32 := by simpa [number, range, eq_comm] using h
          exact .outsideInt32 number range
      | none =>
        cases float : value.asFloat? with
        | some x =>
          obtain rfl : reason = .notInteger := by simpa [number, float, eq_comm] using h
          exact .notInteger number float
        | none =>
          obtain rfl : reason = .notNumber := by simpa [number, float, eq_comm] using h
          exact .notNumber (by simp) number float
    | float64 =>
      unfold ofScalar at h
      cases number : value.asInteger? with
      | some n =>
        cases converted : Binary64.ofInt n with
        | exact x => simp [number, converted] at h
        | inexact =>
          obtain rfl : reason = .inexactFloat64 := by simpa [number, converted, eq_comm] using h
          exact .inexactFloat64 number converted
        | overflow =>
          obtain rfl : reason = .outsideFloat64 := by simpa [number, converted, eq_comm] using h
          exact .outsideFloat64 number converted
      | none =>
        cases float : value.asFloat? with
        | some x => simp [number, float] at h
        | none =>
          obtain rfl : reason = .notNumber := by simpa [number, float, eq_comm] using h
          exact .notNumber (by simp) number float
  · intro h
    cases h with
    | notBool other => cases value <;> simp_all [ofScalar]
    | notNumber different number float => cases kind <;> simp_all [ofScalar]
    | notInteger number float => simp [ofScalar, number, float]
    | outsideInt32 number far => simp [ofScalar, number, far]
    | outsideFloat64 number converted | inexactFloat64 number converted =>
      simp [ofScalar, number, converted]

theorem variantLabel_eq_error {name : String} {qualified : Bool} {value : Value} {reason : Reason} :
    variantLabel value = .error reason ↔ Rejects (.enumeration name qualified) value reason := by
  constructor
  · intro h
    obtain ⟨rfl, plain, noText⟩ :
        reason = .notMember ∧ value.isMember = false ∧ value.asText? = none := by
      cases value with
      | member cls label held data looks => cases looks <;> simp [variantLabel] at h
      | _ => simp_all [variantLabel, Value.isMember, Value.asText?]
    exact .notMember plain noText
  · intro h
    cases h with
    | notMember plain noText => cases value <;> simp_all [variantLabel, Value.isMember, Value.asText?]

theorem literal_of_rejects {representation : Representation} {value : Value} {reason : Reason}
    (h : Rejects representation value reason) :
    representation.literal value = representation.reject value reason := by
  cases representation with
  | scalar kind => rw [literal, ofScalar_eq_error.mpr h]
  | enumeration name qualified => rw [literal, variantLabel_eq_error.mpr h]
  | text =>
    cases h with
    | notText noText => rw [literal, noText]
  | position name =>
    obtain ⟨calm, isX, other⟩ : (∀ isX cause, value.coordinate isX ≠ .raised cause) ∧
        ∃ isX, value.coordinate isX = .other ∧ reason = .notCoordinates := by
      cases h with
      | notCoordinates calm other => exact ⟨calm, by simpa using other⟩
    obtain ⟨other, rfl⟩ := other
    rw [literal]
    cases left : value.coordinate true with
    | raised cause => exact absurd left (calm true cause)
    | other =>
      cases right : value.coordinate false with
      | raised cause => exact absurd right (calm false cause)
      | other | integer y => rfl
    | integer x =>
      cases right : value.coordinate false with
      | raised cause => exact absurd right (calm false cause)
      | other => rfl
      | integer y => cases isX <;> simp_all
  | slice element =>
    cases h with
    | notCollection none => rw [literal, none]
  | pair first second =>
    cases h with
    | notPair none => rw [literal, none]

theorem literal_of_raises {representation : Representation} {value : Value} {cause : Raised}
    (h : Raises representation value cause) :
    representation.literal value = .error (.raised cause) := by
  cases h with
  | number number range spoken =>
    simp [literal, ofScalar, number, range, spoken, Spoken.asLiteral, Except.mapError, bind,
      Except.bind]
  | name raised => simp [literal, raised]
  | variant found spoken =>
    simp [literal, found, spoken, Spoken.asLiteral, Except.mapError, bind, Except.bind]
  | text isText spoken =>
    obtain ⟨s, isText⟩ := Option.isSome_iff_exists.mp isText
    simp [literal, isText, spoken, Spoken.asLiteral, Except.mapError, bind, Except.bind]
  | x raised => simp [literal, raised]
  | y calm raised =>
    cases left : value.coordinate true with
    | raised other => exact absurd left (calm other)
    | other | integer x => simp [literal, left, raised]
  | xText left right =>
    simp [literal, left, right, ofCoordinates, Spoken.asLiteral, Except.mapError, bind, Except.bind]
  | yText left right =>
    simp [literal, left, right, ofCoordinates, Spoken.asLiteral, Except.mapError, bind, Except.bind]
  | elements raised => simp [literal, raised]

theorem literal_of_failsAt {place : Representation × Value} {error : LiteralError}
    (h : FailsAt place error) : place.1.literal place.2 = .error error := by
  cases h with
  | rejected rejects shown =>
    rw [literal_of_rejects rejects, reject_eq_error]
    exact Or.inl ⟨_, shown, rfl⟩
  | unreported rejects raised =>
    rw [literal_of_rejects rejects, reject_eq_error]
    exact Or.inr ⟨_, raised, rfl⟩
  | raised raises => exact literal_of_raises raises

theorem written_of_error {representation : Representation} {value : Value} {error : LiteralError}
    (h : representation.literal value = .error error) :
    representation.written value = .error error := by
  rw [written, h]
  rfl

theorem literal_eq_error {representation : Representation}
    (qualified : representation.IsQualified) {value : Value} {error : LiteralError} :
    representation.literal value = .error error ↔ representation.written value = .error error := by
  rw [literal_eq_written qualified]
  exact map_eq_error

theorem failsAt_of_rejects {representation : Representation} {value : Value} {reason : Reason}
    {error : LiteralError} (h : Rejects representation value reason)
    (failed : representation.literal value = .error error) :
    FailsAt (representation, value) error := by
  rw [literal_of_rejects h, reject_eq_error] at failed
  rcases failed with ⟨_, shown, rfl⟩ | ⟨cause, raised, rfl⟩
  · exact .rejected h shown
  · exact .unreported h raised

theorem failsAt_of_raises {representation : Representation} {value : Value} {cause : Raised}
    {error : LiteralError} (h : Raises representation value cause)
    (failed : representation.literal value = .error error) :
    FailsAt (representation, value) error := by
  rw [literal_of_raises h] at failed
  obtain rfl := Except.error.inj failed
  exact .raised h

theorem failsAt_of_scalar {kind : Scalar} {value : Value} {error : LiteralError}
    (h : (scalar kind).literal value = .error error) : FailsAt (.scalar kind, value) error := by
  cases taken : ofScalar kind value with
  | error reason => exact failsAt_of_rejects (ofScalar_eq_error.mp taken) h
  | ok spoken =>
    cases spoken with
    | ok text =>
      have failed := written_of_error h
      rw [written_scalar_eq_ok.mpr taken] at failed
      cases failed
    | error cause =>
      cases kind with
      | bool => simp [ofScalar_bool_eq_ok] at taken
      | float64 => simp [ofScalar_float64_eq_ok] at taken
      | int32 =>
        obtain ⟨n, number, range, spoken⟩ := ofScalar_int32_eq_ok.mp taken
        exact failsAt_of_raises (.number number range spoken.symm) h

theorem failsAt_of_enumeration {name : String} {qualified : Bool} {value : Value}
    {error : LiteralError} (h : (enumeration name qualified).literal value = .error error) :
    FailsAt (.enumeration name qualified, value) error := by
  cases found : variantLabel value with
  | error reason => exact failsAt_of_rejects (variantLabel_eq_error.mp found) h
  | ok outcome =>
    cases outcome with
    | error cause => exact failsAt_of_raises (.name found) h
    | ok variant =>
      cases qualified with
      | false => simp [literal, found] at h
      | true =>
        cases spoken : variant.text with
        | ok text =>
          have failed := written_of_error h
          rw [written_enumeration_eq_ok.mpr ⟨variant, text, found, spoken, rfl⟩] at failed
          cases failed
        | error cause => exact failsAt_of_raises (.variant found spoken) h

theorem failsAt_of_text {value : Value} {error : LiteralError}
    (h : Representation.text.literal value = .error error) : FailsAt (.text, value) error := by
  cases isText : value.asText? with
  | none => exact failsAt_of_rejects (.notText isText) h
  | some s =>
    have isSome : value.asText?.isSome = true := by simp [isText]
    cases spoken : value.inline with
    | ok inner =>
      have failed := written_of_error h
      rw [written_text_eq_ok.mpr ⟨inner, isSome, spoken, rfl⟩] at failed
      cases failed
    | error cause => exact failsAt_of_raises (.text isSome spoken) h

theorem failsAt_of_position {name : String} {value : Value} {error : LiteralError}
    (h : (position name).literal value = .error error) :
    FailsAt (.position name, value) error := by
  -- both coordinates are read before either is looked at
  cases left : value.coordinate true with
  | raised cause => exact failsAt_of_raises (.x left) h
  | other =>
    cases right : value.coordinate false with
    | raised cause => exact failsAt_of_raises (.y (by simp [left]) right) h
    | other | integer y =>
      have rejects : Rejects (.position name) value .notCoordinates := by
        refine .notCoordinates ?_ ⟨true, left⟩
        intro isX cause
        cases isX <;> simp [left, right]
      exact failsAt_of_rejects rejects h
  | integer x =>
    cases right : value.coordinate false with
    | raised cause => exact failsAt_of_raises (.y (by simp [left]) right) h
    | other =>
      have rejects : Rejects (.position name) value .notCoordinates := by
        refine .notCoordinates ?_ ⟨false, right⟩
        intro isX cause
        cases isX <;> simp [left, right]
      exact failsAt_of_rejects rejects h
    | integer y =>
      cases x with
      | error cause => exact failsAt_of_raises (.xText left right) h
      | ok xText =>
        cases y with
        | error cause => exact failsAt_of_raises (.yText left right) h
        | ok yText =>
          have failed := written_of_error h
          rw [written_position_eq_ok.mpr ⟨xText, yText, left, right, rfl⟩] at failed
          cases failed

/-! ## Slices and pairs -/

def Passes (place : Representation × Value) : Prop :=
  ∀ error, ¬FailsAt place error

theorem passes_of_written {place : Representation × Value} {text : String}
    (h : place.1.written place.2 = .ok text) : Passes place := by
  intro error failed
  rw [written_of_error (literal_of_failsAt failed)] at h
  cases h

theorem passes_of_accepted {place : Representation × Value}
    (accepted : ∀ reason, ¬Rejects place.1 place.2 reason)
    (quiet : ∀ cause, ¬Raises place.1 place.2 cause) : Passes place := by
  intro error failed
  cases failed with
  | rejected rejects => exact accepted _ rejects
  | unreported rejects => exact accepted _ rejects
  | raised raises => exact quiet _ raises

theorem passes_slice {element : Representation} {value : Value} {items : List Value}
    (found : value.elements? = some (.ok items)) : Passes (.slice element, value) := by
  apply passes_of_accepted
  · intro reason rejects
    cases rejects with
    | notCollection none => simp [found] at none
  · intro cause raises
    cases raises with
    | elements raised => simp [found] at raised

theorem passes_pair {first second : Representation} {value : Value} {parts : Value × Value}
    (found : value.components? = some parts) : Passes (.pair first second, value) := by
  apply passes_of_accepted
  · intro reason rejects
    cases rejects with
    | notPair none => simp [found] at none
  · intro cause raises
    cases raises

theorem places_pass {representation : Representation} (qualified : representation.IsQualified)
    {value : Value} {text : String} (h : representation.written value = .ok text) :
    ∀ place ∈ representation.places value, Passes place := by
  induction representation generalizing value text with
  | scalar | enumeration | text | position =>
    intro place inside
    obtain rfl := List.mem_singleton.mp inside
    exact passes_of_written h
  | slice element ih =>
    have inner : element.IsQualified := qualified
    obtain ⟨items, texts, found, each, -⟩ := (written_slice_eq_ok inner).mp h
    intro place inside
    rw [places, Value.elements, found, List.mem_cons, List.mem_flatMap] at inside
    rcases inside with rfl | ⟨item, known, inside⟩
    · exact passes_slice found
    · obtain ⟨text, -, good⟩ := exists_mem_of_forall₂ each.flip known
      exact ih inner good place inside
  | pair first second left right =>
    obtain ⟨one, other, oneText, otherText, found, hl, hr, -⟩ := written_pair_eq_ok.mp h
    intro place inside
    rw [places, found, List.mem_cons, List.mem_append] at inside
    rcases inside with rfl | inLeft | inRight
    · exact passes_pair found
    · exact left qualified.1 hl place inLeft
    · exact right qualified.2 hr place inRight

structure IsFirstFault (places before : List (Representation × Value))
    (place : Representation × Value) (error : LiteralError) : Prop where
  split : ∃ after, places = before ++ place :: after
  fails : FailsAt place error
  pass : ∀ earlier ∈ before, Passes earlier

theorem IsFirstFault.between {places before : List (Representation × Value)}
    {place : Representation × Value} {error : LiteralError}
    (h : IsFirstFault places before place error) {front : List (Representation × Value)}
    (pass : ∀ earlier ∈ front, Passes earlier) (back : List (Representation × Value)) :
    IsFirstFault (front ++ places ++ back) (front ++ before) place error where
  split := by
    obtain ⟨after, rfl⟩ := h.split
    exact ⟨after ++ back, by simp⟩
  fails := h.fails
  pass := by
    intro earlier inside
    rcases List.mem_append.mp inside with inFront | inBefore
    · exact pass earlier inFront
    · exact h.pass earlier inBefore

def FirstFault (representation : Representation) (value : Value) (error : LiteralError) : Prop :=
  ∃ before place, IsFirstFault (representation.places value) before place error ∧
    LeadsTo representation value place

theorem firstFault_of_leaf {representation : Representation} {value : Value} {error : LiteralError}
    (leaf : representation.places value = [(representation, value)])
    (h : FailsAt (representation, value) error) : FirstFault representation value error :=
  ⟨[], _, ⟨⟨[], leaf⟩, h, by simp⟩, .here⟩

theorem isText_of_written {representation : Representation}
    (qualified : representation.IsQualified) {value : Value} {text : String}
    (h : representation.written value = .ok text) :
    ∃ text, representation.literal value = .ok (label text) :=
  ⟨text, (written_eq_ok qualified).mp h⟩

theorem firstFault_of_slice {element : Representation} (qualified : element.IsQualified)
    {value : Value} {error : LiteralError}
    (ih : ∀ item, element.written item = .error error → FirstFault element item error)
    (h : written (.slice element) value = .error error) :
    FirstFault (.slice element) value error := by
  have rejected := written_slice qualified value
  have isQualified : (Representation.slice element).IsQualified := qualified
  have failed := (literal_eq_error isQualified).mpr h
  rcases found : value.elements? with _ | raised | items
  · have fails := failsAt_of_rejects (.notCollection found) failed
    exact firstFault_of_leaf (by simp [places, Value.elements, found]) fails
  · have fails := failsAt_of_raises (.elements found) failed
    exact firstFault_of_leaf (by simp [places, Value.elements, found]) fails
  · simp only [found] at rejected
    rw [rejected, map_eq_error, mapM_eq_error_iff] at h
    obtain ⟨front, item, back, rfl, earlier, failed⟩ := h
    obtain ⟨before, place, first, way⟩ := ih item failed
    -- elements in front of the failing one have literals, so nothing in them fails
    have pass : ∀ other ∈ (.slice element, value) :: front.flatMap (places element),
        Passes other := by
      intro other inside
      rw [List.mem_cons, List.mem_flatMap] at inside
      rcases inside with rfl | ⟨item', known, inside⟩
      · exact passes_slice found
      · obtain ⟨text, good⟩ := earlier item' known
        exact places_pass qualified good other inside
    have split : places (.slice element) value =
        (.slice element, value) :: front.flatMap (places element) ++ places element item ++
          back.flatMap (places element) := by
      simp [places, Value.elements, found]
    refine ⟨_, place, split ▸ first.between pass _, .element found ?_ way⟩
    intro other known
    obtain ⟨text, good⟩ := earlier other known
    exact isText_of_written qualified good

theorem firstFault_of_pair {first second : Representation}
    (qualified : (Representation.pair first second).IsQualified) {value : Value}
    {error : LiteralError}
    (left : ∀ part, first.written part = .error error → FirstFault first part error)
    (right : ∀ part, second.written part = .error error → FirstFault second part error)
    (h : written (.pair first second) value = .error error) :
    FirstFault (.pair first second) value error := by
  have rejected := written_pair first second value
  cases found : value.components? with
  | none =>
    have fails := failsAt_of_rejects (.notPair found) ((literal_eq_error qualified).mpr h)
    exact firstFault_of_leaf (by simp [places, found]) fails
  | some parts =>
    obtain ⟨one, other⟩ := parts
    simp only [found] at rejected
    rw [rejected, bind_eq_error] at h
    rcases h with inFirst | ⟨oneText, good, rest⟩
    · obtain ⟨before, place, fault, way⟩ := left one inFirst
      have pass : ∀ earlier ∈ [(Representation.pair first second, value)], Passes earlier := by
        intro earlier inside
        obtain rfl := List.mem_singleton.mp inside
        exact passes_pair found
      have split : places (.pair first second) value =
          [(.pair first second, value)] ++ places first one ++ places second other := by
        simp [places, found]
      exact ⟨_, place, split ▸ fault.between pass _, .first found way⟩
    · rcases bind_eq_error.mp rest with inSecond | ⟨otherText, -, rest⟩
      · obtain ⟨before, place, fault, way⟩ := right other inSecond
        have pass : ∀ earlier ∈ (.pair first second, value) :: places first one,
            Passes earlier := by
          intro earlier inside
          rcases List.mem_cons.mp inside with rfl | inside
          · exact passes_pair found
          · exact places_pass qualified.1 good earlier inside
        have split : places (.pair first second) value =
            (.pair first second, value) :: places first one ++ places second other ++ [] := by
          simp [places, found]
        have literal := isText_of_written qualified.1 good
        exact ⟨_, place, split ▸ fault.between pass _, .second found literal way⟩
      · cases rest

theorem firstFault_of_written {representation : Representation}
    (qualified : representation.IsQualified) {value : Value} {error : LiteralError}
    (h : representation.written value = .error error) : FirstFault representation value error := by
  induction representation generalizing value with
  | scalar kind =>
    exact firstFault_of_leaf rfl (failsAt_of_scalar ((literal_eq_error qualified).mpr h))
  | enumeration name isQualified =>
    exact firstFault_of_leaf rfl (failsAt_of_enumeration ((literal_eq_error qualified).mpr h))
  | text => exact firstFault_of_leaf rfl (failsAt_of_text ((literal_eq_error qualified).mpr h))
  | position name =>
    exact firstFault_of_leaf rfl (failsAt_of_position ((literal_eq_error qualified).mpr h))
  | slice element ih =>
    have inner : element.IsQualified := qualified
    exact firstFault_of_slice inner (fun _ => ih inner) h
  | pair first second left right =>
    exact firstFault_of_pair qualified (fun _ => left qualified.1) (fun _ => right qualified.2) h

theorem isFirstFault_unique {places before before' : List (Representation × Value)}
    {place place' : Representation × Value} {error error' : LiteralError}
    (h : IsFirstFault places before place error) (h' : IsFirstFault places before' place' error') :
    place = place' := by
  induction before generalizing before' places with
  | nil =>
    obtain ⟨after, rfl⟩ := h.split
    obtain ⟨after', same⟩ := h'.split
    cases before' with
    | nil => exact (List.cons.inj same).1
    | cons other rest =>
      obtain ⟨rfl, -⟩ := List.cons.inj same
      exact absurd h.fails (h'.pass _ List.mem_cons_self error)
  | cons earlier before ih =>
    obtain ⟨after, rfl⟩ := h.split
    obtain ⟨after', same⟩ := h'.split
    cases before' with
    | nil =>
      obtain ⟨rfl, -⟩ := List.cons.inj same
      exact absurd h'.fails (h.pass _ List.mem_cons_self error')
    | cons other rest =>
      obtain ⟨-, same⟩ := List.cons.inj same
      exact ih ⟨⟨after, rfl⟩, h.fails, (List.forall_mem_cons.mp h.pass).2⟩
        ⟨⟨after', same⟩, h'.fails, (List.forall_mem_cons.mp h'.pass).2⟩

/-! ## Tame values -/

theorem places_isTame {representation : Representation} {value : Value}
    (tame : value.isTame = true) {place : Representation × Value}
    (h : place ∈ representation.places value) : place.2.isTame = true := by
  induction representation generalizing value with
  | scalar | enumeration | text | position =>
    obtain rfl := List.mem_singleton.mp h
    exact tame
  | slice element ih =>
    rw [places, List.mem_cons, List.mem_flatMap] at h
    rcases h with rfl | ⟨item, known, inside⟩
    · exact tame
    · unfold Value.elements at known
      split at known
      · next items found => exact ih (Value.items_isTame tame found item known) inside
      · exact absurd known List.not_mem_nil
      · exact absurd known List.not_mem_nil
  | pair first second left right =>
    rw [places, List.mem_cons] at h
    rcases h with rfl | inside
    · exact tame
    · split at inside
      · next one other found =>
        obtain ⟨tameLeft, tameRight⟩ := Value.components?_isTame tame found
        rcases List.mem_append.mp inside with inLeft | inRight
        · exact left tameLeft inLeft
        · exact right tameRight inRight
      · exact absurd inside List.not_mem_nil

theorem not_raises_of_isTame {representation : Representation} {value : Value}
    (tame : value.isTame = true) {cause : Raised} : ¬Raises representation value cause := by
  have atAxis (isX : Bool) := Coordinate.isTame_iff.mp (Value.isTame_coordinate isX tame)
  intro raises
  cases raises with
  | number _ _ spoken =>
    obtain ⟨text, shown⟩ := Value.exists_shown tame
    simp [shown] at spoken
  | name raised =>
    rcases Value.variantLabel_of_isTame tame with ⟨reason, taken⟩ | ⟨found, text, taken, -⟩ <;>
      simp [taken] at raised
  | variant found unspoken =>
    rcases Value.variantLabel_of_isTame tame with ⟨reason, taken⟩ | ⟨other, text, taken, spoken⟩
    · simp [taken] at found
    · obtain rfl := Except.ok.inj (Except.ok.inj (taken.symm.trans found))
      simp [spoken] at unspoken
  | text _ unspoken =>
    obtain ⟨text, spoken⟩ := Value.exists_inline tame
    simp [spoken] at unspoken
  | x raised => rcases atAxis true with other | ⟨text, found⟩ <;> simp_all
  | y _ raised => rcases atAxis false with other | ⟨text, found⟩ <;> simp_all
  | xText left _ => rcases atAxis true with other | ⟨text, found⟩ <;> simp_all
  | yText _ right => rcases atAxis false with other | ⟨text, found⟩ <;> simp_all
  | elements raised =>
    obtain ⟨items, same, -⟩ := Value.elements?_isTame tame raised
    cases same

theorem failsAt_of_isTame {place : Representation × Value} (tame : place.2.isTame = true)
    {error : LiteralError} :
    FailsAt place error ↔ ∃ reason shown, Rejects place.1 place.2 reason ∧
      place.2.display = .ok shown ∧ error = .mismatch ⟨place.1, place.2, reason, shown⟩ := by
  constructor
  · intro h
    cases h with
    | rejected rejects shown => exact ⟨_, _, rejects, shown, rfl⟩
    | unreported rejects raised =>
      obtain ⟨text, shown⟩ := Value.exists_display tame
      rw [shown] at raised
      cases raised
    | raised raises => exact absurd raises (not_raises_of_isTame tame)
  · rintro ⟨reason, shown, rejects, display, rfl⟩
    exact .rejected rejects display

theorem not_raised_of_isTame {place : Representation × Value} (tame : place.2.isTame = true)
    {cause : Raised} : ¬FailsAt place (.raised cause) := by
  intro fails
  obtain ⟨reason, shown, -, -, same⟩ := (failsAt_of_isTame tame).mp fails
  cases same

theorem written_ne_raised {representation : Representation}
    (qualified : representation.IsQualified) {value : Value} (tame : value.isTame = true)
    (cause : Raised) : representation.written value ≠ .error (.raised cause) := by
  intro failed
  obtain ⟨before, place, first, -⟩ := firstFault_of_written qualified failed
  obtain ⟨after, split⟩ := first.split
  have inside : place ∈ representation.places value := by simp [split]
  exact not_raised_of_isTame (places_isTame tame inside) first.fails

/-! ## Literals -/

theorem exists_firstFault {representation : Representation}
    (qualified : representation.IsQualified) {value : Value} {error : LiteralError} :
    representation.literal value = .error error ↔
      ∃ before place, IsFirstFault (representation.places value) before place error := by
  rw [literal_eq_error qualified]
  constructor
  · intro failed
    obtain ⟨before, place, first, -⟩ := firstFault_of_written qualified failed
    exact ⟨before, place, first⟩
  · rintro ⟨before, place, first⟩
    obtain ⟨after, split⟩ := first.split
    have inside : place ∈ representation.places value := by simp [split]
    cases outcome : representation.written value with
    | ok text => exact absurd first.fails (places_pass qualified outcome place inside error)
    | error error' =>
      -- the error that came out is that of the same place
      obtain ⟨before', place', first', -⟩ := firstFault_of_written qualified outcome
      obtain rfl := isFirstFault_unique first first'
      exact congrArg _ <| Except.error.inj <|
        (literal_of_failsAt first'.fails).symm.trans (literal_of_failsAt first.fails)

theorem isFirstFault_mismatch {places before : List (Representation × Value)}
    {place : Representation × Value} {cause : Mismatch}
    (h : IsFirstFault places before place (.mismatch cause)) :
    place = (cause.representation, cause.value) := by
  obtain ⟨-, fails, -⟩ := h
  cases fails with
  | rejected => rfl

def namelessMember : Value :=
  .member ⟨"Kind", "Kind", 0, false, false, [], 0, []⟩ (some "A") (.int 1) .null
    (some ⟨.error (.valueError "boom"), .ok "Kind.A", .ok "Kind.A", .ok "<Kind.A: 1>", .other,
      .other⟩)

end Representation

end EnumTables
