import EnumTables.Proofs.SourceUnit.Rows
import EnumTables.Proofs.Literal.Faults

/-!
# Failures of a class

A class is scanned once: its properties in their order, then its variants, and within a variant its
place before its values. The failures of a class are listed in that order (`DomainClass.failures`).
There are none iff the class has all that a unit is made of (`failures_eq_nil`), and the first of
them is what comes out instead of a text (`emit_reports`).
-/

namespace EnumTables

open Literal

/-! ## Failures in the order of the scan -/

def Property.failures (earlier : List Property) (property : Property) : List EmissionError :=
  let identifier := Identifier.fieldName property.name
  (match earlier.find? fun other => Identifier.fieldName other.name = identifier with
    | some other => [.duplicateField other.name property.name identifier]
    | none => []) ++
  match property.type.resolve with
    | .error cause => [.unsupported cause]
    | .ok _ => []

def Property.failuresFrom (earlier : List Property) : List Property → List EmissionError
  | [] => []
  | property :: rest => property.failures earlier ++ failuresFrom (earlier ++ [property]) rest

namespace Variant

def valueFailures (variant : Variant) (property : Property) : List EmissionError :=
  match variant.values.lookup property.name, property.type.resolve with
  | none, _ => [.valueMissing variant.name property.name]
  | some _, .error _ => []
  | some value, .ok representation => match representation.written value with
    | .ok _ => []
    | .error (.mismatch cause) => [.unrendered variant.name property.name cause]
    | .error (.raised cause) => [.raised cause]

def failures (properties : List Property) (place : Nat) (variant : Variant) : List EmissionError :=
  (if variant.ordinal = place then [] else [SourceUnit.misplaced variant place]) ++
  properties.flatMap variant.valueFailures

def failuresFrom (properties : List Property) : Nat → List Variant → List EmissionError
  | _, [] => []
  | place, variant :: rest =>
    variant.failures properties place ++ failuresFrom properties (place + 1) rest

end Variant

namespace DomainClass

def failures (cls : DomainClass) : List EmissionError :=
  Property.failuresFrom [] cls.properties ++ Variant.failuresFrom cls.properties 0 cls.variants

end DomainClass

/-! ## Reports -/

namespace Schema

theorem find?_fields {properties : List Property} {fields : List Field}
    (each : List.Forall₂ IsField properties fields) (identifier : String) :
    (fields.find? fun field => field.identifier = identifier).map Field.sourceName =
      (properties.find? fun other => Identifier.fieldName other.name = identifier).map
        Property.name := by
  induction each with
  | nil => rfl
  | cons first _ ih =>
    simp only [List.find?_cons, first.identifier]
    split
    · simp [first.sourceName]
    · exact ih

theorem fieldsFrom_reports {earlier : List Property} {seen : List Field}
    (each : List.Forall₂ IsField earlier seen) (properties : List Property) :
    Reports (fieldsFrom seen properties) (Property.failuresFrom earlier properties) := by
  induction properties generalizing earlier seen with
  | nil => exact rfl
  | cons property rest ih =>
    have known := find?_fields each (Identifier.fieldName property.name)
    rw [fieldsFrom, Property.failuresFrom, Property.failures]
    cases found : seen.find? fun field => field.identifier = Identifier.fieldName property.name with
    | some field =>
      rw [found, Option.map_some, eq_comm, Option.map_eq_some_iff] at known
      obtain ⟨other, taken, sameName⟩ := known
      simp only [taken, sameName]
      exact rfl
    | none =>
      rw [found, Option.map_none, eq_comm, Option.map_eq_none_iff] at known
      simp only [known, List.nil_append]
      cases resolved : property.type.resolve with
      | error cause => exact rfl
      | ok representation =>
        have isField : IsField property ⟨_, _, representation⟩ := ⟨rfl, rfl, resolved⟩
        exact (ih (List.rel_append each (.cons isField .nil))).map _

theorem ofClass_reports (cls : DomainClass) :
    Reports (ofClass cls) (Property.failuresFrom [] cls.properties) :=
  (fieldsFrom_reports .nil cls.properties).map _

end Schema

namespace SourceUnit

theorem initializer_reports {variant : Variant} {property : Property} {field : Field}
    (h : Schema.IsField property field) :
    Reports (initializer variant field) (variant.valueFailures property) := by
  unfold initializer Variant.valueFailures Representation.written
  rw [h.sourceName, h.representation]
  cases variant.values.lookup property.name with
  | none => exact rfl
  | some value =>
    cases found : field.representation.literal value with
    | error error =>
      cases error <;> simp [found, bind, Except.bind, Reports, literalFailure, h.sourceName]
    | ok label =>
      cases spoken : label.text <;> simp [found, spoken, bind, Except.bind, Reports,
        Spoken.asLiteral, Except.mapError]

theorem row_reports {properties : List Property} {schema : Schema}
    (each : List.Forall₂ Schema.IsField properties schema.fields) (variant : Variant) :
    Reports (row schema variant) (properties.flatMap variant.valueFailures) := by
  unfold row
  split
  · next noFields =>
    rw [List.isEmpty_iff.mp noFields, List.forall₂_nil_right_iff] at each
    rw [each]
    exact rfl
  · exact (Reports.mapM (each.imp fun _ _ => initializer_reports)).map _

theorem rowsFrom_reports {properties : List Property} {schema : Schema}
    (each : List.Forall₂ Schema.IsField properties schema.fields) (place : Nat)
    (variants : List Variant) :
    Reports (rowsFrom schema place variants) (Variant.failuresFrom properties place variants) := by
  induction variants generalizing place with
  | nil => exact rfl
  | cons variant rest ih =>
    rw [rowsFrom, Variant.failuresFrom, Variant.failures]
    split
    · rw [List.nil_append]
      exact (row_reports each variant).bind fun first _ => (ih (place + 1)).map _
    · exact rfl

theorem emit_reports (cls : DomainClass) (prelude : String) :
    Reports (emit cls prelude).result cls.failures := by
  rw [emit_result]
  refine (Schema.ofClass_reports cls).bind fun schema made => ?_
  obtain ⟨-, each, -⟩ := Schema.ofClass_eq_ok.mp made
  exact (rowsFrom_reports each 0 cls.variants).map _

end SourceUnit

/-! ## Kinds of failures -/

def EmissionError.IsOfSchema (error : EmissionError) : Prop :=
  (∃ earlier later identifier, error = .duplicateField earlier later identifier) ∨
    ∃ cause, error = .unsupported cause

theorem Property.isOfSchema_of_mem {earlier properties : List Property} {error : EmissionError}
    (h : error ∈ failuresFrom earlier properties) : error.IsOfSchema := by
  induction properties generalizing earlier with
  | nil => exact absurd h List.not_mem_nil
  | cons property rest ih =>
    rw [failuresFrom, failures, List.mem_append, List.mem_append] at h
    rcases h with (duplicate | unsupported) | later
    · split at duplicate
      · exact Or.inl ⟨_, _, _, List.mem_singleton.mp duplicate⟩
      · exact absurd duplicate List.not_mem_nil
    · split at unsupported
      · exact Or.inr ⟨_, List.mem_singleton.mp unsupported⟩
      · exact absurd unsupported List.not_mem_nil
    · exact ih later

theorem Variant.mem_failuresFrom {properties : List Property} {place : Nat}
    {variants : List Variant} {error : EmissionError}
    (h : error ∈ failuresFrom properties place variants) : ∃ variant ∈ variants,
      (∃ place, error = SourceUnit.misplaced variant place) ∨
        ∃ property ∈ properties, error ∈ variant.valueFailures property := by
  induction variants generalizing place with
  | nil => exact absurd h List.not_mem_nil
  | cons variant rest ih =>
    rw [failuresFrom, failures, List.mem_append, List.mem_append] at h
    rcases h with (misplaced | value) | later
    · split at misplaced
      · exact absurd misplaced List.not_mem_nil
      · exact ⟨variant, List.mem_cons_self, Or.inl ⟨place, List.mem_singleton.mp misplaced⟩⟩
    · exact ⟨variant, List.mem_cons_self, Or.inr (List.mem_flatMap.mp value)⟩
    · obtain ⟨other, inside, cause⟩ := ih later
      exact ⟨other, List.mem_cons_of_mem _ inside, cause⟩

theorem Variant.isWild_of_raised {variant : Variant} {property : Property} {cause : Raised}
    (h : .raised cause ∈ variant.valueFailures property) : ∃ value,
      variant.values.lookup property.name = some value ∧ value.isTame = false := by
  unfold valueFailures at h
  cases found : variant.values.lookup property.name with
  | none => simp [found] at h
  | some value =>
    refine ⟨value, rfl, ?_⟩
    cases resolved : property.type.resolve with
    | error cause => simp [found, resolved] at h
    | ok representation =>
      by_contra tame
      have never := Representation.written_ne_raised
        (Descriptor.isQualified_of_resolve resolved) (Bool.eq_true_of_not_eq_false tame) cause
      simp only [found, resolved] at h
      split at h <;> simp_all

/-! ## Classes without failures -/

/-- Types have representations, identifiers are distinct, variants stand in their places, and every
value is there and has a literal. -/
structure DomainClass.IsEmittable (cls : DomainClass) : Prop where
  resolves : ∀ property ∈ cls.properties, ∃ representation,
    property.type.resolve = .ok representation
  distinct : (cls.properties.map fun property => Identifier.fieldName property.name).Nodup
  inPlace : ∀ (place : Nat) (variant : Variant), cls.variants[place]? = some variant →
    variant.ordinal = place
  valued : ∀ variant ∈ cls.variants, ∀ property ∈ cls.properties, ∃ value,
    variant.values.lookup property.name = some value
  accepted : ∀ variant ∈ cls.variants, ∀ property ∈ cls.properties, ∀ value representation,
    variant.values.lookup property.name = some value →
    property.type.resolve = .ok representation → ∃ text,
    representation.literal value = .ok (label text)

theorem Property.failures_eq_nil {earlier : List Property} {property : Property} :
    property.failures earlier = [] ↔
      (∃ representation, property.type.resolve = .ok representation) ∧
        ∀ other ∈ earlier,
          Identifier.fieldName other.name ≠ Identifier.fieldName property.name := by
  rw [failures, List.append_eq_nil_iff, and_comm]
  refine and_congr ?_ ?_
  · cases property.type.resolve <;> simp
  · cases found : earlier.find? fun other =>
        Identifier.fieldName other.name = Identifier.fieldName property.name with
    | none => simpa using found
    | some other =>
      have same := List.find?_some found
      simp only [List.cons_ne_self, false_iff, not_forall]
      exact ⟨other, List.mem_of_find?_eq_some found, not_not.mpr (of_decide_eq_true same)⟩

theorem Property.failuresFrom_eq_nil {earlier properties : List Property} :
    failuresFrom earlier properties = [] ↔
      (∀ property ∈ properties, ∃ representation, property.type.resolve = .ok representation) ∧
        (properties.map fun property => Identifier.fieldName property.name).Nodup ∧
        ∀ property ∈ properties, ∀ other ∈ earlier,
          Identifier.fieldName other.name ≠ Identifier.fieldName property.name := by
  induction properties generalizing earlier with
  | nil => simp [failuresFrom]
  | cons property rest ih =>
    rw [failuresFrom, List.append_eq_nil_iff, failures_eq_nil, ih]
    constructor
    · rintro ⟨⟨resolved, fresh⟩, others, distinct, unseen⟩
      refine ⟨List.forall_mem_cons.mpr ⟨resolved, others⟩, ?_, ?_⟩
      · rw [List.map_cons, List.nodup_cons]
        refine ⟨fun taken => ?_, distinct⟩
        obtain ⟨later, inside, same⟩ := List.mem_map.mp taken
        exact unseen later inside property (by simp) same.symm
      · refine List.forall_mem_cons.mpr ⟨fresh, fun later inside other known => ?_⟩
        exact unseen later inside other (List.mem_append_left _ known)
    · rintro ⟨resolved, distinct, fresh⟩
      rw [List.map_cons, List.nodup_cons] at distinct
      obtain ⟨first, others⟩ := List.forall_mem_cons.mp resolved
      obtain ⟨freshFirst, freshOthers⟩ := List.forall_mem_cons.mp fresh
      refine ⟨⟨first, freshFirst⟩, others, distinct.2, fun later inside other known => ?_⟩
      rcases List.mem_append.mp known with earlier | here
      · exact freshOthers later inside other earlier
      · obtain rfl := List.mem_singleton.mp here
        exact fun same => distinct.1 (same ▸ List.mem_map_of_mem inside)

theorem Variant.valueFailures_eq_nil {variant : Variant} {property : Property}
    {representation : Representation} (resolved : property.type.resolve = .ok representation) :
    variant.valueFailures property = [] ↔ ∃ value,
      variant.values.lookup property.name = some value ∧
        ∃ text, representation.literal value = .ok (label text) := by
  have qualified := Descriptor.isQualified_of_resolve resolved
  unfold valueFailures
  cases variant.values.lookup property.name with
  | none => simp
  | some value =>
    simp only [resolved, Option.some.injEq, exists_eq_left',
      ← Representation.written_eq_ok qualified]
    cases representation.written value with
    | ok text => simp
    | error error => cases error <;> simp

theorem Variant.failuresFrom_eq_nil {properties : List Property} {place : Nat}
    {variants : List Variant} :
    failuresFrom properties place variants = [] ↔ SourceUnit.InPlaceFrom place variants ∧
      ∀ variant ∈ variants, ∀ property ∈ properties, variant.valueFailures property = [] := by
  induction variants generalizing place with
  | nil => simp [failuresFrom, SourceUnit.InPlaceFrom]
  | cons variant rest ih =>
    rw [failuresFrom, failures, List.append_eq_nil_iff, List.append_eq_nil_iff, ih,
      List.flatMap_eq_nil_iff, SourceUnit.InPlaceFrom, List.forall_mem_cons]
    have there : (if variant.ordinal = place then [] else [SourceUnit.misplaced variant place]) =
        [] ↔ variant.ordinal = place := by
      split <;> simp_all
    rw [there]
    tauto

theorem DomainClass.failures_eq_nil {cls : DomainClass} : cls.failures = [] ↔ cls.IsEmittable := by
  rw [failures, List.append_eq_nil_iff, Property.failuresFrom_eq_nil, Variant.failuresFrom_eq_nil,
    SourceUnit.inPlaceFrom_iff]
  constructor
  · rintro ⟨⟨resolves, distinct, -⟩, inPlace, values⟩
    have literal : ∀ variant ∈ cls.variants, ∀ property ∈ cls.properties, ∀ representation,
        property.type.resolve = .ok representation → ∃ value,
          variant.values.lookup property.name = some value ∧
            ∃ text, representation.literal value = .ok (label text) :=
      fun variant h property h' representation resolved =>
        (Variant.valueFailures_eq_nil resolved).mp (values variant h property h')
    refine ⟨resolves, distinct, by simpa using inPlace, ?_, ?_⟩
    · intro variant h property h'
      obtain ⟨representation, resolved⟩ := resolves property h'
      obtain ⟨value, found, -⟩ := literal variant h property h' representation resolved
      exact ⟨value, found⟩
    · intro variant h property h' value representation found resolved
      obtain ⟨value', found', written⟩ := literal variant h property h' representation resolved
      obtain rfl := Option.some.inj (found.symm.trans found')
      exact written
  · rintro ⟨resolves, distinct, inPlace, valued, accepted⟩
    refine ⟨⟨resolves, distinct, by simp⟩, by simpa using inPlace, fun variant h property h' => ?_⟩
    obtain ⟨representation, resolved⟩ := resolves property h'
    obtain ⟨value, found⟩ := valued variant h property h'
    exact (Variant.valueFailures_eq_nil resolved).mpr
      ⟨value, found, accepted variant h property h' value representation found resolved⟩

/-! ## Emission -/

namespace SourceUnit

variable {cls : DomainClass} {prelude : String}

theorem errorRecords_of_schema {error : EmissionError} (h : error.IsOfSchema) (className : String) :
    errorRecords className error = [] := by
  rcases h with ⟨_, _, _, rfl⟩ | ⟨_, rfl⟩ <;> rfl

def outcomeRecords (cls : DomainClass) : Except EmissionError String → List LogRecord
  | .ok _ => []
  | .error error => errorRecords cls.name error

theorem emit_log (cls : DomainClass) (prelude : String) :
    (emit cls prelude).log = ((Schema.ofClass cls).toOption.map Schema.record).toList ++
      outcomeRecords cls (emit cls prelude).result := by
  unfold emit Schema.build
  cases made : Schema.ofClass cls with
  | error error =>
    have first := List.mem_of_head? ((Schema.ofClass_reports cls).eq_error_iff.mp made)
    have silent := errorRecords_of_schema (Property.isOfSchema_of_mem first) cls.name
    simp [bind, Logged.andThen, pure, Except.toOption, outcomeRecords, silent]
  | ok schema =>
    cases written : rowsFrom schema 0 cls.variants <;>
      simp [bind, Logged.andThen, pure, Except.toOption, outcomeRecords, written]

theorem emit_errors (cls : DomainClass) (prelude : String) :
    (emit cls prelude).log.filter (·.level = .error) =
      outcomeRecords cls (emit cls prelude).result := by
  rw [emit_log, List.filter_append]
  have schema : (((Schema.ofClass cls).toOption.map Schema.record).toList.filter
      (·.level = .error)) = [] := by
    cases (Schema.ofClass cls).toOption <;> rfl
  have outcome : (outcomeRecords cls (emit cls prelude).result).filter (·.level = .error) =
      outcomeRecords cls (emit cls prelude).result := by
    cases (emit cls prelude).result with
    | ok text => rfl
    | error error => cases error <;> rfl
  rw [schema, outcome, List.nil_append]

theorem emit_errors_of_unrendered {variant property : String} {cause : Mismatch}
    (h : (emit cls prelude).result = .error (.unrendered variant property cause)) :
    (emit cls prelude).log.filter (·.level = .error) = [⟨.error, Schema.logSource,
      "Failed to render " ++ cls.name ++ "." ++ variant ++ "." ++ property⟩] := by
  rw [emit_errors, h]
  rfl

theorem emit_errors_of_other (h : ∀ variant property cause,
    (emit cls prelude).result ≠ .error (.unrendered variant property cause)) :
    (emit cls prelude).log.filter (·.level = .error) = [] := by
  rw [emit_errors]
  cases outcome : (emit cls prelude).result with
  | ok unit => rfl
  | error error =>
    cases error with
    | unrendered variant property cause => exact absurd outcome (h variant property cause)
    | _ => rfl

theorem emit_of_schema_failure {error : EmissionError}
    (h : (Property.failuresFrom [] cls.properties).head? = some error) :
    (emit cls prelude).result = .error error := by
  rw [(emit_reports cls prelude).eq_error_iff, DomainClass.failures, List.head?_append, h,
    Option.some_or]

theorem isShort_of_misplaced {variant : Variant} {place : Nat} {cause : Raised}
    (h : misplaced variant place = .raised cause) : isShort variant.ordinal = false := by
  by_contra short
  rw [misplaced, ofInteger_of_isShort (Bool.eq_true_of_not_eq_false short)] at h
  cases h

/-- An ordinal without a numeral, or a value that is not tame, is behind an exception that is no
failure of the class. -/
def HasWild (cls : DomainClass) : Prop :=
  ∃ variant ∈ cls.variants, isShort variant.ordinal = false ∨
    ∃ property ∈ cls.properties, ∃ value,
      variant.values.lookup property.name = some value ∧ value.isTame = false

theorem hasWild_of_raised {cause : Raised}
    (h : (emit cls prelude).result = .error (.raised cause)) : HasWild cls := by
  have among := List.mem_of_head? ((emit_reports cls prelude).eq_error_iff.mp h)
  rcases List.mem_append.mp among with ofSchema | ofVariant
  · rcases Property.isOfSchema_of_mem ofSchema with ⟨_, _, _, duplicate⟩ | ⟨_, unsupported⟩
    · cases duplicate
    · cases unsupported
  · obtain ⟨variant, member, ⟨_, misplaced⟩ | ⟨property, declared, ofValue⟩⟩ :=
      Variant.mem_failuresFrom ofVariant
    · exact ⟨variant, member, Or.inl (isShort_of_misplaced misplaced.symm)⟩
    · exact ⟨variant, member, Or.inr ⟨property, declared, Variant.isWild_of_raised ofValue⟩⟩

def nameless : DomainClass where
  name := "Unit"
  properties := [⟨"kind", .enumeration "Kind"⟩]
  variants := [⟨"A", 0, [("kind", .member ⟨"Kind", "Kind", 0, false, false, [], 0, []⟩ (some "A")
    (.int 1) .null (some ⟨.error (.valueError "boom"), .ok "Kind.A", .ok "Kind.A",
      .ok "<Kind.A: 1>", .other, .other⟩))]⟩]

end SourceUnit

end EnumTables
