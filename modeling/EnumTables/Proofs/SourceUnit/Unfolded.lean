import EnumTables.Proofs.Drain.Unfolded
import EnumTables.Proofs.Representation
import EnumTables.Proofs.SourceUnit.Failures

/-!
# Mappings are lists of pairs

A class whose mappings give way to lists of pairs, in the types of its properties and in the values
of its variants at once, has the schema of the class as it was and the same literals. If there is a
source unit of a class, that is its source unit as well (`emit_unfolded`). Streams that several
values share are read at the same places.
-/

namespace EnumTables

open Literal

def Property.unfolded (property : Property) : Property :=
  { property with type := property.type.unfolded }

def Variant.unfolded (variant : Variant) : Variant :=
  { variant with values := variant.values.map fun entry => (entry.1, entry.2.unfolded) }

def DomainClass.unfolded (cls : DomainClass) : DomainClass :=
  { cls with
    properties := cls.properties.map Property.unfolded
    variants := cls.variants.map Variant.unfolded }

/-! ## The schema and the rows -/

namespace Schema

theorem IsField.unfolded {property : Property} {field : Field} (h : IsField property field) :
    IsField property.unfolded field := by
  refine ⟨h.identifier, h.sourceName, ?_⟩
  rw [Property.unfolded, Descriptor.resolve_unfolded, h.representation]
  rfl

theorem ofClass_unfolded {cls : DomainClass} {schema : Schema} (h : ofClass cls = .ok schema) :
    ofClass cls.unfolded = .ok schema := by
  obtain ⟨className, each, distinct⟩ := ofClass_eq_ok.mp h
  refine ofClass_eq_ok.mpr ⟨className, ?_, distinct⟩
  rw [DomainClass.unfolded, List.forall₂_map_left_iff]
  exact each.imp fun _ _ isField => isField.unfolded

theorem sourceNames_nodup {cls : DomainClass} {schema : Schema} (h : ofClass cls = .ok schema) :
    (schema.fields.map Field.sourceName).Nodup := by
  obtain ⟨-, each, distinct⟩ := ofClass_eq_ok.mp h
  have same : schema.fields.map Field.identifier =
      (schema.fields.map Field.sourceName).map Identifier.fieldName := by
    rw [List.map_map]
    refine List.map_congr_left fun field known => ?_
    obtain ⟨property, -, isField⟩ := exists_mem_of_forall₂ each known
    rw [isField.identifier, Function.comp, isField.sourceName]
  rw [same] at distinct
  exact distinct.of_map _

end Schema

theorem Variant.lookup_unfolded (variant : Variant) (name : String) :
    variant.unfolded.values.lookup name =
      (variant.values.lookup name).map Value.unfolded := by
  rw [Variant.unfolded]
  induction variant.values with
  | nil => rfl
  | cons entry rest ih =>
    obtain ⟨key, value⟩ := entry
    rw [List.map_cons, List.lookup_cons, List.lookup_cons, ih]
    cases name == key <;> rfl

namespace SourceUnit

theorem row_unfolded {schema : Schema} {variant : Variant} {text : String}
    (h : row schema variant = .ok text) : row schema variant.unfolded = .ok text := by
  obtain ⟨literals, each, rfl⟩ := row_eq_ok.mp h
  refine row_eq_ok.mpr ⟨literals, each.imp fun field literal isLiteral => ?_, rfl⟩
  obtain ⟨value, found, written⟩ := isLiteral
  refine ⟨value.unfolded, ?_, Representation.written_unfolded written⟩
  rw [Variant.lookup_unfolded, found, Option.map_some]

theorem inPlaceFrom_unfolded {place : Nat} {variants : List Variant}
    (h : InPlaceFrom place variants) : InPlaceFrom place (variants.map Variant.unfolded) := by
  induction variants generalizing place with
  | nil => trivial
  | cons variant rest ih => exact ⟨h.1, ih h.2⟩

theorem emit_unfolded_of_ok {cls : DomainClass} {prelude unit : String}
    (h : (emit cls prelude).result = .ok unit) :
    emit cls.unfolded prelude = emit cls prelude := by
  obtain ⟨schema, rows, made, inPlace, each, complete⟩ := emit_eq_ok.mp h
  have result : (emit cls.unfolded prelude).result = .ok unit := by
    refine emit_eq_ok.mpr ⟨schema, rows, Schema.ofClass_unfolded made, inPlaceFrom_unfolded inPlace,
      ?_, complete⟩
    rw [DomainClass.unfolded, List.forall₂_map_left_iff]
    exact each.imp fun _ _ => row_unfolded
  have log : (emit cls.unfolded prelude).log = (emit cls prelude).log := by
    rw [emit_log, emit_log, result, h, made, Schema.ofClass_unfolded made]
    rfl
  calc emit cls.unfolded prelude
      = ⟨(emit cls.unfolded prelude).log, (emit cls.unfolded prelude).result⟩ := rfl
    _ = ⟨(emit cls prelude).log, (emit cls prelude).result⟩ := by rw [log, result, h]
    _ = emit cls prelude := rfl

end SourceUnit

/-! ## The streams of a class -/

def Variant.put (variant : Variant) (name : String) (value : Value) : Variant :=
  { variant with values := variant.values.map fun entry =>
      if entry.1 = name then (entry.1, value) else entry }

namespace DomainClass

theorem lookup_put (values : List (String × Value)) (name other : String) (value : Value) :
    (values.map fun entry => if entry.1 = name then (entry.1, value) else entry).lookup other =
      if other = name then (values.lookup other).map fun _ => value else values.lookup other := by
  induction values with
  | nil => simp
  | cons entry rest ih =>
    obtain ⟨key, held⟩ := entry
    rw [List.map_cons, List.lookup_cons, List.lookup_cons, ih]
    by_cases sought : other = key
    · subst sought
      by_cases here : other = name <;> simp [here]
    · have apart : (other == key) = false := beq_false_of_ne sought
      by_cases here : key = name
      · subst here
        simp [apart, sought]
      · simp [apart, here]

theorem drainVariant_skip {field : Field} {variant : Variant}
    (absent : variant.values.lookup field.sourceName = none) (rest : List Field) :
    drainVariant (field :: rest) variant = drainVariant rest variant := by
  unfold drainVariant
  rw [List.foldlM_cons, absent]
  rfl

theorem drainVariant_cons {field : Field} {variant : Variant} {value : Value}
    (found : variant.values.lookup field.sourceName = some value) (rest : List Field)
    (spent : Spent) :
    (drainVariant (field :: rest) variant).run spent =
      (drainVariant rest
        (variant.put field.sourceName ((field.representation.drain value).run spent).1)).run
          ((field.representation.drain value).run spent).2 := by
  unfold drainVariant
  rw [List.foldlM_cons, found]
  rfl

theorem lookup_drainVariant {fields : List Field} {name : String}
    (apart : name ∉ fields.map Field.sourceName) (variant : Variant) (spent : Spent) :
    ((drainVariant fields variant).run spent).1.values.lookup name =
      variant.values.lookup name := by
  induction fields generalizing variant spent with
  | nil => rfl
  | cons field rest ih =>
    obtain ⟨here, later⟩ := not_or.mp (List.mem_cons.not.mp apart)
    cases found : variant.values.lookup field.sourceName with
    | none => rw [drainVariant_skip found, ih later]
    | some value => rw [drainVariant_cons found, ih later, Variant.put, lookup_put, if_neg here]

theorem put_unfolded (variant : Variant) (name : String) (value : Value) :
    (variant.put name value).unfolded = variant.unfolded.put name value.unfolded := by
  simp only [Variant.put, Variant.unfolded, List.map_map]
  congr 1
  refine List.map_congr_left fun entry _ => ?_
  dsimp only [Function.comp]
  split <;> rfl

theorem drainVariant_unfolded {fields : List Field}
    (distinct : (fields.map Field.sourceName).Nodup) {variant : Variant} {spent : Spent}
    (taken : ∀ field ∈ fields, ∀ value,
      ((drainVariant fields variant).run spent).1.values.lookup field.sourceName = some value →
      field.representation.IsTaken value) :
    (drainVariant fields variant.unfolded).run spent =
      (((drainVariant fields variant).run spent).1.unfolded,
        ((drainVariant fields variant).run spent).2) := by
  induction fields generalizing variant spent with
  | nil => rfl
  | cons field rest ih =>
    obtain ⟨apart, others⟩ := List.nodup_cons.mp distinct
    have lookup := variant.lookup_unfolded field.sourceName
    cases found : variant.values.lookup field.sourceName with
    | none =>
      rw [found] at lookup
      rw [drainVariant_skip found] at taken ⊢
      rw [drainVariant_skip lookup]
      exact ih others fun other inside => taken other (List.mem_cons_of_mem _ inside)
    | some value =>
      rw [found] at lookup
      rw [drainVariant_cons found] at taken ⊢
      have here : field.representation.IsTaken
          ((field.representation.drain value).run spent).1 := by
        refine taken field List.mem_cons_self _ ?_
        rw [lookup_drainVariant apart, Variant.put, lookup_put, if_pos rfl, found, Option.map_some]
      have read : (field.representation.drain value.unfolded).run spent = _ :=
        Representation.drain_unfolded here
      rw [drainVariant_cons lookup, read, ← put_unfolded]
      exact ih others fun other inside => taken other (List.mem_cons_of_mem _ inside)

theorem drained_eq {cls : DomainClass} {schema : Schema} (made : Schema.ofClass cls = .ok schema)
    (spent : Spent) :
    cls.drained.run spent =
      ({ cls with
          variants := ((cls.variants.mapM (drainVariant schema.fields)).run spent).1 },
        ((cls.variants.mapM (drainVariant schema.fields)).run spent).2) := by
  rw [drained, made]
  rfl

theorem drained_unfolded {cls : DomainClass} {prelude unit : String} {spent : Spent}
    (h : (SourceUnit.emit (cls.drained.run spent).1 prelude).result = .ok unit) :
    cls.unfolded.drained.run spent =
      ((cls.drained.run spent).1.unfolded, (cls.drained.run spent).2) := by
  obtain ⟨name, properties, -⟩ := drained_keeps cls spent
  obtain ⟨schema, rows, made, -, each, -⟩ := SourceUnit.emit_eq_ok.mp h
  have own : Schema.ofClass cls = .ok schema := by
    rw [← made, Schema.ofClass, Schema.ofClass, name, properties]
  rw [drained_eq own] at each
  -- every variant has a row after its streams are read, so its values are taken
  let HasRow (variant : Variant) : Prop := ∃ text, SourceUnit.row schema variant = .ok text
  have alike : ∀ (variant : Variant) (spent : Spent),
      HasRow ((drainVariant schema.fields variant).run spent).1 →
      (drainVariant schema.fields variant.unfolded).run spent =
        (((drainVariant schema.fields variant).run spent).1.unfolded,
          ((drainVariant schema.fields variant).run spent).2) := by
    rintro variant spent ⟨text, written⟩
    refine drainVariant_unfolded (Schema.sourceNames_nodup own) fun field known value found => ?_
    obtain ⟨literals, stored, -⟩ := SourceUnit.row_eq_ok.mp written
    obtain ⟨literal, -, value', found', spelled⟩ := exists_mem_of_forall₂ stored.flip known
    obtain rfl := Option.some.inj (found.symm.trans found')
    exact Representation.isTaken_of_written spelled
  have rowed : ∀ variant ∈ ((cls.variants.mapM (drainVariant schema.fields)).run spent).1,
      HasRow variant := by
    intro variant inside
    obtain ⟨text, -, written⟩ := exists_mem_of_forall₂ each.flip inside
    exact ⟨text, written⟩
  have read := Drain.run_mapM_map alike rowed
  rw [drained_eq own, drained_eq (Schema.ofClass_unfolded own)]
  simp only [unfolded, read]

end DomainClass

namespace SourceUnit

/-- A class that has a source unit has the same one without mappings, and the same records are made
on the way to it. Where its streams are read before, those of the class without mappings are read
alike. -/
theorem emit_unfolded (cls : DomainClass) (prelude : String) :
    (∀ unit, (emit cls prelude).result = .ok unit →
      (emit cls.unfolded prelude).result = .ok unit ∧
        (emit cls.unfolded prelude).log = (emit cls prelude).log) ∧
    ∀ spent unit, (emit (cls.drained.run spent).1 prelude).result = .ok unit →
      (emit (cls.unfolded.drained.run spent).1 prelude).result = .ok unit ∧
        (cls.unfolded.drained.run spent).2 = (cls.drained.run spent).2 := by
  refine ⟨fun unit h => ?_, fun spent unit h => ?_⟩
  · rw [emit_unfolded_of_ok h]
    exact ⟨h, rfl⟩
  · rw [DomainClass.drained_unfolded h, emit_unfolded_of_ok h]
    exact ⟨h, rfl⟩

/-- Mappings in mappings, one in the place of a list of lists, and a stream that two variants
share. -/
def nested : DomainClass where
  name := "Unit"
  properties := [
    ⟨"getCosts", .map (.primitive .text) (.list (.map (.primitive .int) (.primitive .bool)))⟩,
    ⟨"names", .list (.list (.primitive .text))⟩,
    ⟨"steps", .list (.primitive .int)⟩]
  variants := [
    ⟨"A", 0, [("getCosts", .dict [(.text "gas", .tuple [.mapping true [(.int 1, .bool true)]])]),
      ("names", .dict [(.text "a", .text "b")]),
      ("steps", .collection (.stream (some "m")) [.int 1])]⟩,
    ⟨"B", 1, [("getCosts", .dict []), ("names", .list []),
      ("steps", .collection (.stream (some "m")) [.int 1])]⟩]

def flat : DomainClass where
  name := "Unit"
  properties := [
    ⟨"getCosts", .list (.pair (.primitive .text)
      (.list (.list (.pair (.primitive .int) (.primitive .bool)))))⟩,
    ⟨"names", .list (.list (.primitive .text))⟩,
    ⟨"steps", .list (.primitive .int)⟩]
  variants := [
    ⟨"A", 0, [("getCosts", .list [.tuple [.text "gas",
        .tuple [.list [.tuple [.int 1, .bool true]]]]]),
      ("names", .list [.tuple [.text "a", .text "b"]]),
      ("steps", .collection (.stream (some "m")) [.int 1])]⟩,
    ⟨"B", 1, [("getCosts", .list []), ("names", .list []),
      ("steps", .collection (.stream (some "m")) [.int 1])]⟩]

theorem nested_unfolded : nested.unfolded = flat := rfl

theorem emit_unfolded_nested :
    (∃ unit, (emit nested "use a;").result = .ok unit ∧ (emit flat "use a;").result = .ok unit) ∧
    ∃ unit, (emit (nested.drained.run []).1 "use a;").result = .ok unit ∧
      (emit (flat.drained.run []).1 "use a;").result = .ok unit := by
  obtain ⟨unit, written⟩ : ∃ unit, (emit nested "use a;").result = .ok unit :=
    exists_eq_ok (by decide +kernel)
  obtain ⟨other, read⟩ : ∃ unit, (emit (nested.drained.run []).1 "use a;").result = .ok unit :=
    exists_eq_ok (by decide +kernel)
  rw [← nested_unfolded]
  exact ⟨⟨unit, written, ((emit_unfolded nested "use a;").1 unit written).1⟩,
    other, read, ((emit_unfolded nested "use a;").2 [] other read).1⟩

end SourceUnit

end EnumTables
