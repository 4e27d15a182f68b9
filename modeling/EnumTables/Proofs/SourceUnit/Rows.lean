import EnumTables.Proofs.Schema
import EnumTables.SourceUnit

/-!
# Rows

A row has a literal for every field of the schema (`row_eq_ok`), and a table has a row for every
variant, whose ordinal is its place (`rowsFrom_eq_ok`). The text of a class has all of them
(`emit_eq_ok`).
-/

namespace EnumTables.SourceUnit

def IsLiteral (variant : Variant) (field : Field) (literal : String) : Prop :=
  ∃ value, variant.values.lookup field.sourceName = some value ∧
    field.representation.written value = .ok literal

def assignment (field : Field) (literal : String) : String :=
  field.identifier ++ ": " ++ literal

def rowText (schema : Schema) (literals : List String) : String :=
  if schema.fields.isEmpty then schema.recordName ++ " \x7b\x7d"
  else schema.recordName ++ " \x7b " ++
    String.intercalate ", " (List.zipWith assignment schema.fields literals) ++ " \x7d"

theorem initializer_eq_ok {variant : Variant} {field : Field} {text : String} :
    initializer variant field = .ok text ↔
      ∃ literal, IsLiteral variant field literal ∧ text = assignment field literal := by
  unfold initializer IsLiteral assignment Representation.written
  cases variant.values.lookup field.sourceName with
  | none => simp
  | some value =>
    cases found : field.representation.literal value with
    | error error => simp [found, bind, Except.bind]
    | ok label =>
      cases spoken : label.text <;> simp [found, spoken, bind, Except.bind, Spoken.asLiteral,
        Except.mapError, eq_comm]

theorem initializers_eq_ok {variant : Variant} {fields : List Field} {texts : List String} :
    fields.mapM (initializer variant) = .ok texts ↔
      ∃ literals, List.Forall₂ (IsLiteral variant) fields literals ∧
        texts = List.zipWith assignment fields literals := by
  simp only [mapM_eq_ok_iff, initializer_eq_ok, forall₂_exists_iff]

theorem row_eq_ok {schema : Schema} {variant : Variant} {text : String} :
    row schema variant = .ok text ↔
      ∃ literals, List.Forall₂ (IsLiteral variant) schema.fields literals ∧
        text = rowText schema literals := by
  unfold row rowText
  by_cases noFields : schema.fields.isEmpty
  · rw [List.isEmpty_iff.mp noFields]
    simp [eq_comm]
  · simp only [noFields, Bool.false_eq_true, if_false, bind_eq_ok, initializers_eq_ok, pure,
      Except.pure, Except.ok.injEq]
    constructor
    · rintro ⟨_, ⟨literals, each, rfl⟩, rfl⟩
      exact ⟨literals, each, rfl⟩
    · rintro ⟨literals, each, rfl⟩
      exact ⟨_, ⟨literals, each, rfl⟩, rfl⟩

/-- The variants stand where their ordinals say, from a place on. -/
def InPlaceFrom : Nat → List Variant → Prop
  | _, [] => True
  | place, variant :: rest => variant.ordinal = place ∧ InPlaceFrom (place + 1) rest

theorem inPlaceFrom_iff {place : Nat} {variants : List Variant} :
    InPlaceFrom place variants ↔ ∀ (index : Nat) (variant : Variant),
      variants[index]? = some variant → variant.ordinal = place + index := by
  induction variants generalizing place with
  | nil => simp [InPlaceFrom]
  | cons first rest ih =>
    rw [InPlaceFrom, ih]
    constructor
    · rintro ⟨here, others⟩ index variant found
      cases index with
      | zero =>
        obtain rfl : first = variant := by simpa using found
        simpa using here
      | succ index =>
        have later := others index variant (by simpa using found)
        push_cast at later ⊢
        omega
    · intro all
      refine ⟨by simpa using all 0 first rfl, fun index variant found => ?_⟩
      have later := all (index + 1) variant (by simpa using found)
      push_cast at later ⊢
      omega

theorem rowsFrom_eq_ok {schema : Schema} {place : Nat} {variants : List Variant}
    {rows : List String} :
    rowsFrom schema place variants = .ok rows ↔ InPlaceFrom place variants ∧
      List.Forall₂ (fun variant text => row schema variant = .ok text) variants rows := by
  induction variants generalizing place rows with
  | nil => simp [rowsFrom, InPlaceFrom, eq_comm]
  | cons variant rest ih =>
    rw [rowsFrom, InPlaceFrom, List.forall₂_cons_left_iff]
    by_cases there : variant.ordinal = place
    · simp only [there, if_true, bind_eq_ok, ih, pure, Except.pure, Except.ok.injEq, true_and]
      constructor
      · rintro ⟨first, written, others, ⟨inPlace, each⟩, rfl⟩
        exact ⟨inPlace, first, others, written, each, rfl⟩
      · rintro ⟨inPlace, first, others, written, each, rfl⟩
        exact ⟨first, written, others, ⟨inPlace, each⟩, rfl⟩
    · simp [there]

theorem emit_eq_ok {cls : DomainClass} {prelude unit : String} :
    (emit cls prelude).result = .ok unit ↔ ∃ schema rows, Schema.ofClass cls = .ok schema ∧
      InPlaceFrom 0 cls.variants ∧
      List.Forall₂ (fun variant text => row schema variant = .ok text) cls.variants rows ∧
      unit = text schema prelude rows := by
  simp only [emit_result, ofClass, bind_eq_ok, rowsFrom_eq_ok, pure, Except.pure, Except.ok.injEq]
  constructor
  · rintro ⟨schema, made, rows, ⟨inPlace, each⟩, rfl⟩
    exact ⟨schema, rows, made, inPlace, each, rfl⟩
  · rintro ⟨schema, rows, made, inPlace, each, rfl⟩
    exact ⟨schema, made, rows, ⟨inPlace, each⟩, rfl⟩

end EnumTables.SourceUnit
