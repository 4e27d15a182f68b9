import EnumTables.Proofs.SourceUnit.ReadBack

/-!
# Agreement of the sections

The record type, every row of the table and the facade are written one after the other. In what is
read of a unit they have the same fields in the same order (`read_emit`), and the literal that an
accessor answers for a variant is that of the value which the variant has for the property.
-/

namespace EnumTables

open Decimal Literal Text Text.Nesting

namespace Representation

theorem typeText_oneLine {representation : Representation} (named : representation.HasWordNames) :
    '\n' ∉ representation.typeText.toList := by
  induction representation with
  | scalar kind => cases kind <;> decide
  | enumeration name qualified => exact named.notMem (by decide)
  | text => decide
  | position name => exact named.notMem (by decide)
  | slice element ih => simpa [typeText] using ih named
  | pair first second ihl ihr => simp [typeText, ihl named.1, ihr named.2]

/-- Names of variants are words, and texts have neither quotes nor line breaks in them. A member of
an enumeration that stands for a number is shown by a legible text, whatever it is. -/
def IsLegibleAt : Representation → Value → Prop
  | .scalar .int32, .member cls name held data looks => ∀ text,
      (Value.member cls name held data looks).shown = .ok text → SourceUnit.IsLegible text.toList
  | .enumeration _ _, value => ∀ found variant, variantLabel value = .ok (.ok found) →
      found.text = .ok variant → IsWord variant
  | .text, value => ∀ text, value.inline = .ok text → '"' ∉ text.toList ∧ '\n' ∉ text.toList
  | .position _, value => ∀ isX text, value.coordinate isX = .integer (.ok text) →
      SourceUnit.IsLegible text.toList
  | _, _ => True

theorem isLegible_numeral (n : Int) : SourceUnit.IsLegible (numeral n).toList := by
  rw [numeral, String.toList_ofList]
  exact SourceUnit.isKept_isLegible.plain ((intDigits_digitsAnd n).forall (by decide) (by decide))

theorem IsLegibleAt.showsIn {leaf : Representation} {value : Value}
    (legible : IsLegibleAt leaf value) : ShowsIn SourceUnit.IsLegible leaf value := by
  cases leaf with
  | scalar kind =>
    cases kind with
    | bool | float64 => exact trivial
    | int32 =>
      intro isInteger text spoken
      cases value with
      | int n =>
        obtain rfl := Spoken.eq_numeral_of_ofInteger spoken
        exact isLegible_numeral n
      | member => exact legible text spoken
      | _ => simp [Value.asInteger?] at isInteger
  | enumeration | position => exact legible
  | text =>
    intro isText text spoken
    obtain ⟨unquoted, oneLine⟩ := legible text spoken
    exact ⟨.quotes unquoted, by simp [oneLine]⟩
  | slice | pair => exact trivial

end Representation

structure DomainClass.IsLegible (cls : DomainClass) : Prop where
  name : IsWord cls.name
  fieldName : ∀ property ∈ cls.properties, IsWord (Identifier.fieldName property.name)
  typeName : ∀ property ∈ cls.properties, ∀ representation,
    property.type.resolve = .ok representation → representation.HasWordNames
  value : ∀ property ∈ cls.properties, ∀ representation,
    property.type.resolve = .ok representation → ∀ variant ∈ cls.variants, ∀ value,
    variant.values.lookup property.name = some value →
    representation.Leaves Representation.IsLegibleAt value

namespace SourceUnit

variable {cls : DomainClass} {schema : Schema}

theorem hasWords_of_isLegible (legible : cls.IsLegible) (h : Schema.ofClass cls = .ok schema) :
    HasWords schema := by
  obtain ⟨className, each, -⟩ := Schema.ofClass_eq_ok.mp h
  refine ⟨className ▸ legible.name, fun field known => ?_, fun field known => ?_⟩
  · obtain ⟨property, declared, isField⟩ := exists_mem_of_forall₂ each known
    exact isField.identifier ▸ legible.fieldName property declared
  · obtain ⟨property, declared, isField⟩ := exists_mem_of_forall₂ each known
    exact Representation.typeText_oneLine
      (legible.typeName property declared _ isField.representation)

theorem exists_table {variants : List Variant} {rows : List String}
    (each : List.Forall₂ (fun variant text => row schema variant = .ok text) variants rows) :
    ∃ table, List.Forall₂ (fun variant literals =>
        List.Forall₂ (IsLiteral variant) schema.fields literals) variants table ∧
      rows = table.map (rowText schema) := by
  induction each with
  | nil => exact ⟨[], .nil, rfl⟩
  | cons first _ ih =>
    obtain ⟨literals, stored, rfl⟩ := row_eq_ok.mp first
    obtain ⟨table, others, rfl⟩ := ih
    exact ⟨literals :: table, .cons stored others, rfl⟩

theorem isRow_of_isLegible (legible : cls.IsLegible) (h : Schema.ofClass cls = .ok schema)
    {variant : Variant} (member : variant ∈ cls.variants) {literals : List String}
    (each : List.Forall₂ (IsLiteral variant) schema.fields literals) : IsRow schema literals := by
  obtain ⟨-, fields, -⟩ := Schema.ofClass_eq_ok.mp h
  refine ⟨each.length_eq.symm, fun literal inside => ?_⟩
  obtain ⟨field, known, value, found, written⟩ := exists_mem_of_forall₂ each inside
  obtain ⟨property, declared, isField⟩ := exists_mem_of_forall₂ fields known
  rw [isField.sourceName] at found
  have leaves := legible.value property declared _ isField.representation variant member value found
  exact Representation.written_kept isKept_isLegible
    (Descriptor.isQualified_of_resolve isField.representation)
    (legible.typeName property declared _ isField.representation)
    (leaves.mono fun _ _ => Representation.IsLegibleAt.showsIn) written

theorem cells_names {fields : List Field} {literals : List String}
    (length : literals.length = fields.length) :
    (cells fields literals).map Prod.fst = fields.map Field.identifier := by
  induction fields generalizing literals with
  | nil => rfl
  | cons field rest ih =>
    cases literals with
    | nil => simp at length
    | cons literal literals =>
      have others := ih (by simpa using length)
      simpa [cells] using others

theorem lookup_cells {variant : Variant} {fields : List Field} {literals : List String}
    (each : List.Forall₂ (IsLiteral variant) fields literals)
    (distinct : (fields.map Field.identifier).Nodup) {field : Field} (h : field ∈ fields) :
    ∃ literal, (cells fields literals).lookup field.identifier = some literal ∧
      IsLiteral variant field literal := by
  induction each with
  | nil => exact absurd h List.not_mem_nil
  | @cons first literal rest literals stored others ih =>
    obtain ⟨fresh, distinct⟩ := List.nodup_cons.mp distinct
    rcases List.mem_cons.mp h with rfl | later
    · exact ⟨literal, by simp [cells], stored⟩
    · obtain ⟨found, there, isLiteral⟩ := ih distinct later
      have other : (field.identifier == first.identifier) = false :=
        beq_false_of_ne fun same => fresh (same ▸ List.mem_map_of_mem later)
      refine ⟨found, ?_, isLiteral⟩
      rw [← there]
      simp [cells, List.lookup_cons, other]

/-! ## Readings of emitted units -/

/-- Record type, rows and accessors have the fields of the schema in their order, the table has a
row for every variant, and what is stored under the name of a field is what its accessor answers:
the literal of the value that the variant has for the property. -/
structure Reading.Agrees (reading : Reading) (cls : DomainClass) (schema : Schema) : Prop where
  className : reading.className = cls.name
  fields : reading.fields =
    schema.fields.map fun field => (field.identifier, field.representation.typeText)
  rows : ∀ row ∈ reading.rows, row.map Prod.fst = schema.fields.map Field.identifier
  accessors : (reading.accessors.map fun accessor => (accessor.name, accessor.type)) =
    reading.fields
  declared : reading.length = reading.rows.length
  length : reading.rows.length = cls.variants.length
  literal : ∀ (place : Nat) (variant : Variant), cls.variants[place]? = some variant →
    variant.ordinal = place ∧ ∀ field ∈ schema.fields, ∃ value text,
      variant.values.lookup field.sourceName = some value ∧
      field.representation.literal value = .ok (label text) ∧
      reading.stored place field.identifier = some text ∧
      reading.answer place field.identifier = some text

theorem find?_accessor {fields : List Field} {field : Field} (h : field ∈ fields) :
    ∃ type, (fields.map fun field => AccessorReading.mk field.identifier
        field.representation.typeText field.identifier).find? (·.name = field.identifier) =
      some ⟨field.identifier, type, field.identifier⟩ := by
  induction fields with
  | nil => exact absurd h List.not_mem_nil
  | cons first rest ih =>
    by_cases same : first.identifier = field.identifier
    · exact ⟨first.representation.typeText, by simp [same]⟩
    · have later : field ∈ rest := by
        rcases List.mem_cons.mp h with rfl | later
        · exact absurd rfl same
        · exact later
      simpa [same] using ih later

theorem reading_answer (prelude : String) (rows : List (List (String × String))) {field : Field}
    (h : field ∈ schema.fields) (place : Nat) :
    (reading schema prelude rows).answer place field.identifier =
      (reading schema prelude rows).stored place field.identifier := by
  obtain ⟨type, found⟩ := find?_accessor h
  have accessor : (reading schema prelude rows).accessors.find? (·.name = field.identifier) =
      some ⟨field.identifier, type, field.identifier⟩ := found
  have lookedUp : (reading schema prelude rows).lookedUp =
      (reading schema prelude rows).tableName := rfl
  rw [Reading.answer, accessor, Option.bind_eq_bind, Option.bind_some, if_pos lookedUp]

theorem reading_agrees {prelude : String} (made : Schema.ofClass cls = .ok schema)
    (inPlace : InPlaceFrom 0 cls.variants) {table : List (List String)}
    (literals : List.Forall₂ (fun variant literals =>
      List.Forall₂ (IsLiteral variant) schema.fields literals) cls.variants table) :
    (reading schema prelude (table.map (cells schema.fields))).Agrees cls schema := by
  obtain ⟨className, fields, distinct⟩ := Schema.ofClass_eq_ok.mp made
  refine ⟨className, rfl, ?_, ?_, ?_, ?_, ?_⟩
  · refine List.forall_mem_map.mpr fun row inside => ?_
    obtain ⟨variant, -, stored⟩ := exists_mem_of_forall₂ literals inside
    exact cells_names stored.length_eq.symm
  · simp [reading]
  · simp [reading]
  · simp [reading, literals.length_eq]
  · intro place variant member
    refine ⟨by simpa using inPlaceFrom_iff.mp inPlace place variant member, fun field known => ?_⟩
    obtain ⟨row, there, stored⟩ := forall₂_getElem? literals member
    obtain ⟨literal, found, value, held, written⟩ := lookup_cells stored distinct known
    obtain ⟨property, -, isField⟩ := exists_mem_of_forall₂ fields known
    have inRow : (reading schema prelude (table.map (cells schema.fields))).stored place
        field.identifier = some literal := by
      simp [Reading.stored, reading, there, found]
    refine ⟨value, literal, held, ?_, inRow, ?_⟩
    · rw [Representation.literal_eq_written
        (Descriptor.isQualified_of_resolve isField.representation), written]
      rfl
    · rw [reading_answer prelude _ known place, inRow]

/-- The text of a class is read back, and the sections of what is read agree. -/
theorem read_emit {prelude text : String} (legible : cls.IsLegible)
    (one : '\n' ∉ prelude.toList) (h : (emit cls prelude).result = .ok text) :
    ∃ schema reading, Schema.ofClass cls = .ok schema ∧ Reading.ofText? text = some reading ∧
      reading.prelude = prelude ∧ reading.Agrees cls schema := by
  obtain ⟨schema, rows, made, inPlace, each, rfl⟩ := emit_eq_ok.mp h
  obtain ⟨table, literals, rfl⟩ := exists_table each
  have words := hasWords_of_isLegible legible made
  have each : List.Forall₂ (ReadsAs schema) (table.map (rowText schema))
      (table.map (cells schema.fields)) := by
    simp only [List.forall₂_map_left_iff, List.forall₂_map_right_iff, List.forall₂_same]
    intro row inside
    obtain ⟨variant, member, stored⟩ := exists_mem_of_forall₂ literals inside
    exact readsAs_rowText words (isRow_of_isLegible legible made member stored)
  exact ⟨schema, reading schema prelude (table.map (cells schema.fields)), made,
    ofText?_text words one each, rfl, reading_agrees made inPlace literals⟩

def tagged : DomainClass where
  name := "Unit"
  properties := [⟨"getTags", .map (.primitive .text) (.enumeration "Kind")⟩]
  variants := [
    ⟨"A", 0, [("getTags", .dict [(.text "], (", .text "X"), (.text "a: 1", .text "Y")])]⟩,
    ⟨"B", 1, [("getTags", .dict [])]⟩]

theorem tag_isLegible {key name : String} (unquoted : '"' ∉ key.toList) (one : '\n' ∉ key.toList)
    (word : IsWord name) : Representation.Leaves Representation.IsLegibleAt
      (.pair .text (.enumeration "Kind" true)) (Value.entry (.text key, .text name)) := by
  intro left right found
  obtain ⟨rfl, rfl⟩ := Prod.mk.inj (Option.some.inj found)
  constructor
  · intro text spoken
    obtain rfl := Except.ok.inj spoken
    exact ⟨unquoted, one⟩
  · intro label variant named spoken
    obtain rfl := Except.ok.inj (Except.ok.inj named)
    obtain rfl := Except.ok.inj spoken
    exact word

theorem tagged_isLegible : tagged.IsLegible where
  name := by decide
  fieldName := by decide
  typeName := by
    intro property declared representation resolved
    obtain rfl := List.mem_singleton.mp declared
    obtain rfl := Except.ok.inj resolved
    have word : IsWord "Kind" := by decide
    exact ⟨trivial, word⟩
  value := by
    intro property declared representation resolved variant member value held
    obtain rfl := List.mem_singleton.mp declared
    obtain rfl := Except.ok.inj resolved
    rcases List.mem_pair.mp member with rfl | rfl
    · obtain rfl := Option.some.inj held
      rintro _ ⟨⟩ item inside
      rcases List.mem_pair.mp inside with rfl | rfl
      · exact tag_isLegible (by decide) (by decide) (by decide)
      · exact tag_isLegible (by decide) (by decide) (by decide)
    · obtain rfl := Option.some.inj held
      rintro _ ⟨⟩ item inside
      exact absurd inside List.not_mem_nil

theorem tagged_emit : ∃ text, (emit tagged "use a;").result = .ok text :=
  exists_eq_ok (by decide +kernel)

theorem read_emit_tagged : tagged.IsLegible ∧ '\n' ∉ "use a;".toList ∧
    ∃ text, (emit tagged "use a;").result = .ok text ∧
      ∃ schema reading, Schema.ofClass tagged = .ok schema ∧
        Reading.ofText? text = some reading ∧ reading.prelude = "use a;" ∧
        reading.Agrees tagged schema := by
  have one : '\n' ∉ "use a;".toList := by decide
  obtain ⟨text, emitted⟩ := tagged_emit
  exact ⟨tagged_isLegible, one, text, emitted, read_emit tagged_isLegible one emitted⟩

def boastful : Value :=
  .member ⟨"Level", "Level", 0, false, true, [], 0, []⟩ (some "LOW") (.int 1) (.int 1)
    (some ⟨.ok (label "LOW"), .ok "1, b: 2", .ok "1, b: 2", .ok "<Level.LOW: 1>", .other, .other⟩)

def leveled : DomainClass where
  name := "Unit"
  properties := [⟨"a", .primitive .int⟩, ⟨"b", .primitive .int⟩]
  variants := [⟨"A", 0, [("a", boastful), ("b", .int 3)]⟩]

def leveledSchema : Schema :=
  ⟨"Unit", [⟨"a", "a", .scalar .int32⟩, ⟨"b", "b", .scalar .int32⟩]⟩

theorem leveled_schema : Schema.ofClass leveled = .ok leveledSchema := by
  have a : Schema.IsField ⟨"a", .primitive .int⟩ ⟨"a", "a", .scalar .int32⟩ :=
    ⟨by decide +kernel, rfl, rfl⟩
  have b : Schema.IsField ⟨"b", .primitive .int⟩ ⟨"b", "b", .scalar .int32⟩ :=
    ⟨by decide +kernel, rfl, rfl⟩
  exact Schema.ofClass_eq_ok.mpr ⟨rfl, .cons a (.cons b .nil), by decide⟩

theorem leveled_emit : (emit leveled "use a;").result =
    .ok (text leveledSchema "use a;" [rowText leveledSchema ["1, b: 2", numeral 3]]) := by
  have stored : List.Forall₂ (IsLiteral ⟨"A", 0, [("a", boastful), ("b", .int 3)]⟩)
      leveledSchema.fields ["1, b: 2", numeral 3] :=
    .cons ⟨boastful, rfl, rfl⟩ (.cons ⟨.int 3, rfl, Representation.written_int (by decide)⟩ .nil)
  exact emit_eq_ok.mpr ⟨leveledSchema, _, leveled_schema, ⟨rfl, trivial⟩,
    .cons (row_eq_ok.mpr ⟨_, stored, rfl⟩) .nil, rfl⟩

theorem leveled_readsAs : ReadsAs leveledSchema (rowText leveledSchema ["1, b: 2", numeral 3])
    [("a", "1"), ("b", "2"), ("b", "3")] :=
  ⟨by decide +kernel, by decide +kernel⟩

/-- A member that stands for a number and is shown by a text of its own can bring a field into a row
that the schema does not have. -/
theorem leveled_disagrees : IsWord leveled.name ∧ '\n' ∉ "use a;".toList ∧
    (∀ property ∈ leveled.properties, IsWord (Identifier.fieldName property.name)) ∧
    ∃ text schema reading, (emit leveled "use a;").result = .ok text ∧
      Schema.ofClass leveled = .ok schema ∧ Reading.ofText? text = some reading ∧
      ¬reading.Agrees leveled schema := by
  have one : '\n' ∉ "use a;".toList := by decide
  have words : HasWords leveledSchema := ⟨by decide, by decide, by decide⟩
  refine ⟨by decide, one, by decide +kernel, _, _, _, leveled_emit, leveled_schema,
    ofText?_text words one (.cons leveled_readsAs .nil), fun agrees => ?_⟩
  have same := agrees.rows _ List.mem_cons_self
  exact absurd same (by decide)

end SourceUnit

end EnumTables
