import EnumTables.Proofs.SourceUnit.Failures
import EnumTables.Proofs.SourceUnit.ReadBack

/-!
# Functions of the facade

The facade of a unit is a block of functions: the lookup, by which a variant finds its row, and an
accessor for every field (`facade_eq_block`). Their names are found again in the lines of the facade
(`functionNames_facade`).

A schema is checked for two fields of one name. So the accessors of a unit have distinct names, and
a class for which they would not have is not written. The lookup has no part in that check: its name
is distinct from those of the accessors iff no property of the class is converted to it
(`emit_functions`). `dial_functions` is a class of which that is not so.
-/

namespace EnumTables.SourceUnit

open Text

/-! ## Blocks of functions -/

structure FacadeFunction where
  visibility : String
  name : String
  result : String
  body : String

namespace FacadeFunction

def lines (function : FacadeFunction) : List String :=
  [indent ++ function.visibility ++ "fn " ++ function.name ++ "(&self) -> " ++ function.result ++
      " \x7b",
    indent ++ indent ++ function.body,
    indent ++ "\x7d"]

def lookup (schema : Schema) : FacadeFunction where
  visibility := ""
  name := "d"
  result := "&" ++ schema.recordName
  body := "&" ++ schema.tableName ++ "[*self as usize]"

def ofField (field : Field) : FacadeFunction where
  visibility := "pub "
  name := field.identifier
  result := field.representation.typeText
  body := "self.d()." ++ field.identifier

end FacadeFunction

def accessors (schema : Schema) : List FacadeFunction :=
  schema.fields.map FacadeFunction.ofField

def functions (schema : Schema) : List FacadeFunction :=
  FacadeFunction.lookup schema :: accessors schema

def blockLines (className : String) (functions : List FacadeFunction) : List String :=
  ["impl " ++ className ++ " \x7b"] ++ [""].intercalate (functions.map FacadeFunction.lines) ++ ["\x7d"]

theorem intercalate_lines (first : List String) (fields : List Field) :
    [""].intercalate (first :: fields.map fun field => (FacadeFunction.ofField field).lines) =
      first ++ fields.flatMap accessor := by
  induction fields generalizing first with
  | nil => simp
  | cons field rest ih =>
    rw [List.map_cons, List.intercalate_cons_cons, ih]
    simp [accessor, FacadeFunction.lines, FacadeFunction.ofField, String.append_assoc]

theorem facadeLines_eq_blockLines (schema : Schema) :
    facadeLines schema = blockLines schema.className (functions schema) := by
  have lines : (functions schema).map FacadeFunction.lines = (FacadeFunction.lookup schema).lines ::
      schema.fields.map fun field => (FacadeFunction.ofField field).lines := by
    simp [functions, accessors]
  have signature : "fn d(&self) -> &" ++ (schema.recordName ++ " \x7b") =
      "fn d(&self) -> " ++ ("&" ++ (schema.recordName ++ " \x7b")) :=
    @String.append_assoc "fn d(&self) -> " "&" _
  rw [blockLines, lines, intercalate_lines]
  simp [facadeLines, FacadeFunction.lines, FacadeFunction.lookup, String.append_assoc, signature]

theorem facade_eq_block (schema : Schema) :
    facade schema = joinLines (blockLines schema.className (functions schema)) := by
  rw [← facadeLines_eq_blockLines]
  rfl

/-! ## Names found in a text -/

def functionName? (line : Line) : Option String := do
  let said := line.dropWhile (· = ' ')
  let declared := ("pub ".toList.isPrefixOf? said).getD said
  let (name, _) ← cutAt? '(' (← "fn ".toList.isPrefixOf? declared)
  return String.ofList name

def functionNames (text : String) : List String :=
  (text.toList.splitOn '\n').filterMap functionName?

/-- The first line of the function shows its name, and its body does not look like a first line. -/
structure FacadeFunction.IsPlain (function : FacadeFunction) : Prop where
  visible : function.visibility = "" ∨ function.visibility = "pub "
  unmarked : '(' ∉ function.name.toList
  body : ∃ c rest, function.body.toList = c :: rest ∧ c ∉ [' ', 'p', 'f']

theorem functionName?_head {function : FacadeFunction} (plain : function.IsPlain) :
    functionName? (indent ++ function.visibility ++ "fn " ++ function.name ++ "(&self) -> " ++
      function.result ++ " \x7b").toList = some function.name := by
  let said := "fn ".toList ++
    (function.name.toList ++ '(' :: ("&self) -> " ++ function.result ++ " \x7b").toList)
  have start : (indent ++ function.visibility ++ "fn " ++ function.name ++ "(&self) -> " ++
      function.result ++ " \x7b").toList.dropWhile (· = ' ') =
      function.visibility.toList ++ said := by
    rcases plain.visible with h | h <;> simp [indent, said, h]
  have declared : ("pub ".toList.isPrefixOf? (function.visibility.toList ++ said)).getD
      (function.visibility.toList ++ said) = said := by
    rcases plain.visible with h | h
    · simp [said, h, List.isPrefixOf?]
    · rw [h, isPrefixOf?_append, Option.getD_some]
  simp only [functionName?, start, declared]
  simp only [said, isPrefixOf?_append, cutAt?_append plain.unmarked, Option.bind_eq_bind,
    Option.bind_some, String.ofList_toList]
  rfl

theorem functionName?_eq_none {line : Line} {c : Char} (rest : Line)
    (start : line.dropWhile (· = ' ') = c :: rest) (other : c ∉ [' ', 'p', 'f']) :
    functionName? line = none := by
  simp only [List.mem_cons, List.not_mem_nil, or_false, not_or] at other
  simp [functionName?, start, List.isPrefixOf?, Ne.symm other.2.1, Ne.symm other.2.2]

theorem filterMap_lines {function : FacadeFunction} (plain : function.IsPlain) :
    function.lines.filterMap (fun line => functionName? line.toList) = [function.name] := by
  obtain ⟨c, rest, body, other⟩ := plain.body
  have noBlank : c ≠ ' ' := fun same => other (same ▸ List.mem_cons_self)
  have inside : functionName? (indent ++ indent ++ function.body).toList = none :=
    functionName?_eq_none rest (by simp [indent, body, noBlank]) other
  have foot : functionName? (indent ++ "\x7d").toList = none := by decide
  simp only [FacadeFunction.lines, List.filterMap_cons, functionName?_head plain, inside, foot,
    List.filterMap_nil]

theorem filterMap_intercalate {α : Type} (find? : String → Option α) (empty : find? "" = none)
    (blocks : List (List String)) :
    ([""].intercalate blocks).filterMap find? = blocks.flatMap (List.filterMap find?) := by
  induction blocks with
  | nil => rfl
  | cons first rest ih =>
    cases rest with
    | nil => simp
    | cons second rest =>
      rw [List.intercalate_cons_cons, List.filterMap_append, List.filterMap_append, ih]
      simp [empty]

theorem filterMap_blockLines {className : String} {functions : List FacadeFunction}
    (plain : ∀ function ∈ functions, function.IsPlain) :
    (blockLines className functions).filterMap (fun line => functionName? line.toList) =
      functions.map FacadeFunction.name := by
  have head : functionName? ("impl " ++ className ++ " \x7b").toList = none :=
    functionName?_eq_none ("mpl ".toList ++ (className ++ " \x7b").toList) (c := 'i') (by simp)
      (by decide)
  have foot : functionName? "\x7d".toList = none := by decide
  have empty : (fun line : String => functionName? line.toList) "" = none := by decide
  have each : (functions.map FacadeFunction.lines).flatMap
      (List.filterMap fun line => functionName? line.toList) = functions.map FacadeFunction.name := by
    rw [List.flatMap_map, ← List.flatMap_singleton' (functions.map FacadeFunction.name),
      List.flatMap_map]
    exact List.flatMap_congr fun function h => filterMap_lines (plain function h)
  simp only [blockLines, List.filterMap_append, List.filterMap_cons, List.filterMap_nil, head, foot,
    filterMap_intercalate (fun line => functionName? line.toList) empty, each,
    List.nil_append, List.append_nil]

theorem functions_isPlain {schema : Schema} (words : HasWords schema) :
    ∀ function ∈ functions schema, function.IsPlain := by
  have name : '(' ∉ "d".toList := by decide
  have lookup : ∃ rest, (FacadeFunction.lookup schema).body.toList = '&' :: rest :=
    ⟨schema.tableName.toList ++ "[*self as usize]".toList, by simp [FacadeFunction.lookup]⟩
  have access : ∀ field, ∃ rest, (FacadeFunction.ofField field).body.toList = 's' :: rest :=
    fun field => ⟨"elf.d().".toList ++ field.identifier.toList, by simp [FacadeFunction.ofField]⟩
  refine List.forall_mem_cons.mpr ⟨⟨.inl rfl, name, ?_⟩, List.forall_mem_map.mpr fun field h => ?_⟩
  · obtain ⟨rest, body⟩ := lookup
    exact ⟨'&', rest, body, by decide⟩
  · obtain ⟨rest, body⟩ := access field
    exact ⟨.inr rfl, (words.identifier field h).notMem (by decide), 's', rest, body, by decide⟩

theorem functionNames_facade {schema : Schema} (words : HasWords schema) :
    functionNames (facade schema) = (functions schema).map FacadeFunction.name := by
  have apart : (facade schema).toList.splitOn '\n' = (facadeLines schema).map String.toList :=
    splitOn_joinLines (List.cons_ne_nil _ _) (facadeLines_oneLine words)
  rw [functionNames, apart, List.filterMap_map, facadeLines_eq_blockLines]
  exact filterMap_blockLines (functions_isPlain words)

/-! ## Distinct names -/

theorem accessors_names {cls : DomainClass} {schema : Schema}
    (made : Schema.ofClass cls = .ok schema) :
    (accessors schema).map FacadeFunction.name =
      cls.properties.map fun property => Identifier.fieldName property.name := by
  obtain ⟨-, each, -⟩ := Schema.ofClass_eq_ok.mp made
  rw [← Schema.identifiers_eq each, accessors, List.map_map]
  rfl

theorem accessors_nodup {cls : DomainClass} {schema : Schema}
    (made : Schema.ofClass cls = .ok schema) : ((accessors schema).map FacadeFunction.name).Nodup := by
  obtain ⟨-, -, distinct⟩ := Schema.ofClass_eq_ok.mp made
  rwa [accessors, List.map_map]

theorem functions_nodup_iff {cls : DomainClass} {schema : Schema}
    (made : Schema.ofClass cls = .ok schema) : ((functions schema).map FacadeFunction.name).Nodup ↔
      ∀ property ∈ cls.properties, Identifier.fieldName property.name ≠ "d" := by
  have lookup : (FacadeFunction.lookup schema).name = "d" := rfl
  rw [functions, List.map_cons, List.nodup_cons, lookup, and_iff_left (accessors_nodup made),
    accessors_names made, List.mem_map]
  simp

theorem resolves_of_unsupported {earlier properties : List Property} {cause : Unsupported}
    (h : .unsupported cause ∈ Property.failuresFrom earlier properties) :
    ∃ property ∈ properties, property.type.resolve = .error cause := by
  induction properties generalizing earlier with
  | nil => exact absurd h List.not_mem_nil
  | cons property rest ih =>
    rw [Property.failuresFrom, Property.failures, List.mem_append, List.mem_append] at h
    rcases h with (duplicate | unsupported) | later
    · split at duplicate
      · exact absurd (List.mem_singleton.mp duplicate) EmissionError.noConfusion
      · exact absurd duplicate List.not_mem_nil
    · split at unsupported
      · next resolved =>
        obtain rfl := EmissionError.unsupported.inj (List.mem_singleton.mp unsupported)
        exact ⟨property, List.mem_cons_self, resolved⟩
      · exact absurd unsupported List.not_mem_nil
    · obtain ⟨other, inside, resolved⟩ := ih later
      exact ⟨other, List.mem_cons_of_mem _ inside, resolved⟩

/-- A class with two properties of one identifier is not written, and where all its types have
representations it is for a duplicate that it is not. -/
theorem emit_of_duplicate {cls : DomainClass} (prelude : String)
    (duplicate : ¬(cls.properties.map fun property => Identifier.fieldName property.name).Nodup) :
    ∃ error, (emit cls prelude).result = .error error ∧
      ((∃ earlier later identifier, error = .duplicateField earlier later identifier) ∨
        ∃ property ∈ cls.properties, ∃ cause,
          property.type.resolve = .error cause ∧ error = .unsupported cause) := by
  have failed : Property.failuresFrom [] cls.properties ≠ [] := by
    intro none
    exact duplicate (Property.failuresFrom_eq_nil.mp none).2.1
  obtain ⟨error, first⟩ := Option.ne_none_iff_exists'.mp (mt List.head?_eq_none_iff.mp failed)
  have among := List.mem_of_head? first
  refine ⟨error, emit_of_schema_failure first, ?_⟩
  rcases Property.isOfSchema_of_mem among with collision | ⟨cause, rfl⟩
  · exact .inl collision
  · obtain ⟨property, declared, resolved⟩ := resolves_of_unsupported among
    exact .inr ⟨property, declared, cause, resolved, rfl⟩

/-- The functions of a unit. The accessors have distinct names, and a class for which they would not
have is not written. The lookup is named apart from them iff no property is converted to its
name. -/
theorem emit_functions (cls : DomainClass) (prelude : String) :
    (∀ unit, (emit cls prelude).result = .ok unit → ∃ schema rows,
      Schema.ofClass cls = .ok schema ∧ unit = text schema prelude rows ∧
      facade schema = joinLines (blockLines cls.name (functions schema)) ∧
      (HasWords schema →
        functionNames (facade schema) = (functions schema).map FacadeFunction.name) ∧
      (functions schema).map FacadeFunction.name =
        "d" :: cls.properties.map (fun property => Identifier.fieldName property.name) ∧
      ((accessors schema).map FacadeFunction.name).Nodup ∧
      (((functions schema).map FacadeFunction.name).Nodup ↔
        ∀ property ∈ cls.properties, Identifier.fieldName property.name ≠ "d")) ∧
    (¬(cls.properties.map fun property => Identifier.fieldName property.name).Nodup →
      ∃ error, (emit cls prelude).result = .error error ∧
        ((∃ earlier later identifier, error = .duplicateField earlier later identifier) ∨
          ∃ property ∈ cls.properties, ∃ cause,
            property.type.resolve = .error cause ∧ error = .unsupported cause)) := by
  refine ⟨fun unit emitted => ?_, emit_of_duplicate prelude⟩
  obtain ⟨schema, rows, made, -, -, rfl⟩ := emit_eq_ok.mp emitted
  obtain ⟨className, -, -⟩ := Schema.ofClass_eq_ok.mp made
  have block := facade_eq_block schema
  rw [className] at block
  have names : (functions schema).map FacadeFunction.name = "d" ::
      cls.properties.map fun property => Identifier.fieldName property.name := by
    rw [functions, List.map_cons, accessors_names made]
    rfl
  exact ⟨schema, rows, made, rfl, block, functionNames_facade, names, accessors_nodup made,
    functions_nodup_iff made⟩

def dial : DomainClass where
  name := "Unit"
  properties := [⟨"d", .primitive .int⟩]
  variants := [⟨"A", 0, [("d", .int 1)]⟩]

def dialSchema : Schema :=
  ⟨"Unit", [⟨"d", "d", .scalar .int32⟩]⟩

theorem dial_functions : ∃ rows,
    (emit dial "use a;").result = .ok (text dialSchema "use a;" rows) ∧
      functionNames (facade dialSchema) = ["d", "d"] ∧
      ¬(functionNames (facade dialSchema)).Nodup := by
  have isField : Schema.IsField ⟨"d", .primitive .int⟩ ⟨"d", "d", .scalar .int32⟩ :=
    ⟨by decide +kernel, rfl, rfl⟩
  have made : Schema.ofClass dial = .ok dialSchema :=
    Schema.ofClass_eq_ok.mpr ⟨rfl, .cons isField .nil, by decide⟩
  have stored : List.Forall₂ (IsLiteral ⟨"A", 0, [("d", .int 1)]⟩) dialSchema.fields
      [Decimal.numeral 1] :=
    .cons ⟨.int 1, rfl, Representation.written_int (by decide)⟩ .nil
  have words : HasWords dialSchema := ⟨by decide, by decide, by decide⟩
  have twice : functionNames (facade dialSchema) = ["d", "d"] := functionNames_facade words
  refine ⟨_, emit_eq_ok.mpr ⟨dialSchema, _, made, ⟨rfl, trivial⟩,
    .cons (row_eq_ok.mpr ⟨_, stored, rfl⟩) .nil, rfl⟩, twice, ?_⟩
  rw [twice]
  decide

end EnumTables.SourceUnit
