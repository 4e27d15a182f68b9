import EnumTables.Proofs.SourceUnit.Rows
import EnumTables.Proofs.Text.Lowered

/-!
# Legal identifiers

An identifier is legal in generated text if it is a name and none of the words that the language
keeps to itself. A name that begins with no underscore is converted to such a name again
(`convert_isPublic`), so there are two ways in which an identifier made from it can fail to be
legal: it is a reserved word, or what stands behind a removed accessor word does not begin like a
name (`fieldName_isLegal_iff`). Emission looks at neither (`emit_identifiers`), and the class of
`keyed_identifiers` is written with identifiers of both kinds.
-/

namespace EnumTables

open Text

namespace Identifier

/-! ## Names -/

def IsName : List Char → Prop
  | [] => False
  | first :: rest => isNameStart first = true ∧ ∀ c ∈ rest, isNamePart c = true

instance : DecidablePred IsName
  | [] => isFalse id
  | first :: rest =>
    inferInstanceAs (Decidable (isNameStart first = true ∧ ∀ c ∈ rest, isNamePart c = true))

def IsPublic (name : List Char) : Prop :=
  IsName name ∧ name.head? ≠ some '_'

instance : DecidablePred IsPublic := fun name =>
  inferInstanceAs (Decidable (IsName name ∧ name.head? ≠ some '_'))

/-- The keywords of all editions, those that have no meaning yet among them. The underscore alone is
a keyword as well. -/
def reservedWords : List String :=
  ["_", "abstract", "as", "async", "await", "become", "box", "break", "const", "continue", "crate",
    "do", "dyn", "else", "enum", "extern", "false", "final", "fn", "for", "gen", "if", "impl", "in",
    "let", "loop", "macro", "match", "mod", "move", "mut", "override", "priv", "pub", "ref",
    "return", "self", "Self", "static", "struct", "super", "trait", "true", "try", "type",
    "typeof", "unsafe", "unsized", "use", "virtual", "where", "while", "yield"]

structure IsLegal (identifier : String) : Prop where
  isName : IsName identifier.toList
  notReserved : identifier ∉ reservedWords

theorem IsName.isNamePart {name : List Char} (h : IsName name) :
    ∀ c ∈ name, isNamePart c = true := by
  cases name with
  | nil => exact h.elim
  | cons first rest => exact List.forall_mem_cons.mpr ⟨isNamePart_of_isNameStart h.1, h.2⟩

/-! ## Names converted -/

theorem convertFrom_isNamePart {previous : Option Char} {name : List Char}
    (parts : ∀ c ∈ name, isNamePart c = true) :
    ∀ c ∈ convertFrom previous name, isNamePart c = true := by
  induction name generalizing previous with
  | nil => simp [convertFrom]
  | cons c rest ih =>
    obtain ⟨first, others⟩ := List.forall_mem_cons.mp parts
    have underscore : isNamePart '_' = true := by decide +kernel
    have seam : ∀ c' ∈ (if isSeam previous c then ['_'] else []), isNamePart c' = true := by
      split <;> simp [underscore]
    simp only [convertFrom, List.forall_mem_append]
    exact ⟨⟨seam, lowerChar_isNamePart first⟩, ih others⟩

theorem convert_isPublic {name : List Char} (isPublic : IsPublic name) :
    IsPublic (convert name) := by
  obtain ⟨isName, noUnderscore⟩ := isPublic
  cases name with
  | nil => exact isName.elim
  | cons c rest =>
    obtain ⟨first, others, lowered, starts⟩ := lowerChar_isNameStart isName.1
    have converted : convert (c :: rest) = first :: (others ++ convertFrom (some c) rest) := by
      simp [convert, convertFrom, isSeam, lowered]
    have parts := lowerChar_isNamePart (isNamePart_of_isNameStart isName.1)
    rw [lowered] at parts
    rw [converted]
    refine ⟨⟨starts, List.forall_mem_append.mpr ⟨?_, convertFrom_isNamePart isName.2⟩⟩, ?_⟩
    · exact fun c' inside => parts c' (List.mem_cons_of_mem _ inside)
    · intro same
      obtain rfl : first = '_' := by simpa using same
      have only : c = '_' := lowerChar_underscore (lowered ▸ List.mem_cons_self)
      exact noUnderscore (only ▸ rfl)

theorem stripAccessorWord_append (rest : List Char) :
    stripAccessorWord (accessorWord ++ rest) = rest := by
  have front : accessorWord.isPrefixOf (accessorWord ++ rest) = true :=
    List.isPrefixOf_iff_prefix.mpr (List.prefix_append _ _)
  rw [stripAccessorWord, if_pos front, List.drop_left]

theorem stripAccessorWord_eq_self {identifier : List Char}
    (h : ∀ rest, identifier ≠ accessorWord ++ rest) : stripAccessorWord identifier = identifier := by
  refine if_neg fun front => ?_
  obtain ⟨rest, same⟩ := List.isPrefixOf_iff_prefix.mp front
  exact h rest same.symm

/-- What is left of a converted name without the accessor word begins like a name. -/
def StartsWithoutWord (name : String) : Prop :=
  ∀ rest, convert name.toList = accessorWord ++ rest →
    ∃ first others, rest = first :: others ∧ isNameStart first = true

theorem fieldName_isName_iff {name : String} (isPublic : IsPublic name.toList) :
    IsName (fieldName name).toList ↔ StartsWithoutWord name := by
  have converted := (convert_isPublic isPublic).1
  rw [fieldName, String.toList_ofList]
  by_cases stripped : ∃ rest, convert name.toList = accessorWord ++ rest
  · obtain ⟨rest, found⟩ := stripped
    rw [found] at converted
    have parts := (List.forall_mem_append.mp converted.isNamePart).2
    rw [found, stripAccessorWord_append]
    constructor
    · intro isName other same
      obtain rfl := List.append_cancel_left (found.symm.trans same)
      cases rest with
      | nil => exact isName.elim
      | cons first others => exact ⟨first, others, rfl, isName.1⟩
    · intro starts
      obtain ⟨first, others, rfl, start⟩ := starts rest found
      exact ⟨start, (List.forall_mem_cons.mp parts).2⟩
  · have unstripped : ∀ rest, convert name.toList ≠ accessorWord ++ rest :=
      fun rest found => stripped ⟨rest, found⟩
    rw [stripAccessorWord_eq_self unstripped]
    exact iff_of_true converted fun rest found => absurd found (unstripped rest)

theorem fieldName_isLegal_iff {name : String} (isPublic : IsPublic name.toList) :
    IsLegal (fieldName name) ↔
      fieldName name ∉ reservedWords ∧ StartsWithoutWord name := by
  rw [← fieldName_isName_iff isPublic]
  exact ⟨fun legal => ⟨legal.notReserved, legal.isName⟩, fun h => ⟨h.2, h.1⟩⟩

end Identifier

/-! ## Identifiers of a unit -/

namespace SourceUnit

open Identifier

/-- The identifiers of a unit, with which the record, the rows and the accessors are written. They
are made from the names of the properties one by one, and each is legal iff it is no reserved word
and the removal of the accessor word leaves a name. -/
theorem emit_identifiers {cls : DomainClass} {prelude unit : String}
    (names : ∀ property ∈ cls.properties, IsPublic property.name.toList)
    (emitted : (emit cls prelude).result = .ok unit) : ∃ schema rows,
      Schema.ofClass cls = .ok schema ∧ unit = text schema prelude rows ∧
      List.Forall₂ (fun variant row => ∃ literals,
        List.Forall₂ (IsLiteral variant) schema.fields literals ∧ row = rowText schema literals)
        cls.variants rows ∧
      schema.fields.map Field.identifier =
        cls.properties.map (fun property => fieldName property.name) ∧
      (∀ property ∈ cls.properties, IsLegal (fieldName property.name) ↔
        fieldName property.name ∉ reservedWords ∧ StartsWithoutWord property.name) ∧
      ((∀ field ∈ schema.fields, IsLegal field.identifier) ↔ ∀ property ∈ cls.properties,
        fieldName property.name ∉ reservedWords ∧ StartsWithoutWord property.name) := by
  obtain ⟨schema, rows, made, -, each, rfl⟩ := emit_eq_ok.mp emitted
  obtain ⟨-, isField, -⟩ := Schema.ofClass_eq_ok.mp made
  have identifiers := Schema.identifiers_eq isField
  have legal : ∀ property ∈ cls.properties, IsLegal (fieldName property.name) ↔
      fieldName property.name ∉ reservedWords ∧ StartsWithoutWord property.name :=
    fun property declared => fieldName_isLegal_iff (names property declared)
  refine ⟨schema, rows, made, rfl, each.imp fun _ _ => row_eq_ok.mp, identifiers, legal, ?_⟩
  rw [← List.forall_mem_map (f := Field.identifier) (P := IsLegal), identifiers, List.forall_mem_map]
  exact forall₂_congr legal

def priced : DomainClass where
  name := "Unit"
  properties := [⟨"unitType", .primitive .int⟩, ⟨"getCost", .primitive .int⟩]
  variants := [⟨"A", 0, [("unitType", .int 1), ("getCost", .int 2)]⟩]

theorem emit_identifiers_priced :
    (∀ property ∈ priced.properties, IsPublic property.name.toList) ∧
    ∃ unit, (emit priced "use a;").result = .ok unit ∧ ∃ schema rows,
      Schema.ofClass priced = .ok schema ∧ unit = text schema "use a;" rows ∧
      schema.fields.map Field.identifier = ["unit_type", "cost"] ∧
      ∀ field ∈ schema.fields, IsLegal field.identifier := by
  have names : ∀ property ∈ priced.properties, IsPublic property.name.toList := by decide +kernel
  obtain ⟨unit, emitted⟩ : ∃ unit, (emit priced "use a;").result = .ok unit :=
    exists_eq_ok (by decide +kernel)
  obtain ⟨schema, rows, made, complete, -, identifiers, -, -⟩ := emit_identifiers names emitted
  have known : priced.properties.map (fun property => fieldName property.name) =
      ["unit_type", "cost"] := by decide +kernel
  have legal : ∀ identifier ∈ ["unit_type", "cost"], IsLegal identifier :=
    List.forall_mem_cons.mpr ⟨⟨by decide +kernel, by decide⟩,
      List.forall_mem_singleton.mpr ⟨by decide +kernel, by decide⟩⟩
  refine ⟨names, unit, emitted, schema, rows, made, complete, identifiers.trans known, ?_⟩
  intro field inside
  refine legal _ ?_
  rw [← known, ← identifiers]
  exact List.mem_map_of_mem inside

def keyed : DomainClass where
  name := "Unit"
  properties := [⟨"type", .primitive .int⟩, ⟨"get_", .primitive .int⟩, ⟨"get_1", .primitive .int⟩]
  variants := [⟨"A", 0, [("type", .int 1), ("get_", .int 2), ("get_1", .int 3)]⟩]

def keyedSchema : Schema :=
  ⟨"Unit", [⟨"type", "type", .scalar .int32⟩, ⟨"", "get_", .scalar .int32⟩,
    ⟨"1", "get_1", .scalar .int32⟩]⟩

theorem keyed_identifiers :
    (∀ property ∈ keyed.properties, IsPublic property.name.toList) ∧ ∃ rows,
      (emit keyed "use a;").result = .ok (text keyedSchema "use a;" rows) ∧
      keyedSchema.fields.map Field.identifier = ["type", "", "1"] ∧
      ∀ field ∈ keyedSchema.fields, ¬IsLegal field.identifier := by
  have isField : List.Forall₂ Schema.IsField keyed.properties keyedSchema.fields :=
    .cons ⟨by decide +kernel, rfl, rfl⟩ (.cons ⟨by decide +kernel, rfl, rfl⟩
      (.cons ⟨by decide +kernel, rfl, rfl⟩ .nil))
  have made : Schema.ofClass keyed = .ok keyedSchema :=
    Schema.ofClass_eq_ok.mpr ⟨rfl, isField, by decide⟩
  have stored : List.Forall₂
      (IsLiteral ⟨"A", 0, [("type", .int 1), ("get_", .int 2), ("get_1", .int 3)]⟩)
      keyedSchema.fields [Decimal.numeral 1, Decimal.numeral 2, Decimal.numeral 3] :=
    .cons ⟨.int 1, rfl, Representation.written_int (by decide)⟩
      (.cons ⟨.int 2, rfl, Representation.written_int (by decide)⟩
        (.cons ⟨.int 3, rfl, Representation.written_int (by decide)⟩ .nil))
  have emitted : (emit keyed "use a;").result = .ok (text keyedSchema "use a;" _) :=
    emit_eq_ok.mpr ⟨keyedSchema, _, made, ⟨rfl, trivial⟩,
    .cons (row_eq_ok.mpr ⟨_, stored, rfl⟩) .nil, rfl⟩
  refine ⟨by decide +kernel, _, emitted, rfl, ?_⟩
  have reserved : "type" ∈ reservedWords := by decide
  have noName : ¬IsName "".toList ∧ ¬IsName "1".toList := by decide +kernel
  refine List.forall_mem_cons.mpr ⟨fun legal => legal.notReserved reserved, ?_⟩
  exact List.forall_mem_cons.mpr ⟨fun legal => noName.1 legal.isName,
    List.forall_mem_singleton.mpr fun legal => noName.2 legal.isName⟩

end SourceUnit

end EnumTables
