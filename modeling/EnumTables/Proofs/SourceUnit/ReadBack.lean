import EnumTables.Proofs.Identifier
import EnumTables.Proofs.SourceUnit.Reading
import EnumTables.Proofs.SourceUnit.Rows

/-!
# Source units read back

The names of a schema are words. Then the reader finds in the text of a unit the record type, every
accessor, and of every row what the line of the row says (`ofText?_text`). A row whose literals are
enclosed and on one line is found as it was written (`readsAs_rowText`).
-/

namespace EnumTables.SourceUnit

open Decimal Literal Text Text.Nesting

/-! ## Lines of a unit -/

def recordLines (schema : Schema) : List String :=
  ["pub(crate) struct " ++ schema.recordName ++ " \x7b"] ++
  (schema.fields.map fun field =>
    indent ++ "pub(crate) " ++ field.identifier ++ ": " ++
      field.representation.typeText ++ ",") ++
  ["\x7d"]

def tableLines (schema : Schema) (rows : List String) : List String :=
  ["pub(crate) static " ++ schema.tableName ++ ": [" ++ schema.recordName ++ "; " ++
    numeral rows.length ++ "] = ["] ++
  (rows.map fun row => indent ++ row ++ ",") ++
  ["];"]

def facadeLines (schema : Schema) : List String :=
  ["impl " ++ schema.className ++ " \x7b",
    indent ++ "fn d(&self) -> &" ++ schema.recordName ++ " \x7b",
    indent ++ indent ++ "&" ++ schema.tableName ++ "[*self as usize]",
    indent ++ "\x7d"] ++
  schema.fields.flatMap accessor ++
  ["\x7d"]

def lines (schema : Schema) (prelude : String) (rows : List String) : List String :=
  prelude :: "" :: recordLines schema ++ "" :: tableLines schema rows ++
    "" :: facadeLines schema ++ [""]

theorem joinLines_append {front back : List String} (hf : front ≠ []) (hb : back ≠ []) :
    joinLines (front ++ back) = joinLines front ++ "\n" ++ joinLines back :=
  String.intercalate_append_of_ne_nil hf hb

theorem joinLines_sections {front back : List String} (hf : front ≠ []) (hb : back ≠ []) :
    joinLines (front ++ "" :: back) = joinLines front ++ "\n\n" ++ joinLines back := by
  have behind : joinLines ("" :: back) = "\n" ++ joinLines back := by
    rw [← List.singleton_append, joinLines_append (List.cons_ne_nil _ _) hb]
    simp [joinLines]
  have breaks : "\n\n" = "\n" ++ "\n" := by decide
  rw [joinLines_append hf (List.cons_ne_nil _ _), behind, breaks]
  simp only [String.append_assoc]

theorem text_eq_joinLines (schema : Schema) (prelude : String) (rows : List String) :
    text schema prelude rows = joinLines (lines schema prelude rows) := by
  have start : lines schema prelude rows = [prelude] ++ "" :: (recordLines schema ++
      "" :: (tableLines schema rows ++ "" :: (facadeLines schema ++ [""]))) := by
    simp [lines]
  have last : joinLines (facadeLines schema ++ [""]) = facade schema ++ "\n" := by
    rw [joinLines_append (by simp [facadeLines]) (List.cons_ne_nil _ _)]
    simp [joinLines, facade, facadeLines]
  rw [start, joinLines_sections (by simp) (by simp [recordLines]),
    joinLines_sections (by simp [recordLines]) (by simp [tableLines]),
    joinLines_sections (by simp [tableLines]) (by simp [facadeLines]), last]
  simp only [text, String.intercalate_cons_cons, String.intercalate_singleton, String.append_assoc]
  rfl

theorem splitOn_joinLines {lines : List String} (nonempty : lines ≠ [])
    (oneLine : ∀ line ∈ lines, '\n' ∉ line.toList) :
    (joinLines lines).toList.splitOn '\n' = lines.map String.toList := by
  have separate : ∀ line ∈ lines.map String.toList, '\n' ∉ line := by
    simpa using oneLine
  rw [joinLines, String.toList_intercalate]
  exact List.splitOn_intercalate _ separate (by simpa using nonempty)

/-! ## One line after the other -/

def IsLegible (text : List Char) : Prop :=
  IsEnclosed text ∧ '\n' ∉ text

theorem isKept_isLegible : IsKept IsLegible :=
  isKept_isEnclosed.and isKept_oneLine

structure HasWords (schema : Schema) : Prop where
  className : IsWord schema.className
  identifier : ∀ field ∈ schema.fields, IsWord field.identifier
  type : ∀ field ∈ schema.fields, '\n' ∉ field.representation.typeText.toList

structure IsRow (schema : Schema) (literals : List String) : Prop where
  length : literals.length = schema.fields.length
  legible : ∀ literal ∈ literals, IsLegible literal.toList

/-- The row stands on one line, from which the given fields are read with their literals. -/
structure ReadsAs (schema : Schema) (row : String) (cells : List (String × String)) : Prop where
  oneLine : '\n' ∉ row.toList
  read : readRow? schema.recordName (indent ++ row ++ ",").toList = some cells

theorem numeral_oneLine (n : Int) : '\n' ∉ (numeral n).toList := by
  rw [numeral, String.toList_ofList]
  have plain : ∀ c ∈ intDigits n, c ≠ '\n' :=
    (intDigits_digitsAnd n).forall (by decide) (by decide)
  exact fun inside => plain _ inside rfl

section

variable {schema : Schema} (words : HasWords schema)
include words

theorem recordName_oneLine : '\n' ∉ schema.recordName.toList :=
  (Identifier.recordName_isWord words.className).notMem (by decide)

theorem tableName_oneLine : '\n' ∉ schema.tableName.toList :=
  Identifier.tableName_avoids words.className (by decide)

theorem recordLines_oneLine : ∀ line ∈ recordLines schema, '\n' ∉ line.toList := by
  simp only [recordLines, List.forall_mem_append, List.forall_mem_cons, List.forall_mem_map]
  refine ⟨⟨by simp [recordName_oneLine words], fun field h => ?_⟩, by simp⟩
  have identifier : '\n' ∉ field.identifier.toList :=
    (words.identifier field h).notMem (by decide)
  simp [indent, identifier, words.type field h]

theorem tableLines_oneLine {rows : List String} (each : ∀ row ∈ rows, '\n' ∉ row.toList) :
    ∀ line ∈ tableLines schema rows, '\n' ∉ line.toList := by
  simp only [tableLines, List.forall_mem_append, List.forall_mem_cons, List.forall_mem_map]
  refine ⟨⟨?_, fun row h => by simp [indent, each row h]⟩, by simp⟩
  simp [recordName_oneLine words, tableName_oneLine words, numeral_oneLine]

theorem facadeLines_oneLine : ∀ line ∈ facadeLines schema, '\n' ∉ line.toList := by
  have className : '\n' ∉ schema.className.toList := words.className.notMem (by decide)
  simp only [facadeLines, List.forall_mem_append, List.forall_mem_cons, List.forall_mem_flatMap]
  refine ⟨⟨?_, fun field h => ?_⟩, by simp⟩
  · simp [indent, className, recordName_oneLine words, tableName_oneLine words]
  · have identifier : '\n' ∉ field.identifier.toList :=
      (words.identifier field h).notMem (by decide)
    simp [accessor, indent, identifier, words.type field h]

theorem lines_oneLine {prelude : String} (one : '\n' ∉ prelude.toList) {rows : List String}
    (each : ∀ row ∈ rows, '\n' ∉ row.toList) :
    ∀ line ∈ lines schema prelude rows, '\n' ∉ line.toList := by
  simp only [lines, List.cons_append, List.forall_mem_append, List.forall_mem_cons]
  have record := recordLines_oneLine words
  have table := tableLines_oneLine words each
  have facade := facadeLines_oneLine words
  exact ⟨one, by simp, ⟨⟨record, by simp, table⟩, by simp, facade⟩, by simp⟩

theorem splitOn_text {prelude : String} (one : '\n' ∉ prelude.toList) {rows : List String}
    (each : ∀ row ∈ rows, '\n' ∉ row.toList) :
    (text schema prelude rows).toList.splitOn '\n' =
      (lines schema prelude rows).map String.toList := by
  rw [text_eq_joinLines]
  exact splitOn_joinLines (by simp [lines]) (lines_oneLine words one each)

/-! ## Sections read back -/

theorem readField?_line {field : Field} (h : field ∈ schema.fields) :
    readField? (indent ++ "pub(crate) " ++ field.identifier ++ ": " ++
      field.representation.typeText ++ ",").toList =
      some (field.identifier, field.representation.typeText) := by
  have ends : (indent ++ "pub(crate) " ++ field.identifier ++ ": " ++
      field.representation.typeText ++ ",").toList = "    pub(crate) ".toList ++
        (field.identifier ++ ": " ++ field.representation.typeText).toList ++ [','] := by
    simp [indent]
  have unmarked : ':' ∉ field.identifier.toList := (words.identifier field h).notMem (by decide)
  rw [readField?, ends, between?_append]
  exact readNamed?_append unmarked _

theorem readRecord?_lines (rest : List Line) :
    readRecord? ((recordLines schema).map String.toList ++ rest) =
      some (schema.recordName, schema.fields.map fun field =>
        (field.identifier, field.representation.typeText), rest) := by
  have head : between? "pub(crate) struct ".toList " \x7b".toList
      ("pub(crate) struct " ++ schema.recordName ++ " \x7b").toList =
      some schema.recordName.toList := by
    rw [String.toList_append, String.toList_append, between?_append]
  have each : List.Forall₂ (fun line found => line ≠ ['\x7d'] ∧ readField? line = some found)
      ((schema.fields.map fun field => indent ++ "pub(crate) " ++ field.identifier ++ ": " ++
        field.representation.typeText ++ ",").map String.toList)
      (schema.fields.map fun field => (field.identifier, field.representation.typeText)) := by
    simp only [List.forall₂_map_left_iff, List.forall₂_map_right_iff, List.forall₂_same]
    exact fun field h => ⟨by simp [indent], readField?_line words h⟩
  have foot : "\x7d".toList = ['\x7d'] := rfl
  simp only [recordLines, List.map_append, List.map_cons, List.map_nil, List.append_assoc,
    List.cons_append, List.nil_append, readRecord?, head, foot, readUntil?_append each rest,
    Option.bind_eq_bind, Option.bind_some, String.ofList_toList]
  rfl

theorem assignment_legible {field : Field} (h : field ∈ schema.fields) {literal : String}
    (legible : IsLegible literal.toList) : IsLegible (assignment field literal).toList := by
  have separator : IsLegible ": ".toList := isKept_isLegible.plain (by decide)
  rw [assignment, String.toList_append, String.toList_append]
  exact isKept_isLegible.append
    (isKept_isLegible.append (isKept_isLegible.plain (words.identifier field h).plain) separator)
    legible

theorem assignments_legible {literals : List String} (row : IsRow schema literals) :
    ∀ text ∈ List.zipWith assignment schema.fields literals, IsLegible text.toList := by
  intro text inside
  obtain ⟨field, known, literal, found, rfl⟩ := exists_of_mem_zipWith inside
  exact assignment_legible words known (row.legible literal found)

theorem rowText_oneLine {literals : List String} (row : IsRow schema literals) :
    '\n' ∉ (rowText schema literals).toList := by
  have not_separator : '\n' ∉ [',', ' '] := by decide
  have each : ∀ text ∈ (List.zipWith assignment schema.fields literals).map String.toList,
      '\n' ∉ text :=
    List.forall_mem_map.mpr fun text h => (assignments_legible words row text h).2
  have joined := notMem_intercalate not_separator each
  unfold rowText
  split
  · simp [recordName_oneLine words]
  · simpa [recordName_oneLine words] using joined

def cells (fields : List Field) (literals : List String) : List (String × String) :=
  List.zipWith (fun field literal => (field.identifier, literal)) fields literals

omit words in
theorem readNamed?_assignments {fields : List Field}
    (unmarked : ∀ field ∈ fields, ':' ∉ field.identifier.toList) (literals : List String) :
    ((List.zipWith assignment fields literals).map String.toList).mapM readNamed? =
      some (cells fields literals) := by
  induction fields generalizing literals with
  | nil => rfl
  | cons field rest ih =>
    cases literals with
    | nil => rfl
    | cons literal literals =>
      have first : readNamed? (assignment field literal).toList =
          some (field.identifier, literal) :=
        readNamed?_append (unmarked field List.mem_cons_self) literal
      have others := ih (fun other h => unmarked other (List.mem_cons_of_mem _ h)) literals
      rw [List.zipWith_cons_cons, List.map_cons, List.mapM_cons, first, others]
      rfl

theorem readRow?_line {literals : List String} (row : IsRow schema literals) :
    readRow? schema.recordName (indent ++ rowText schema literals ++ ",").toList =
      some (cells schema.fields literals) := by
  by_cases noFields : schema.fields = []
  · have ends : (indent ++ rowText schema literals ++ ",").toList =
        ("    " ++ schema.recordName ++ " \x7b").toList ++ [] ++ "\x7d,".toList := by
      simp [indent, rowText, noFields]
    rw [readRow?, ends, between?_append]
    simp [cells, noFields]
  · have ends : (indent ++ rowText schema literals ++ ",").toList =
        ("    " ++ schema.recordName ++ " \x7b").toList ++ ([' '] ++ [',', ' '].intercalate
          ((List.zipWith assignment schema.fields literals).map String.toList) ++ [' ']) ++
          "\x7d,".toList := by
      simp [indent, rowText, noFields]
    have some_cell : (List.zipWith assignment schema.fields literals).map String.toList ≠ [] := by
      have some_literal : literals ≠ [] := fun none => noFields <| by
        simpa [none, eq_comm] using row.length
      simp [noFields, some_literal]
    have enclosed : ∀ text ∈ (List.zipWith assignment schema.fields literals).map String.toList,
        IsEnclosed text :=
      List.forall_mem_map.mpr fun text h => (assignments_legible words row text h).1
    have unmarked : ∀ field ∈ schema.fields, ':' ∉ field.identifier.toList :=
      fun field h => (words.identifier field h).notMem (by decide)
    rw [readRow?, ends, between?_append, Option.bind_eq_bind, Option.bind_some, if_neg (by simp),
      between?_append]
    simp only [Option.bind_eq_bind, Option.bind_some, pieces?_intercalate some_cell enclosed]
    exact readNamed?_assignments unmarked literals

theorem readsAs_rowText {literals : List String} (row : IsRow schema literals) :
    ReadsAs schema (rowText schema literals) (cells schema.fields literals) :=
  ⟨rowText_oneLine words row, readRow?_line words row⟩

theorem readTable?_lines {rows : List String} {found : List (List (String × String))}
    (each : List.Forall₂ (ReadsAs schema) rows found) (rest : List Line) :
    readTable? schema.recordName ((tableLines schema rows).map String.toList ++ rest) =
      some (schema.tableName, rows.length, found, rest) := by
  let type := "[" ++ schema.recordName ++ "; " ++ numeral rows.length
  have head : between? "pub(crate) static ".toList "] = [".toList
      ("pub(crate) static " ++ schema.tableName ++ ": [" ++ schema.recordName ++ "; " ++
        numeral rows.length ++ "] = [").toList =
      some (schema.tableName ++ ": " ++ type).toList := by
    rw [← between?_append "pub(crate) static ".toList _ "] = [".toList]
    simp [type]
  have unmarked : ':' ∉ schema.tableName.toList :=
    Identifier.tableName_avoids words.className (by decide)
  have named : readNamed? (schema.tableName ++ ": " ++ type).toList =
      some (schema.tableName, type) :=
    readNamed?_append unmarked type
  have length : ("[" ++ schema.recordName ++ "; ").toList.isPrefixOf? type.toList =
      some (natDigits rows.length) := by
    have digits : type.toList = ("[" ++ schema.recordName ++ "; ").toList ++
        natDigits rows.length := by
      simp [type, numeral, intDigits]
    rw [digits, isPrefixOf?_append]
  have lines : List.Forall₂
      (fun line cells => line ≠ "];".toList ∧ readRow? schema.recordName line = some cells)
      ((rows.map fun row => indent ++ row ++ ",").map String.toList) found := by
    simp only [List.forall₂_map_left_iff]
    exact each.imp fun row _ reads => ⟨by simp [indent], reads.read⟩
  simp only [tableLines, List.map_append, List.map_cons, List.map_nil, List.append_assoc,
    List.cons_append, List.nil_append, readTable?, head, named, length, readDigits?_natDigits,
    readUntil?_append lines rest, Option.bind_eq_bind, Option.bind_some]
  rfl

theorem readAccessors?_lines {fields : List Field}
    (known : ∀ field ∈ fields, field ∈ schema.fields) :
    readAccessors? ((fields.flatMap accessor).map String.toList ++ [['\x7d'], []]) =
      some (fields.map fun field =>
        ⟨field.identifier, field.representation.typeText, field.identifier⟩) := by
  induction fields with
  | nil => rfl
  | cons field rest ih =>
    have others := ih fun other h => known other (List.mem_cons_of_mem _ h)
    have unmarked : '(' ∉ field.identifier.toList :=
      (words.identifier field (known field List.mem_cons_self)).notMem (by decide)
    have head : between? "    pub fn ".toList " \x7b".toList
        (indent ++ "pub fn " ++ field.identifier ++ "(&self) -> " ++
          field.representation.typeText ++ " \x7b").toList =
        some (field.identifier.toList ++
          '(' :: ("&self) -> ".toList ++ field.representation.typeText.toList)) := by
      rw [← between?_append "    pub fn ".toList _ " \x7b".toList]
      simp [indent]
    have body : "        self.d().".toList.isPrefixOf?
        (indent ++ indent ++ "self.d()." ++ field.identifier).toList =
        some field.identifier.toList := by
      rw [← isPrefixOf?_append "        self.d().".toList field.identifier.toList]
      simp [indent]
    have foot : (indent ++ "\x7d").toList = "    \x7d".toList := by decide
    have empty : "".toList = [] := rfl
    simp only [List.flatMap_cons, accessor, List.map_cons, List.cons_append, List.nil_append,
      empty, readAccessors?, head, body, foot, cutAt?_append unmarked, isPrefixOf?_append, others,
      if_true, String.ofList_toList, Option.bind_eq_bind, Option.bind_some]
    rfl

theorem readFacade?_lines :
    readFacade? schema.recordName ((facadeLines schema).map String.toList ++ [[]]) =
      some (schema.className, schema.tableName, schema.fields.map fun field =>
        ⟨field.identifier, field.representation.typeText, field.identifier⟩) := by
  have head : between? "impl ".toList " \x7b".toList
      ("impl " ++ schema.className ++ " \x7b").toList = some schema.className.toList := by
    rw [String.toList_append, String.toList_append, between?_append]
  have body : between? "        &".toList "[*self as usize]".toList
      (indent ++ indent ++ "&" ++ schema.tableName ++ "[*self as usize]").toList =
      some schema.tableName.toList := by
    rw [← between?_append "        &".toList _ "[*self as usize]".toList]
    simp [indent]
  have signature : (indent ++ "fn d(&self) -> &" ++ schema.recordName ++ " \x7b").toList =
      ("    fn d(&self) -> &" ++ schema.recordName ++ " \x7b").toList := by
    simp [indent]
  have foot : (indent ++ "\x7d").toList = "    \x7d".toList := by decide
  have last : "\x7d".toList = ['\x7d'] := rfl
  simp only [facadeLines, List.map_append, List.map_cons, List.map_nil, List.append_assoc,
    List.cons_append, List.nil_append, readFacade?, head, body, signature, foot, last,
    readAccessors?_lines words fun _ h => h, and_self, if_true, String.ofList_toList,
    Option.bind_eq_bind, Option.bind_some]
  rfl

def reading (schema : Schema) (prelude : String) (rows : List (List (String × String))) :
    Reading where
  prelude := prelude
  recordName := schema.recordName
  fields := schema.fields.map fun field => (field.identifier, field.representation.typeText)
  tableName := schema.tableName
  length := rows.length
  rows := rows
  className := schema.className
  lookedUp := schema.tableName
  accessors := schema.fields.map fun field =>
    ⟨field.identifier, field.representation.typeText, field.identifier⟩

theorem ofText?_text {prelude : String} (one : '\n' ∉ prelude.toList) {rows : List String}
    {found : List (List (String × String))} (each : List.Forall₂ (ReadsAs schema) rows found) :
    Reading.ofText? (text schema prelude rows) = some (reading schema prelude found) := by
  have oneLine : ∀ row ∈ rows, '\n' ∉ row.toList := by
    intro row inside
    obtain ⟨cells, -, reads⟩ := exists_mem_of_forall₂ each.flip inside
    exact reads.oneLine
  have empty : "".toList = [] := rfl
  rw [Reading.ofText?, splitOn_text words one oneLine]
  simp only [lines, List.map_append, List.map_cons, List.map_nil, List.append_assoc,
    List.cons_append, empty, skipEmpty?, readRecord?_lines words, readTable?_lines words each,
    readFacade?_lines words, String.ofList_toList, Option.bind_eq_bind, Option.bind_some,
    each.length_eq]
  rfl

end

end EnumTables.SourceUnit
