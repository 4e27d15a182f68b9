import EnumTables.Proofs.Decimal.Numeral
import EnumTables.Proofs.Text.Nesting

/-!
# Reading a source unit

The reader knows how source units are laid out and nothing of the class that one was written for.
A text is taken apart into lines and the lines into sections, and a row is cut at the commas
outside of brackets and quotes (`Reading.ofText?`). A reading says what is stored in a row under the
name of a field (`Reading.stored`), and what an accessor answers (`Reading.answer`).
-/

namespace EnumTables.SourceUnit

open Text

/-! ## Lines -/

abbrev Line := List Char

def between? (front back line : Line) : Option Line := do
  back.isSuffixOf? (← front.isPrefixOf? line)

def cutAt? (mark : Char) (line : Line) : Option (Line × Line) :=
  match line.dropWhile (· != mark) with
  | [] => none
  | _ :: behind => some (line.takeWhile (· != mark), behind)

def readNamed? (line : Line) : Option (String × String) := do
  let (name, behind) ← cutAt? ':' line
  let said ← [' '].isPrefixOf? behind
  return (String.ofList name, String.ofList said)

def readUntil? {α : Type} (read? : Line → Option α) (last : Line) :
    List Line → Option (List α × List Line)
  | [] => none
  | line :: rest =>
    if line = last then some ([], rest)
    else do
      let first ← read? line
      let (others, rest) ← readUntil? read? last rest
      return (first :: others, rest)

def skipEmpty? : List Line → Option (List Line)
  | [] :: rest => some rest
  | _ => none

/-! ## Sections -/

def readField? (line : Line) : Option (String × String) := do
  readNamed? (← between? "    pub(crate) ".toList [','] line)

def readRecord? : List Line → Option (String × List (String × String) × List Line)
  | head :: rest => do
    let name ← between? "pub(crate) struct ".toList " \x7b".toList head
    let (fields, rest) ← readUntil? readField? ['\x7d'] rest
    return (String.ofList name, fields, rest)
  | [] => none

def readRow? (recordName : String) (line : Line) : Option (List (String × String)) := do
  let inner ← between? ("    " ++ recordName ++ " \x7b").toList "\x7d,".toList line
  if inner = [] then return []
  (← pieces? (← between? [' '] [' '] inner)).mapM readNamed?

def readTable? (recordName : String) :
    List Line → Option (String × Nat × List (List (String × String)) × List Line)
  | head :: rest => do
    let (name, type) ← readNamed? (← between? "pub(crate) static ".toList "] = [".toList head)
    let length ← Decimal.readDigits? (← ("[" ++ recordName ++ "; ").toList.isPrefixOf? type.toList)
    let (rows, rest) ← readUntil? (readRow? recordName) "];".toList rest
    return (name, length, rows, rest)
  | [] => none

/-- An accessor: its name, the type of its answers, and the field of the row that it answers. -/
structure AccessorReading where
  name : String
  type : String
  source : String
  deriving DecidableEq, Repr

def readAccessors? : List Line → Option (List AccessorReading)
  | [] :: head :: body :: foot :: rest => do
    let (name, behind) ← cutAt? '(' (← between? "    pub fn ".toList " \x7b".toList head)
    let type ← "&self) -> ".toList.isPrefixOf? behind
    let source ← "        self.d().".toList.isPrefixOf? body
    if foot = "    \x7d".toList then
      return ⟨String.ofList name, String.ofList type, String.ofList source⟩ ::
        (← readAccessors? rest)
    else none
  | [['\x7d'], []] => some []
  | _ => none

def readFacade? (recordName : String) :
    List Line → Option (String × String × List AccessorReading)
  | head :: signature :: body :: foot :: rest => do
    let className ← between? "impl ".toList " \x7b".toList head
    let lookedUp ← between? "        &".toList "[*self as usize]".toList body
    if signature = ("    fn d(&self) -> &" ++ recordName ++ " \x7b").toList ∧
        foot = "    \x7d".toList then
      return (String.ofList className, String.ofList lookedUp, ← readAccessors? rest)
    else none
  | _ => none

/-! ## Readings -/

structure Reading where
  prelude : String
  recordName : String
  fields : List (String × String)
  tableName : String
  length : Nat
  rows : List (List (String × String))
  className : String
  lookedUp : String
  accessors : List AccessorReading
  deriving DecidableEq, Repr

namespace Reading

def ofText? (text : String) : Option Reading :=
  match text.toList.splitOn '\n' with
  | prelude :: lines => do
    let (recordName, fields, lines) ← readRecord? (← skipEmpty? lines)
    let (tableName, length, rows, lines) ← readTable? recordName (← skipEmpty? lines)
    let (className, lookedUp, accessors) ← readFacade? recordName (← skipEmpty? lines)
    return { prelude := String.ofList prelude, recordName, fields, tableName, length, rows,
             className, lookedUp, accessors }
  | [] => none

def stored (reading : Reading) (place : Nat) (name : String) : Option String := do
  (← reading.rows[place]?).lookup name

/-- The literal that an accessor answers for the variant with the given ordinal. -/
def answer (reading : Reading) (ordinal : Nat) (name : String) : Option String := do
  let accessor ← reading.accessors.find? (·.name = name)
  if reading.lookedUp = reading.tableName then reading.stored ordinal accessor.source else none

end Reading

/-! ## What reading finds -/

theorem isPrefixOf?_append (front rest : Line) : front.isPrefixOf? (front ++ rest) = some rest := by
  induction front with
  | nil => simp [List.isPrefixOf?]
  | cons c front ih => simp [List.isPrefixOf?, ih]

theorem isSuffixOf?_append (rest back : Line) : back.isSuffixOf? (rest ++ back) = some rest := by
  rw [List.isSuffixOf?, List.reverse_append, isPrefixOf?_append, Option.map_some,
    List.reverse_reverse]

theorem between?_append (front inner back : Line) :
    between? front back (front ++ inner ++ back) = some inner := by
  rw [between?, List.append_assoc, isPrefixOf?_append]
  exact isSuffixOf?_append inner back

theorem cutAt?_append {mark : Char} {front : Line} (unmarked : mark ∉ front) (behind : Line) :
    cutAt? mark (front ++ mark :: behind) = some (front, behind) := by
  have others : ∀ c ∈ front, (c != mark) = true := by
    intro c inside
    exact bne_iff_ne.mpr fun same => unmarked (same ▸ inside)
  simp [cutAt?, List.dropWhile_append_of_pos others, List.takeWhile_append_of_pos others]

theorem readNamed?_append {name : String} (unmarked : ':' ∉ name.toList) (said : String) :
    readNamed? (name ++ ": " ++ said).toList = some (name, said) := by
  have front : (name ++ ": " ++ said).toList = name.toList ++ ':' :: ([' '] ++ said.toList) := by
    simp
  rw [readNamed?, front, cutAt?_append unmarked]
  simp only [isPrefixOf?_append, Option.bind_eq_bind, Option.bind_some, String.ofList_toList]
  rfl

theorem readUntil?_append {α : Type} {read? : Line → Option α} {last : Line} {lines : List Line}
    {found : List α}
    (each : List.Forall₂ (fun line a => line ≠ last ∧ read? line = some a) lines found)
    (rest : List Line) : readUntil? read? last (lines ++ last :: rest) = some (found, rest) := by
  induction each with
  | nil => simp [readUntil?]
  | cons first _ ih => simp [readUntil?, first.1, first.2, ih]

end EnumTables.SourceUnit
