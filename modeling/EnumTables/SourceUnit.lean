import EnumTables.Schema

/-!
The source unit of a domain class. It has four sections with a blank line between them: a prelude,
the record type with one field per property, the static table with one row per variant, and the
facade with one accessor per property. Record, rows and accessors are written from one schema, so
that their fields agree. A class is written completely or not at all.
-/

namespace EnumTables.SourceUnit

open Decimal

def defaultPrelude : String := "use crate::prelude::*;"

def indent : String := "    "

def joinLines (lines : List String) : String :=
  String.intercalate "\n" lines

def record (schema : Schema) : String :=
  joinLines <|
    ["pub(crate) struct " ++ schema.recordName ++ " \x7b"] ++
    (schema.fields.map fun field =>
      indent ++ "pub(crate) " ++ field.identifier ++ ": " ++
        field.representation.typeText ++ ",") ++
    ["\x7d"]

def literalFailure (variant : Variant) (field : Field) : LiteralError → EmissionError
  | .mismatch cause => .unrendered variant.name field.sourceName cause
  | .raised cause => .raised cause

def initializer (variant : Variant) (field : Field) : Except EmissionError String :=
  match variant.values.lookup field.sourceName with
  | none => .error (.valueMissing variant.name field.sourceName)
  | some value => match field.representation.literal value with
    | .error error => .error (literalFailure variant field error)
    | .ok found => match found.text with
      | .ok text => .ok (field.identifier ++ ": " ++ text)
      | .error raised => .error (.raised raised)

def row (schema : Schema) (variant : Variant) : Except EmissionError String :=
  if schema.fields.isEmpty then .ok (schema.recordName ++ " \x7b\x7d")
  else do
    let initializers ← schema.fields.mapM (initializer variant)
    return schema.recordName ++ " \x7b " ++ String.intercalate ", " initializers ++ " \x7d"

def misplaced (variant : Variant) (place : Nat) : EmissionError :=
  match Spoken.ofInteger variant.ordinal with
  | .ok _ => .misplaced variant.name variant.ordinal place
  | .error raised => .raised raised

/-- The rows of variants from a place of the table on. The facade finds a row by the ordinal of
the variant, so ordinal and place agree. -/
def rowsFrom (schema : Schema) : Nat → List Variant → Except EmissionError (List String)
  | _, [] => .ok []
  | place, variant :: rest =>
    if variant.ordinal = place then do
      let first ← row schema variant
      return first :: (← rowsFrom schema (place + 1) rest)
    else .error (misplaced variant place)

def table (schema : Schema) (rows : List String) : String :=
  joinLines <|
    ["pub(crate) static " ++ schema.tableName ++ ": [" ++ schema.recordName ++ "; " ++
      numeral rows.length ++ "] = ["] ++
    (rows.map fun row => indent ++ row ++ ",") ++
    ["];"]

def accessor (field : Field) : List String :=
  ["",
    indent ++ "pub fn " ++ field.identifier ++ "(&self) -> " ++
      field.representation.typeText ++ " \x7b",
    indent ++ indent ++ "self.d()." ++ field.identifier,
    indent ++ "\x7d"]

def facade (schema : Schema) : String :=
  joinLines <|
    ["impl " ++ schema.className ++ " \x7b",
      indent ++ "fn d(&self) -> &" ++ schema.recordName ++ " \x7b",
      indent ++ indent ++ "&" ++ schema.tableName ++ "[*self as usize]",
      indent ++ "\x7d"] ++
    schema.fields.flatMap accessor ++
    ["\x7d"]

def text (schema : Schema) (prelude : String) (rows : List String) : String :=
  String.intercalate "\n\n" [prelude, record schema, table schema rows, facade schema] ++ "\n"

/-- The text of a domain class, or the first error: of the schema before any of a variant. -/
def ofClass (cls : DomainClass) (prelude : String) : Except EmissionError String := do
  let schema ← Schema.ofClass cls
  return text schema prelude (← rowsFrom schema 0 cls.variants)

def errorRecords (className : String) : EmissionError → List LogRecord
  | .unrendered variant property _ =>
    [⟨.error, Schema.logSource,
      "Failed to render " ++ className ++ "." ++ variant ++ "." ++ property⟩]
  | _ => []

def emit (cls : DomainClass) (prelude : String) : Logged (Except EmissionError String) := do
  match ← Schema.build cls with
  | .error error => return .error error
  | .ok schema => match rowsFrom schema 0 cls.variants with
    | .ok rows => return .ok (text schema prelude rows)
    | .error error => ⟨errorRecords cls.name error, .error error⟩

theorem emit_result (cls : DomainClass) (prelude : String) :
    (emit cls prelude).result = ofClass cls prelude := by
  unfold emit ofClass Schema.build
  cases Schema.ofClass cls with
  | error error => rfl
  | ok schema =>
    simp only [bind, Logged.andThen, Except.bind]
    cases rowsFrom schema 0 cls.variants <;> rfl

end EnumTables.SourceUnit
