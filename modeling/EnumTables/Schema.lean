import EnumTables.DomainClass
import EnumTables.Identifier
import EnumTables.Literal
import EnumTables.LogRecord

/-!
The schema of a domain class: its properties as fields with target identifiers and
representations. No two fields of a schema share an identifier.
-/

namespace EnumTables

structure Field where
  identifier : String
  sourceName : String
  representation : Representation

inductive EmissionError where
  | unsupported (cause : Unsupported)
  | duplicateField (earlier later identifier : String)
  | misplaced (variant : String) (ordinal : Int) (place : Nat)
  | valueMissing (variant property : String)
  | unrendered (variant property : String) (cause : Mismatch)
  | raised (cause : Raised)

def EmissionError.message (className : String) : EmissionError → String
  | .unsupported cause => cause.message
  | .duplicateField earlier later identifier =>
    className ++ ": properties '" ++ earlier ++ "' and '" ++ later ++ "' both map to field '" ++
      identifier ++ "'"
  | .misplaced variant ordinal place =>
    className ++ ": variant " ++ variant ++ " has ordinal " ++ Decimal.numeral ordinal ++
      " but is at table position " ++ Decimal.numeral place
  | .valueMissing variant property =>
    className ++ ": variant " ++ variant ++ " has no value for '" ++ property ++ "'"
  | .unrendered variant property cause =>
    className ++ ": variant " ++ variant ++ ", property '" ++ property ++ "': " ++ cause.message
  | .raised cause => cause.message

structure Schema where
  className : String
  fields : List Field

namespace Schema

def recordName (schema : Schema) : String :=
  Identifier.recordName schema.className

def tableName (schema : Schema) : String :=
  Identifier.tableName schema.className

/-- The fields of the given properties, which follow the fields `seen`. The identifier of a
property is compared with earlier ones before its type is resolved. -/
def fieldsFrom (seen : List Field) : List Property → Except EmissionError (List Field)
  | [] => .ok []
  | property :: rest =>
    let identifier := Identifier.fieldName property.name
    match seen.find? fun field => field.identifier = identifier with
    | some earlier => .error (.duplicateField earlier.sourceName property.name identifier)
    | none => match property.type.resolve with
      | .error cause => .error (.unsupported cause)
      | .ok representation => do
        let field : Field := ⟨identifier, property.name, representation⟩
        return field :: (← fieldsFrom (seen ++ [field]) rest)

def ofClass (cls : DomainClass) : Except EmissionError Schema := do
  return ⟨cls.name, ← fieldsFrom [] cls.properties⟩

def logSource : String := "enumtab.codegen.emitter"

def record (schema : Schema) : LogRecord :=
  let fields := schema.fields.map fun field =>
    field.identifier ++ ": " ++ field.representation.typeText
  ⟨.debug, logSource,
    "Schema for " ++ schema.className ++ ": " ++ String.intercalate ", " fields⟩

def build (cls : DomainClass) : Logged (Except EmissionError Schema) :=
  match ofClass cls with
  | .ok schema => ⟨[schema.record], .ok schema⟩
  | .error error => ⟨[], .error error⟩

end Schema

end EnumTables
