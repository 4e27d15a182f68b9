import EnumTables.Representation
import EnumTables.Value.Parts
import EnumTables.Value.Text

/-!
Literals of the target: the text of a value under a representation, or the first part of the value
whose shape the representation does not take. Parts are written from left to right, and a
container is looked at before its parts.
-/

namespace EnumTables

open Decimal

inductive Reason where
  | notBool
  | notNumber
  | notInteger
  | outsideInt32
  | outsideFloat64
  | inexactFloat64
  | notMember
  | notText
  | notCoordinates
  | notCollection
  | notPair
  deriving DecidableEq, Repr

def Reason.text : Reason → String
  | .notBool => "expected a bool"
  | .notNumber => "expected a number"
  | .notInteger => "expected an integer"
  | .outsideInt32 => "integer out of i32 range"
  | .outsideFloat64 => "integer out of f64 range"
  | .inexactFloat64 => "integer not exactly representable as f64"
  | .notMember => "expected an enum member"
  | .notText => "expected a string"
  | .notCoordinates => "expected integral 'x' and 'y' components"
  | .notCollection => "expected a collection or mapping"
  | .notPair => "expected a 2-tuple or key/value entry"

structure Mismatch where
  representation : Representation
  value : Value
  reason : Reason
  shown : String

def Mismatch.message (mismatch : Mismatch) : String :=
  "Cannot render " ++ mismatch.shown ++ " as " ++
    mismatch.representation.typeText ++ ": " ++ mismatch.reason.text

inductive LiteralError where
  | mismatch (cause : Mismatch)
  | raised (cause : Raised)

namespace LiteralError

/-- An element of a slice is written without its enumeration, and its name is no text. -/
def unjoinable (index : Nat) (typeName : String) : LiteralError :=
  .raised (.typeError
    ("sequence item " ++ numeral index ++ ": expected str instance, " ++ typeName ++ " found"))

def message : LiteralError → String
  | .mismatch cause => cause.message
  | .raised cause => cause.message

end LiteralError

/-- The value does not have the shape that a representation expects. The report shows the value,
which can raise an exception. -/
def Representation.reject {α : Type} (representation : Representation) (value : Value)
    (reason : Reason) : Except LiteralError α :=
  match value.display with
  | .error raised => .error (.raised raised)
  | .ok shown => .error (.mismatch ⟨representation, value, reason, shown⟩)

def Spoken.asLiteral (spoken : Spoken) : Except LiteralError String :=
  spoken.mapError .raised

namespace Literal

/-- Literals keep a point or an exponent; exponents below -4 and from 16 on are written. -/
def floatLayout : Layout := ⟨-4, 16, 2, "f64::NAN", "f64::INFINITY", "f64::NEG_INFINITY"⟩

def int32Min : Int := -2 ^ 31

def int32Max : Int := 2 ^ 31 - 1

/-- The literal of a scalar. A truth value is no number, and an integer is taken as a
floating-point number only if nothing is lost. -/
def ofScalar (kind : Scalar) (value : Value) : Except Reason Spoken :=
  match kind with
  | .bool => match value with
    | .bool b => .ok (.ok (if b then "true" else "false"))
    | _ => .error .notBool
  | .int32 => match value.asInteger?, value.asFloat? with
    | some n, _ =>
      if int32Min ≤ n ∧ n ≤ int32Max then .ok value.shown else .error .outsideInt32
    | none, some _ => .error .notInteger
    | none, none => .error .notNumber
  | .float64 => match value.asInteger?, value.asFloat? with
    | some n, _ => match Binary64.ofInt n with
      | .exact x => .ok (.ok (floatLayout.write x))
      | .inexact => .error .inexactFloat64
      | .overflow => .error .outsideFloat64
    | none, some x => .ok (.ok (floatLayout.write x))
    | none, none => .error .notNumber

def label (text : String) : Label := ⟨.ok text, none⟩

def nameLabel : Option String → Label
  | some name => label name
  | none => ⟨.ok "None", some "NoneType"⟩

def variantLabel (value : Value) : Except Reason (Except Raised Label) :=
  match value with
  | .member _ _ _ _ (some looks) => .ok looks.name
  | .member _ name _ _ none => .ok (.ok (nameLabel name))
  | _ => match value.asText? with
    | some s => .ok (.ok (label s))
    | none => .error .notMember

def joinFrom (index : Nat) : List Label → Except LiteralError (List String)
  | [] => .ok []
  | element :: rest => match element.otherType with
    | some typeName => .error (.unjoinable index typeName)
    | none => do
      let text ← Spoken.asLiteral element.text
      return text :: (← joinFrom (index + 1) rest)

def joinElements (elements : List Label) : Except LiteralError Label := do
  return label ("&[" ++ String.intercalate ", " (← joinFrom 0 elements) ++ "]")

def ofCoordinates (name : String) (x y : Spoken) : Except LiteralError Label := do
  let x ← Spoken.asLiteral x
  let y ← Spoken.asLiteral y
  return label (name ++ " \x7b x: " ++ x ++ ", y: " ++ y ++ " \x7d")

end Literal

open Literal in
/-- The literal of a value under a representation. Only a member that is written without its
enumeration can have a literal that is no text. -/
def Representation.literal : Representation → Value → Except LiteralError Label
  | representation, value =>
    match representation with
    | .scalar kind => match ofScalar kind value with
      | .ok written => do return label (← Spoken.asLiteral written)
      | .error reason => representation.reject value reason
    | .enumeration name qualified => match variantLabel value with
      | .error reason => representation.reject value reason
      | .ok (.error raised) => .error (.raised raised)
      | .ok (.ok found) =>
        if qualified then do return label (name ++ "::" ++ (← Spoken.asLiteral found.text))
        else .ok found
    | .text => match value.asText? with
      | some _ => do return label ("\"" ++ (← Spoken.asLiteral value.inline) ++ "\"")
      | none => representation.reject value .notText
    | .position name => match value.coordinate true, value.coordinate false with
      | .raised cause, _ => .error (.raised cause)
      | _, .raised cause => .error (.raised cause)
      | .integer x, .integer y => ofCoordinates name x y
      | _, _ => representation.reject value .notCoordinates
    | .slice element => match value.elements? with
      | some (.ok items) => do joinElements (← items.mapM fun item => literal element item)
      | some (.error raised) => .error (.raised raised)
      | none => representation.reject value .notCollection
    | .pair first second => match value.components? with
      | some (left, right) => do
        let left ← Spoken.asLiteral (← literal first left).text
        let right ← Spoken.asLiteral (← literal second right).text
        return label ("(" ++ left ++ ", " ++ right ++ ")")
      | none => representation.reject value .notPair

end EnumTables
