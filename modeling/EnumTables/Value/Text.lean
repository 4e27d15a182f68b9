import EnumTables.Fault
import EnumTables.Value.Bits
import EnumTables.Value.Display

/-!
Values as text. `shown` is the text of a value on its own, `inline` its text inside other text, and
`readText` takes a value where text is expected: text itself, bytes that spell text, and members of
enumerations by what they hold.
-/

namespace EnumTables.Value

def memberText (cls : MemberClass) (name : Option String) (held data : Value) : Spoken :=
  match cls.showsData, data with
  | true, .text s => .ok s
  | true, .null | false, _ =>
    if cls.isFlag && name.isNone then do return cls.name ++ "(" ++ (← held.display) ++ ")"
    else .ok (memberLabel cls name)
  | true, data => data.display

/-- What a value is shown by on its own, if it is neither text nor a member: a read-only mapping is
shown by what it holds. -/
def bare : Value → Value
  | .mapping _ entries => .mapping false entries
  | value => value

/-- The text of a value on its own. It differs from the display for texts, members and read-only
mappings. -/
def shown : Value → Spoken
  | .text s => .ok s
  | .member cls name held data looks => match looks with
    | some looks => looks.text
    | none => memberText cls name held data
  | value => value.bare.display

def inline : Value → Spoken
  | .member cls name held data looks => match looks with
    | some looks => looks.inline
    | none => memberText cls name held data
  | value => value.shown

def readText (value : Value) : Checked String :=
  match value.asText? with
  | some s => .ok s
  | none => match value with
    | .bytes _ data => match String.fromUTF8? ⟨data.toArray⟩ with
      | some s => .ok s
      | none => .fault .undecodable
    | .member _ _ held _ _ => match held.shown with
      | .ok s => .ok s
      | .error _ => .fault .notText
    | _ => .fault .notText

/-- The exception of a member that is taken for text by what it holds, which refuses to be text. -/
def textRefusal? (value : Value) : Option Raised :=
  match value.asText?, value with
  | none, .member _ _ held _ _ => match held.shown with
    | .ok _ => none
    | .error raised => some raised
  | _, _ => none

def printed (value : Value) : String :=
  match value.display with
  | .ok s => s
  | .error _ => "<unprintable " ++ value.typeName ++ " object>"

/-- The step to the value of a key. Keys that are whole numbers count as places. -/
def step (key : Value) : Step :=
  match key, key.asText?, key.asInteger? with
  | .bool b, _, _ => .place (if b then 1 else 0)
  | _, some s, _ => .key s
  | _, none, some n =>
    if -2 ^ 63 ≤ n ∧ n < 2 ^ 63 then .place n else .key key.printed
  | _, none, none => .key key.printed

/-! ## Coordinates -/

/-- A value as a coordinate: an integer with its text inside other text. -/
def asCoordinate (value : Value) : Coordinate :=
  if value.asInteger?.isSome then .integer value.inline else .other

/-- An attribute of a value as a coordinate. A member that is one of the coordinates is found before
anything that it is itself. -/
def coordinate (isX : Bool) : Value → Coordinate
  | .position x y => if isX then x.asCoordinate else y.asCoordinate
  | .record attributes => match attributes.lookup (if isX then "x" else "y") with
    | some value => value.asCoordinate
    | none => .other
  | .member cls name held data looks => match looks with
    | some looks => if isX then looks.x else looks.y
    | none =>
      let sought := if isX then "x" else "y"
      if name = some sought then (Value.member cls name held data none).asCoordinate
      else match cls.bits.lookup sought with
        | some bits => (cls.bitMember data.asInteger?.isSome sought bits).asCoordinate
        | none => coordinate isX data
  | .object traits _ => if isX then traits.x else traits.y
  | _ => .other

end EnumTables.Value
