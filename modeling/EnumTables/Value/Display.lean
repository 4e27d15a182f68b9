import EnumTables.Decimal.Layout
import EnumTables.Spoken
import EnumTables.Text.Quoted

/-!
The display of a value in diagnostics: brackets show the kind of a collection, text is quoted, and
a member of an enumeration is shown with its class, its name and what it holds. A value cannot be
displayed if something in it refuses: an integer that is too long, or a member whose class has a
display of its own.
-/

namespace EnumTables.Value

open Decimal

/-- Displayed numbers keep a point or an exponent; exponents below -4 and from 16 on are written. -/
def floatDisplay : Layout := ⟨-4, 16, 2, "nan", "inf", "-inf"⟩

def commaSeparated (parts : List String) : String :=
  String.intercalate ", " parts

def memberLabel (cls : MemberClass) (name : Option String) : String :=
  cls.name ++ "." ++ name.getD "None"

def bracketed (kind : Collection) (parts : List String) : String :=
  match kind, parts with
  | .list, _ => "[" ++ commaSeparated parts ++ "]"
  | .tuple, [single] => "(" ++ single ++ ",)"
  | .tuple, _ => "(" ++ commaSeparated parts ++ ")"
  | .set, [] => "set()"
  | .set, _ => "\x7b" ++ commaSeparated parts ++ "\x7d"
  | .frozenSet, [] => "frozenset()"
  | .frozenSet, _ => "frozenset(\x7b" ++ commaSeparated parts ++ "\x7d)"
  | .stream _, _ => "<list_iterator object>"

mutual

def display : Value → Spoken
  | .null => .ok "None"
  | .bool b => .ok (if b then "True" else "False")
  | .int n => .ofInteger n
  | .float x => .ok (floatDisplay.write x)
  | .text s => .ok (Text.quote s)
  | .bytes false data => .ok (Text.quoteBytes data)
  | .bytes true data => .ok ("bytearray(" ++ Text.quoteMutableBytes data ++ ")")
  | .collection kind items => match kind with
    | .stream mark => .ok (bracketed (.stream mark) [])
    | kind => do return bracketed kind (← displayItems items)
  | .mapping readOnly entries => do
    let shown := "\x7b" ++ commaSeparated (← displayEntries entries) ++ "\x7d"
    return if readOnly then "mappingproxy(" ++ shown ++ ")" else shown
  | .range start stop step => do
    let parts ← ([start, stop] ++ if step = 1 then [] else [step]).mapM Spoken.ofInteger
    return "range(" ++ commaSeparated parts ++ ")"
  | .position x y => do
    let x ← display x
    return "TilePosition(x=" ++ x ++ ", y=" ++ (← display y) ++ ")"
  | .record attributes => do
    return "namespace(" ++ commaSeparated (← displayAttributes attributes) ++ ")"
  | .member cls name held _ looks => match looks with
    | some looks => looks.display
    | none => do
      let label := if name.isNone && cls.isFlag then cls.name else memberLabel cls name
      return "<" ++ label ++ ": " ++ (← display held) ++ ">"
  | .object traits _ => traits.display

def displayItems : List Value → Except Raised (List String)
  | [] => .ok []
  | item :: rest => do
    let first ← display item
    return first :: (← displayItems rest)

def displayEntries : List (Value × Value) → Except Raised (List String)
  | [] => .ok []
  | (key, value) :: rest => do
    let key ← display key
    let value ← display value
    return (key ++ ": " ++ value) :: (← displayEntries rest)

def displayAttributes : List (String × Value) → Except Raised (List String)
  | [] => .ok []
  | (name, value) :: rest => do
    let value ← display value
    return (name ++ "=" ++ value) :: (← displayAttributes rest)

end

end EnumTables.Value
