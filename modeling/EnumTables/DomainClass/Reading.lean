import EnumTables.Decimal.Numeral
import EnumTables.Descriptor.Reading
import EnumTables.DomainClass
import EnumTables.Text.Basic

/-!
Domain classes as data. Unknown entries are ignored, properties, variants and values may be absent,
and all faults are reported in the order of the fields.
-/

namespace EnumTables

open Decimal
open Checked (field optionalField)

def Value.namedEntries? : Value → Option (List (String × Value))
  | .mapping _ entries => some (entries.filterMap fun
    | (.text name, value) => some (name, value)
    | _ => none)
  | _ => none

namespace Ordinal

/-- The integer that a numeral spells: digits without leading zeros, possibly behind a hyphen. -/
def ofNumeral? (text : List Char) : Option Int :=
  let magnitude? (digits : List Char) : Option Nat :=
    if digits.head? = some '0' ∧ 1 < digits.length then none else readDigits? digits
  match text with
  | '-' :: digits => (magnitude? digits).map fun n => -(n : Int)
  | digits => (magnitude? digits).map fun n => (n : Int)

/-- A text from its first digit above zero or hyphen on; in front of that only zeros and underscores
may stand. A zero in front of a point stays, and so does the last character of a text without any
other digit. -/
def withoutLeadingZeros? (text : List Char) : Option (List Char) :=
  let isZero (c : Char) : Bool := c == '0' || c == '_'
  let starts (c : Char) : Bool := ('1' ≤ c && c ≤ '9') || c == '-'
  match text with
  | '0' :: _ => match text.dropWhile isZero with
    | [] => some (text.drop (text.length - 1))
    | c :: rest =>
      if starts c then some (c :: rest)
      else if c = '.' then some (text.drop (text.length - rest.length - 2))
      else none
  | c :: _ => if starts c then some text else none
  | [] => none

def dropZeroFraction (digits : List Char) : List Char :=
  let whole := digits.takeWhile (· != '.')
  let fraction := (digits.dropWhile (· != '.')).drop 1
  if !fraction.isEmpty && fraction.all (· == '0') then whole else digits

def dropUnderscores (text : List Char) : List Char :=
  if (text.splitOn '_').any List.isEmpty then text else text.filter (· != '_')

/-- The integer that a text spells: blanks around it, a plus sign, leading zeros, underscores
between digits and a fraction of zeros are allowed. -/
def ofText? (text : List Char) : Option Int :=
  match ofNumeral? text with
  | some n => some n
  | none =>
    let trimmed := Text.trim text
    let signless : Option (List Char) := match trimmed with
      | '+' :: '-' :: _ => none
      | '+' :: rest => some rest
      | _ => some trimmed
    (signless.bind withoutLeadingZeros?).bind fun digits =>
      let digits := dropUnderscores (dropZeroFraction digits)
      if digitLimit < digits.length then none else ofNumeral? digits

/-- The numeral that a text begins with, if there is one without leading zeros. -/
def leadingNumeral (text : List Char) : List Char :=
  let digits (text : List Char) : List Char :=
    if text.head?.any fun c => '1' ≤ c && c ≤ '9' then text.takeWhile Char.isDigit else []
  match text with
  | '-' :: rest => '-' :: digits rest
  | text => digits text

/-- A text begins with a numeral that is too long to be converted. -/
def isTooLong (text : List Char) : Bool :=
  digitLimit < (leadingNumeral (Text.trim text)).length

def floatBound : Int := 2 ^ 63

def read (value : Value) : Checked Int :=
  match value with
  | .bool b => .ok (if b then 1 else 0)
  | .float x => match x.truncate? with
    | none => .fault .notFinite
    | some n =>
      if x.equalsInt n then
        if -floatBound < n ∧ n < floatBound then .ok n else .fault .tooLarge
      else .fault .fractional
  | value => match value.asInteger?, value.asText? with
    | some n, _ => .ok n
    | none, some text =>
      if isTooLong text.toList then .fault .tooLarge
      else match ofText? text.toList with
        | some n => .ok n
        | none => .fault .notNumeral
    | none, none => .fault .notInteger

end Ordinal

namespace Property

def read (data : Value) : Checked Property :=
  match data.namedEntries? with
  | none => .fault .notObject
  | some entries =>
    .both Property.mk (field entries "name" Value.readText) (field entries "type" Descriptor.read)

end Property

namespace Variant

def keyMark : Step := .key "[key]"

def readEntries : List (Value × Value) → Checked (List (String × Value))
  | [] => .ok []
  | (key, value) :: rest =>
    .both (fun name others => (name, value) :: others)
      ((key.readText.within keyMark).within key.step) (readEntries rest)

def readValues : Value → Checked (List (String × Value))
  | .mapping _ entries => readEntries entries
  | _ => .fault .notMapping

def read (data : Value) : Checked Variant :=
  match data.namedEntries? with
  | none => .fault .notObject
  | some entries =>
    .both (fun name rest => ⟨name, rest.1, rest.2⟩) (field entries "name" Value.readText)
      (.both Prod.mk (field entries "ordinal" Ordinal.read)
        (optionalField entries "values" [] readValues))

end Variant

namespace DomainClass

def readEach {α : Type} (read : Value → Checked α) : Value → Checked (List α)
  | .collection .list items | .collection .tuple items => .parts read items 0
  | _ => .fault .notSequence

def read (data : Value) : Checked DomainClass :=
  match data.namedEntries? with
  | none => .fault .notObject
  | some entries =>
    .both (fun name rest => ⟨name, rest.1, rest.2⟩) (field entries "name" Value.readText)
      (.both Prod.mk (optionalField entries "properties" [] (readEach Property.read))
        (optionalField entries "variants" [] (readEach Variant.read)))

end DomainClass

end EnumTables
