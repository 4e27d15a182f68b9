import EnumTables.Decimal.Spelling
import EnumTables.Value.Equality
import EnumTables.Value.Text

/-!
Making data of a given type from arguments: numbers from numbers and from text that spells them,
text from anything, and collections from what can be iterated over. `DataType.convert` takes the
arguments as they are given, and says of arguments that do not fit why they do not.
-/

namespace EnumTables

open Decimal

inductive DataType where
  | integer
  | float
  | text
  | list
  | tuple
  | position
  | mapping
  | set
  deriving DecidableEq, Repr

namespace DataType

def name : DataType → String
  | .integer => "int"
  | .float => "float"
  | .text => "str"
  | .list => "list"
  | .tuple => "tuple"
  | .position => "TilePosition"
  | .mapping => "dict"
  | .set => "set"

end DataType

namespace Value

def asBytes? : Value → Option (List UInt8)
  | .bytes _ data => some data
  | _ => none

/-- What iteration over a value gives: characters of text, numbers of bytes, and keys of
mappings. -/
def iterated? : Value → Option (Except Raised (List Value))
  | .text s => some (.ok (s.toList.map fun c => .text (String.singleton c)))
  | .bytes _ data => some (.ok (data.map fun byte => .int byte.toNat))
  | .mapping _ entries => some (.ok (entries.map Prod.fst))
  | .member cls name held data looks => match cls.isFlag with
    | true => elements? (.member cls name held data looks)
    | false => iterated? data
  | value => elements? value

def iterated (value : Value) : Except Raised (List Value) :=
  value.iterated?.getD
    (.error (.typeError ("'" ++ value.typeName ++ "' object is not iterable")))

mutual

def unhashable? : Value → Option String
  | .collection .tuple items => unhashableIn? items
  | .position x y => (unhashable? x).or (unhashable? y)
  | .collection .frozenSet _ | .collection (.stream _) _ => none
  | .member cls _ _ data _ => if data.isHashable then none else some cls.name
  | value => if value.isHashable then none else some value.typeName

def unhashableIn? : List Value → Option String
  | [] => none
  | item :: rest => (unhashable? item).or (unhashableIn? rest)

end

def asKey (value : Value) : Except Raised Value :=
  match value.unhashable? with
  | none => .ok value
  | some typeName => .error (.typeError ("unhashable type: '" ++ typeName ++ "'"))

/-! ## Numbers -/

def roundedFloat (n : Int) : Except Raised Binary64 :=
  let magnitude := Float.ofScientific n.natAbs false 0
  if magnitude.isInf then .error ⟨"OverflowError", "int too large to convert to float"⟩
  else .ok ⟨(if n < 0 then -magnitude else magnitude).toBits⟩

def toInteger (value : Value) : Except Raised Int :=
  match value.number?, value.asText?, value.asBytes? with
  | some (.int n), _, _ => .ok n
  | some (.float x), _, _ => match x.meaning, x.truncate? with
    | .nan, _ => .error (.valueError "cannot convert float NaN to integer")
    | .infinity _, _ => .error ⟨"OverflowError", "cannot convert float infinity to integer"⟩
    | _, some n => .ok n
    | _, none => .ok 0
  | none, some s, _ => Spelling.readInteger 10 s.toList
  | none, none, some data => integerOfBytes 10 data
  | none, none, none => .error (.typeError
      ("int() argument must be a string, a bytes-like object or a real number, not '" ++
        value.typeName ++ "'"))
where
  integerOfBytes (base : Nat) (data : List UInt8) : Except Raised Int :=
    Spelling.readShown base (Text.quoteBytes data) (data.map fun byte => Char.ofNat byte.toNat)

/-- An integer as an argument that may be nothing but an integer. -/
def asIndex (value : Value) : Except Raised Int :=
  match value.number? with
  | some (.int n) => .ok n
  | _ => .error (.typeError
      ("'" ++ value.typeName ++ "' object cannot be interpreted as an integer"))

def toIntegerIn (value base : Value) : Except Raised Int := do
  let base ← base.asIndex
  if base ≠ 0 ∧ (base < 2 ∨ 36 < base) then
    .error (.valueError "int() base must be >= 2 and <= 36, or 0")
  else match value.asText?, value.asBytes? with
    | some s, _ => Spelling.readInteger base.toNat s.toList
    | none, some data => toInteger.integerOfBytes base.toNat data
    | none, none => .error (.typeError "int() can't convert non-string with explicit base")

def toFloat (value : Value) : Except Raised Binary64 :=
  match value.number?, value.asText?, value.asBytes? with
  | some (.int n), _, _ => roundedFloat n
  | some (.float x), _, _ => .ok x
  | none, some s, _ => (Spelling.readFloat s.toList).map fun x => ⟨x.toBits⟩
  | none, none, some data =>
    match Spelling.float? (data.map fun byte => Char.ofNat byte.toNat) with
    | some x => .ok ⟨x.toBits⟩
    | none => do .error (Spelling.notFloat (← value.display))
  | none, none, none => .error (.typeError
      ("float() argument must be a string or a real number, not '" ++ value.typeName ++ "'"))

/-! ## Text -/

inductive Encoding where
  | utf8
  | latin1
  | ascii

def Encoding.ofName? (name : String) : Option Encoding :=
  let plain := String.ofList ((name.toList.map Char.toLower).filter fun c => c.isAlphanum)
  if ["utf8", "utf", "u8", "cp65001"].contains plain then some .utf8
  else if ["latin1", "iso88591", "latin", "l1", "88591"].contains plain then some .latin1
  else if ["ascii", "usascii", "646"].contains plain then some .ascii
  else none

def decode (encoding : Encoding) (lenient : Option (Option Char)) (data : List UInt8) :
    Except Raised String :=
  let undecodable : Except Raised String := .error ⟨"UnicodeDecodeError", ""⟩
  let chars := data.map fun byte => Char.ofNat byte.toNat
  match encoding with
  | .latin1 => .ok (String.ofList chars)
  | .ascii =>
    if chars.all fun c => c.toNat < 128 then .ok (String.ofList chars)
    else match lenient with
      | none => undecodable
      | some other => .ok (String.ofList (chars.filterMap fun c =>
          if c.toNat < 128 then some c else other))
  | .utf8 => match String.fromUTF8? ⟨data.toArray⟩ with
    | some s => .ok s
    | none => undecodable

def textArgument (role : String) (value : Value) : Except Raised String :=
  match value.asText? with
  | some s => .ok s
  | none =>
    let found := match value with
      | .null => "None"
      | value => value.typeName
    .error (.typeError ("str() argument '" ++ role ++ "' must be str, not " ++ found))

def toTextIn (value encoding : Value) (errors : Option Value) : Except Raised String := do
  let encoding ← textArgument "encoding" encoding
  let errors ← errors.mapM (textArgument "errors")
  match value.asText?, value.asBytes? with
  | some _, _ => .error (.typeError "decoding str is not supported")
  | none, none => .error (.typeError
      ("decoding to str: need a bytes-like object, " ++ value.typeName ++ " found"))
  | none, some data => match Encoding.ofName? encoding with
    | none => .error ⟨"LookupError", "unknown encoding: " ++ encoding⟩
    | some encoding =>
      let lenient := match errors with
        | some "ignore" => some none
        | some "replace" => some (some '\ufffd')
        | _ => none
      decode encoding lenient data

/-! ## Collections -/

def toEntries (value : Value) : Except Raised (List (Value × Value)) :=
  match value.asData with
  | .mapping _ entries => .ok entries
  | other => do
    let items ← other.iterated
    let pairs ← items.zipIdx.mapM fun (item, index) => match item.iterated? with
      | some (.error raised) => .error raised
      | some (.ok [key, held]) => do return (← key.asKey, held)
      | some (.ok parts) => .error (.valueError
          ("dictionary update sequence element #" ++ numeral index ++ " has length " ++
            numeral parts.length ++ "; 2 is required"))
      | none => .error (.typeError
          ("cannot convert dictionary update sequence element #" ++ numeral index ++
            " to a sequence"))
    return pairs.foldl (fun entries pair => insertEntry entries pair.1 pair.2) []

def distinctItems (items : List Value) : List Value :=
  items.foldl (fun kept item => if kept.any (same item) then kept else kept ++ [item]) []

end Value

namespace DataType

def tooMany (type : DataType) (given : Nat) : Raised :=
  .typeError (type.name ++ " expected at most 1 argument, got " ++ numeral given)

def convert (type : DataType) (arguments : List Value) : Except Raised Value :=
  match type, arguments with
  | .integer, [] => .ok (.int 0)
  | .integer, [value] => do return .int (← value.toInteger)
  | .integer, [value, base] => do return .int (← value.toIntegerIn base)
  | .integer, arguments => .error (.typeError
      ("int() takes at most 2 arguments (" ++ numeral arguments.length ++ " given)"))
  | .float, [] => .ok (.float ⟨0⟩)
  | .float, [value] => do return .float (← value.toFloat)
  | .text, [] => .ok (.text "")
  | .text, [value] => do return .text (← value.shown)
  | .text, [value, encoding] => do return .text (← value.toTextIn encoding none)
  | .text, [value, encoding, errors] => do
    return .text (← value.toTextIn encoding (some errors))
  | .text, arguments => .error (.typeError
      ("str() takes at most 3 arguments (" ++ numeral arguments.length ++ " given)"))
  | .list, [] => .ok (.list [])
  | .list, [value] => do return .list (← value.iterated)
  | .tuple, [] => .ok (.tuple [])
  | .tuple, [value] => do return .tuple (← value.iterated)
  | .mapping, [] => .ok (.dict [])
  | .mapping, [value] => do return .dict (← value.toEntries)
  | .set, [] => .ok (.collection .set [])
  | .set, [value] => do
    let items ← (← value.iterated).mapM Value.asKey
    return .collection .set (Value.distinctItems items)
  | .position, [x, y] => .ok (.position x y)
  | .position, [] => .error (.typeError
      "TilePosition.__new__() missing 2 required positional arguments: 'x' and 'y'")
  | .position, [_] => .error (.typeError
      "TilePosition.__new__() missing 1 required positional argument: 'y'")
  | .position, arguments => .error (.typeError
      ("TilePosition.__new__() takes 3 positional arguments but " ++
        numeral (arguments.length + 1) ++ " were given"))
  | type, arguments => .error (tooMany type arguments.length)

def strictText (arguments : List Value) : Except Raised Value :=
  let requireText (role : String) (value : Value) : Except Raised Unit :=
    match value.asText? with
    | some _ => .ok ()
    | none => do .error (.typeError (role ++ " must be a string, not " ++ (← value.display)))
  match arguments with
  | [value] => match value.asText? with
    | some _ => text.convert arguments
    | none => do .error (.typeError ((← value.display) ++ " is not a string"))
  | [_, encoding] => do
    requireText "encoding" encoding
    text.convert arguments
  | [_, encoding, errors] => do
    requireText "encoding" encoding
    requireText "errors" errors
    text.convert arguments
  | [] => text.convert []
  | arguments => do
    .error (.typeError
      ("too many arguments for str(): " ++ (← (Value.tuple arguments).display)))

end DataType

end EnumTables
