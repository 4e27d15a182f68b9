import EnumTables.Text.Case
import EnumTables.Text.Name
import EnumTables.Value.Bits
import EnumTables.Value.Operation

/-!
Methods that values have of themselves, called without arguments. Methods that need arguments say
so.
-/

namespace EnumTables.Value

open Decimal

/-! ## Texts -/

def allCased (test : Char → Bool) (text : List Char) : Bool :=
  text.any Text.hasCase && text.all fun c => !Text.hasCase c || test c

def isTitle : Option Char → List Char → Bool
  | _, [] => true
  | previous, c :: rest =>
    let inside := previous.any Text.hasCase
    (if Text.isLower c then inside else !(Text.hasCase c) || !inside) && isTitle (some c) rest

def words (text : List Char) : List (List Char) :=
  let isBlank (c : Char) : Bool := Text.isBlank c || (0x1c ≤ c.toNat && c.toNat ≤ 0x1f)
  (text.splitBy fun left right => isBlank left == isBlank right).filter fun part =>
    !part.any isBlank

def isLineEnd (c : Char) : Bool :=
  (10 ≤ c.toNat && c.toNat ≤ 13) || (0x1c ≤ c.toNat && c.toNat ≤ 0x1e) ||
    [0x85, 0x2028, 0x2029].contains c.toNat

/-- The lines of a text without what ends them; `line` is the reversed start of the current one. -/
def linesFrom (line : List Char) : List Char → List (List Char)
  | [] => if line.isEmpty then [] else [line.reverse]
  | '\r' :: '\n' :: rest => line.reverse :: linesFrom [] rest
  | c :: rest =>
    if isLineEnd c then line.reverse :: linesFrom [] rest else linesFrom (c :: line) rest

def expandTabs (column : Nat) : List Char → List Char
  | [] => []
  | '\t' :: rest =>
    let width := 8 - column % 8
    List.replicate width ' ' ++ expandTabs (column + width) rest
  | c :: rest =>
    c :: expandTabs (if c = '\n' || c = '\r' then 0 else column + 1) rest

def isWordChar (c : Char) : Bool :=
  Text.isNumeral c || Text.isLetter c

def textMethods : List (String × (List Char → List Char)) :=
  let isBlank (c : Char) : Bool := Text.isBlank c || (0x1c ≤ c.toNat && c.toNat ≤ 0x1f)
  let trimLeft (text : List Char) : List Char := text.dropWhile isBlank
  let trimRight (text : List Char) : List Char := (trimLeft text.reverse).reverse
  [("upper", Text.upper), ("lower", Text.lower), ("title", Text.title),
    ("capitalize", Text.capitalize), ("swapcase", Text.swapCase), ("casefold", Text.fold),
    ("strip", fun text => trimRight (trimLeft text)), ("lstrip", trimLeft),
    ("rstrip", trimRight), ("expandtabs", expandTabs 0), ("format", id), ("__str__", id)]

def textTests : List (String × (List Char → Bool)) :=
  let all (test : Char → Bool) (text : List Char) : Bool := !text.isEmpty && text.all test
  [("isupper", allCased Text.isUpper), ("islower", allCased Text.isLower),
    ("istitle", fun text => text.any Text.hasCase && isTitle none text),
    ("isascii", fun text => text.all fun c => c.toNat < 128),
    ("isspace", all fun c => Text.isBlank c || (0x1c ≤ c.toNat && c.toNat ≤ 0x1f)),
    ("isdigit", all Text.isDigitSign), ("isdecimal", all Text.isDigit),
    ("isnumeric", all Text.isNumeral), ("isalnum", all isWordChar), ("isalpha", all Text.isLetter),
    ("isprintable", fun text => text.all Text.isPrintable),
    ("isidentifier", fun text => text.head?.any Text.isNameStart && text.all Text.isNamePart)]

/-- Methods that take one argument at least, in the words of which they complain about its
absence. -/
def demands : List (String × List String) :=
  [("exactly one argument (0 given)",
      ["format_map", "join", "partition", "removeprefix", "removesuffix", "rpartition",
        "translate", "zfill", "append", "extend", "remove"]),
    ("at least 1 argument (0 given)",
      ["endswith", "find", "rfind", "rindex", "startswith"])]

def lacksArguments (typeName method : String) : Raised :=
  let expected (what : String) : Raised := .typeError (method ++ " expected " ++ what ++ ", got 0")
  .typeError <|
    if method = "count" && typeName != "str" || (demands.headD ("", [])).2.contains method then
      typeName ++ "." ++ method ++ "() takes exactly one argument (0 given)"
    else if method = "count" || (method = "index" && typeName = "str") ||
        (demands.getLastD ("", [])).2.contains method then
      method ++ "() takes at least 1 argument (0 given)"
    else if method = "from_bytes" then "from_bytes() missing required argument 'bytes' (pos 1)"
    else if method = "replace" then (expected "at least 2 arguments").message
    else if method = "insert" then (expected "2 arguments").message
    else (expected "at least 1 argument").message

def callText (text method : String) : Except Raised Value :=
  let chars := text.toList
  let texts (parts : List (List Char)) : Value :=
    .list (parts.map fun part => .text (String.ofList part))
  match textMethods.lookup method, textTests.lookup method with
  | some change, _ => .ok (.text (String.ofList (change chars)))
  | none, some test => .ok (.bool (test chars))
  | none, none => match method with
    | "split" | "rsplit" => .ok (texts (words chars))
    | "splitlines" => .ok (texts (linesFrom [] chars))
    | "encode" => .ok (.bytes false text.toUTF8.toList)
    | "__len__" => .ok (.int chars.length)
    | "__repr__" => .ok (.text (Text.quote text))
    | method => .error (lacksArguments "str" method)

/-! ## Numbers and collections -/

def callInteger (n : Int) (method : String) : Except Raised Value :=
  match method with
  | "bit_length" => .ok (.int (Bits.length n))
  | "bit_count" => .ok (.int (((Nat.toDigits 2 n.natAbs).filter (· == '1')).length))
  | "conjugate" | "__int__" | "__index__" | "__trunc__" | "__floor__" | "__ceil__" | "__round__"
  | "__pos__" | "__hash__" => .ok (.int n)
  | "__neg__" => .ok (.int (-n))
  | "__abs__" => .ok (.int n.natAbs)
  | "__invert__" => .ok (.int (-n - 1))
  | "__bool__" => .ok (.bool (n != 0))
  | "__float__" => do return .float (← roundedFloat n)
  | "__repr__" => .ok (.text (numeral n))
  | "as_integer_ratio" => .ok (.tuple [.int n, .int 1])
  | "to_bytes" =>
    if n < 0 then .error ⟨"OverflowError", "can't convert negative int to unsigned"⟩
    else if 255 < n then .error ⟨"OverflowError", "int too big to convert"⟩
    else .ok (.bytes false [UInt8.ofNat n.toNat])
  | method => .error (lacksArguments "int" method)

def callSequence (typeName : String) (items : List Value) (method : String) :
    Except Raised Value :=
  match method with
  | "copy" => .ok (.list items)
  | "clear" | "reverse" | "sort" => .ok .null
  | "__len__" => .ok (.int items.length)
  | "pop" => match items.getLast? with
    | some last => .ok last
    | none => .error ⟨"IndexError", "pop from empty list"⟩
  | method => .error (lacksArguments typeName method)

def call (value : Value) (method : String) : Except Raised Value :=
  match value.asData with
  | .text s => callText s method
  | .int n => callInteger n method
  | .collection .list items => callSequence "list" items method
  | .collection .tuple items => callSequence "tuple" items method
  | .position x y => callSequence "tuple" [x, y] method
  | _ => .ok (.plainObject "object" "")

end EnumTables.Value
