import EnumTables.Decimal.Spelling
import EnumTables.Text.Case
import EnumTables.Value
import EnumTables.Yaml.Error

/-!
Numbers in YAML: integers in bases two, eight, ten, sixteen and sixty, and floating-point numbers in
bases ten and sixty, with underscores between digits. The predicates say which plain scalars are
numbers; the readers also take scalars that are only said to be numbers, and fail with an exception
on others.
-/

namespace EnumTables.Yaml.Number

open Decimal
open Decimal.Spelling (unsigned splitPoint isNegative)

def isDigitOrGap (c : Char) : Bool :=
  c.isDigit || c == '_'

def isGroup : List Char → Bool
  | [] => false
  | c :: rest => c.isDigit && rest.all isDigitOrGap

def isSixtieth : List Char → Bool
  | [c] => c.isDigit
  | [tens, ones] => '0' ≤ tens && tens ≤ '5' && ones.isDigit
  | _ => false

def isSexagesimal (text : List Char) : Bool :=
  match text.splitOn ':' with
  | first :: second :: rest => isGroup first && (second :: rest).all isSixtieth
  | _ => false

def consistsOf (p : Char → Bool) (text : List Char) : Bool :=
  !text.isEmpty && text.all p

def isBinary (c : Char) : Bool := c == '0' || c == '1' || c == '_'

def isOctal (c : Char) : Bool := ('0' ≤ c && c ≤ '7') || c == '_'

def isHex (c : Char) : Bool := isDigitOrGap c || ('a' ≤ c && c ≤ 'f') || ('A' ≤ c && c ≤ 'F')

def isInteger (text : List Char) : Bool :=
  match unsigned text with
  | '0' :: 'b' :: digits => consistsOf isBinary digits
  | '0' :: 'x' :: digits => consistsOf isHex digits
  | ['0'] => true
  | '0' :: digits => consistsOf isOctal digits
  | digits => isGroup digits || isSexagesimal digits

def isExponent : List Char → Bool
  | [] => true
  | mark :: sign :: digits =>
    (mark == 'e' || mark == 'E') && (sign == '-' || sign == '+') && consistsOf Char.isDigit digits
  | _ => false

def isFraction (text : List Char) : Bool :=
  isExponent (text.dropWhile isDigitOrGap)

def isFloat (text : List Char) : Bool :=
  let word (texts : List String) (chars : List Char) : Bool := texts.contains (String.ofList chars)
  let pointed (body : List Char) : Bool := match splitPoint body with
    | (_, none) => false
    | (whole, some behind) =>
      (isGroup whole && isFraction behind) || (isSexagesimal whole && behind.all isDigitOrGap)
  let special := match text with
    | '.' :: rest => match rest with
      | c :: behind => (c.isDigit && isFraction behind) || word ["nan", "NaN", "NAN"] rest
      | [] => false
    | _ => false
  let infinite := match unsigned text with
    | '.' :: rest => word ["inf", "Inf", "INF"] rest
    | _ => false
  pointed (unsigned text) || special || infinite

/-! ## Reading -/

def tooShort : Raised := ⟨"IndexError", "string index out of range"⟩

def ofSixtieths (digits : List Int) : Int :=
  digits.foldl (fun number digit => 60 * number + digit) 0

def withSign (text : List Char) (n : Int) : Int :=
  if isNegative text then -n else n

def readMagnitude (digits : List Char) : Except Raised Int :=
  match digits with
  | [] => .error tooShort
  | ['0'] => .ok 0
  | '0' :: 'b' :: rest => Spelling.readInteger 2 rest
  | '0' :: 'x' :: rest => Spelling.readInteger 16 rest
  | '0' :: rest => Spelling.readInteger 8 ('0' :: rest)
  | digits =>
    if digits.contains ':' then do
      return ofSixtieths (← (digits.splitOn ':').mapM (Spelling.readInteger 10))
    else Spelling.readInteger 10 digits

def readInteger (text : List Char) : Except Raised Int :=
  let text := text.filter (· != '_')
  if text.isEmpty then .error tooShort
  else (readMagnitude (unsigned text)).map (withSign text)

def tooLarge : Raised := ⟨"OverflowError", "int too large to convert to float"⟩

/-- The value of places in base sixty. The weight of the 175th place is beyond all floats. -/
def ofFloatSixtieths (digits : List Float) : Except Raised Float :=
  if 174 < digits.length then .error tooLarge
  else
    let places := (List.range digits.length).reverse
    .ok ((digits.zip places).foldr
      (fun entry sum => sum + entry.1 * Float.ofNat (60 ^ entry.2)) 0.0)

def readFloatMagnitude (body : List Char) : Except Raised Float :=
  if body = ".inf".toList then .ok (1.0 / 0.0)
  else if body.contains ':' then do
    ofFloatSixtieths (← (body.splitOn ':').mapM Spelling.readFloat)
  else Spelling.readFloat body

/-- What is written as no number: the quotient of two infinities of unlike signs. -/
def notANumber : Binary64 := ⟨0xfff8000000000000⟩

def readFloat (text : List Char) : Except Raised Binary64 :=
  let text := Text.lower (text.filter (· != '_'))
  let body := unsigned text
  if text.isEmpty then .error tooShort
  else if body = ".nan".toList then .ok notANumber
  else do
    let x ← readFloatMagnitude body
    return ⟨(if isNegative text then -x else x).toBits⟩

end EnumTables.Yaml.Number
