import EnumTables.Decimal.Numeral
import EnumTables.Raised
import EnumTables.Text.Basic
import EnumTables.Text.Digit
import EnumTables.Text.Quoted

/-!
Numbers as people write them: integers in any base and floating-point numbers, with blanks around
them, a sign, and single underscores between digits. Digits of every script count. What cannot be
read is shown in the exception.
-/

namespace EnumTables.Decimal.Spelling

/-! ## Characters -/

/-- A character as ASCII: a digit of another script by its value, and another blank as a space. -/
def ascii (c : Char) : Char :=
  if c.toNat < 128 then c
  else if Text.isBlank c then ' '
  else match Text.digitValue? c with
    | some digit => Char.ofNat (48 + digit)
    | none => '?'

def isBlank (c : Char) : Bool :=
  c == ' ' || (9 ≤ c.toNat && c.toNat ≤ 13)

def trim (text : List Char) : List Char :=
  ((text.dropWhile isBlank).reverse.dropWhile isBlank).reverse

def unsigned : List Char → List Char
  | '-' :: rest => rest
  | '+' :: rest => rest
  | text => text

def isNegative (text : List Char) : Bool :=
  text.head? == some '-'

def digitValue? (c : Char) : Option Nat :=
  if c.isDigit then some (c.toNat - 48)
  else if 'a' ≤ c ∧ c ≤ 'z' then some (c.toNat - 87)
  else if 'A' ≤ c ∧ c ≤ 'Z' then some (c.toNat - 55)
  else none

def digits? (base : Nat) (digits : List Char) : Option Nat :=
  if digits.isEmpty then none
  else digits.foldl (fun number c => do
    let number ← number
    let digit ← digitValue? c
    if digit < base then some (base * number + digit) else none) (some 0)

/-! ## Integers -/

def markedBase? (c : Char) : Option Nat :=
  [('b', 2), ('o', 8), ('x', 16)].lookup c.toLower

/-- The base of digits and the digits without its mark. Base zero is the base that is marked, or
ten. -/
def basePart (base : Nat) (digits : List Char) : Nat × List Char :=
  match digits with
  | '0' :: c :: rest => match markedBase? c with
    | some marked =>
      if base = 0 ∨ base = marked then
        (marked, if rest.head? == some '_' then rest.drop 1 else rest)
      else (base, digits)
    | none => (if base = 0 then 10 else base, digits)
  | _ => (if base = 0 then 10 else base, digits)

def magnitude? (base : Nat) (digits : List Char) : Option Nat :=
  let (used, digits) := basePart base digits
  let groups := digits.splitOn '_'
  if groups.any List.isEmpty then none
  else match digits? used groups.flatten with
    | some n =>
      if base = 0 ∧ used = 10 ∧ n ≠ 0 ∧ digits.head? = some '0' then none else some n
    | none => none

def integer? (base : Nat) (text : List Char) : Option Int :=
  let trimmed := trim (text.map ascii)
  (magnitude? base (unsigned trimmed)).map fun n =>
    if isNegative trimmed then -(n : Int) else n

def shownLength : Nat := 200

def notInteger (base : Nat) (display : String) : Raised :=
  .valueError ("invalid literal for int() with base " ++ numeral base ++ ": " ++
    String.ofList (display.toList.take shownLength))

def tooLong (given : Nat) : Raised :=
  .valueError ("Exceeds the limit (4300 digits) for integer string conversion: value has " ++
    numeral given ++ " digits; use sys.set_int_max_str_digits() to increase the limit")

/-- How many digits a numeral begins with, if underscores stand between digits only. -/
def leadingDigits? (base : Nat) (digits : List Char) : Option Nat :=
  let isPart (c : Char) : Bool := c == '_' || (digitValue? c).any (· < base)
  let groups := (digits.takeWhile isPart).splitOn '_'
  if groups.any List.isEmpty then none else some groups.flatten.length

/-- The number of digits of a numeral that has too many. Only bases that are no powers of two have a
limit. -/
def excess? (base : Nat) (text : List Char) : Option Nat :=
  let (used, digits) := basePart base (unsigned (trim (text.map ascii)))
  if [2, 4, 8, 16, 32].contains used then none
  else (leadingDigits? used digits).filter (digitLimit < ·)

/-- Reads a numeral, which a report shows by `display`. -/
def readShown (base : Nat) (display : String) (text : List Char) : Except Raised Int :=
  match excess? base text, integer? base text with
  | some given, _ => .error (tooLong given)
  | none, some n => .ok n
  | none, none => .error (notInteger base display)

def readInteger (base : Nat) (text : List Char) : Except Raised Int :=
  readShown base (Text.quote (String.ofList text)) text

/-! ## Floating-point numbers -/

def ungrouped? : Bool → List Char → Option (List Char)
  | _, [] => some []
  | digitBefore, '_' :: rest =>
    if digitBefore && rest.head?.any Char.isDigit then ungrouped? false rest else none
  | _, c :: rest => (ungrouped? c.isDigit rest).map (c :: ·)

def splitPoint (text : List Char) : List Char × Option (List Char) :=
  (text.takeWhile (· != '.'), match text.dropWhile (· != '.') with
    | [] => none
    | _ :: behind => some behind)

def decimal? (text : List Char) : Option Float :=
  let mark (c : Char) : Bool := c == 'e' || c == 'E'
  let (whole, fraction) := splitPoint (text.takeWhile fun c => !mark c)
  let fraction := fraction.getD []
  let exponent : Option Int := match text.dropWhile fun c => !mark c with
    | [] => some 0
    | _ :: rest =>
      (digits? 10 (unsigned rest)).map fun n => if isNegative rest then -(n : Int) else n
  match digits? 10 (whole ++ fraction), exponent with
  | some n, some exponent =>
    let scale := exponent - fraction.length
    some (Float.ofScientific n (scale < 0) scale.natAbs)
  | _, _ => none

def float? (text : List Char) : Option Float := do
  let trimmed ← ungrouped? false (trim (text.map ascii))
  let body := unsigned trimmed
  let word := String.ofList (body.map Char.toLower)
  let magnitude ←
    if ["inf", "infinity"].contains word then some (1.0 / 0.0)
    else if word = "nan" then some (0.0 / 0.0)
    else decimal? body
  return if isNegative trimmed then -magnitude else magnitude

def notFloat (display : String) : Raised :=
  .valueError ("could not convert string to float: " ++ display)

def readFloat (text : List Char) : Except Raised Float :=
  match float? text with
  | some x => .ok x
  | none => .error (notFloat (Text.quote (String.ofList text)))

end EnumTables.Decimal.Spelling
