import EnumTables.Text.PrintableTable

/-!
Quoted text as it stands in diagnostics. A text is put between single quotes, or between double
quotes if it has a single quote and no double quote; the quote, the backslash and what cannot be
shown are escaped. Bytes are quoted by the same rule, with everything outside printable ASCII
escaped.
-/

namespace EnumTables.Text

def isPrintable (c : Char) : Bool :=
  !PrintableTable.unprintable.contains c.toNat

def hexDigit (n : Nat) : Char :=
  if n < 10 then Char.ofNat (48 + n) else Char.ofNat (87 + n)

def hexDigits (n : Nat) : Nat → List Char
  | 0 => []
  | width + 1 => hexDigits (n / 16) width ++ [hexDigit (n % 16)]

theorem hexDigits_length (n width : Nat) : (hexDigits n width).length = width := by
  induction width generalizing n with
  | zero => rfl
  | succ width ih => simp [hexDigits, ih]

namespace Quoted

/-- The quote that needs fewer escapes, the single one where both need the same. -/
def quoteFor (text : List Char) : Char :=
  if text.contains '\'' && !text.contains '"' then '"' else '\''

/-- Escape by number: two, four or eight digits after `x`, `u` or `U`. -/
def numericEscape (code : Nat) : List Char :=
  if code < 0x100 then '\\' :: 'x' :: hexDigits code 2
  else if code < 0x10000 then '\\' :: 'u' :: hexDigits code 4
  else '\\' :: 'U' :: hexDigits code 8

def escape (quote : Char) (c : Char) : List Char :=
  if c = quote ∨ c = '\\' then ['\\', c]
  else if c = '\n' then ['\\', 'n']
  else if c = '\r' then ['\\', 'r']
  else if c = '\t' then ['\\', 't']
  else if isPrintable c then [c]
  else numericEscape c.toNat

def escapeByte (quote : Char) (byte : UInt8) : List Char :=
  if byte < 0x20 ∨ 0x7f ≤ byte then
    if byte = 9 then ['\\', 't']
    else if byte = 10 then ['\\', 'n']
    else if byte = 13 then ['\\', 'r']
    else numericEscape byte.toNat
  else
    let c := Char.ofNat byte.toNat
    if c = quote ∨ c = '\\' then ['\\', c] else [c]

end Quoted

def quoteChars (text : List Char) : List Char :=
  let quote := Quoted.quoteFor text
  quote :: text.flatMap (Quoted.escape quote) ++ [quote]

def quote (text : String) : String :=
  String.ofList (quoteChars text.toList)

/-- Bytes between quotes, marked with a leading `b`; besides the backslash `escaped` is escaped. -/
def bytesWith (quote escaped : Char) (bytes : List UInt8) : String :=
  String.ofList ('b' :: quote :: bytes.flatMap (Quoted.escapeByte escaped) ++ [quote])

def quoteForBytes (bytes : List UInt8) : Char :=
  Quoted.quoteFor (bytes.map fun byte => Char.ofNat byte.toNat)

def quoteBytes (bytes : List UInt8) : String :=
  bytesWith (quoteForBytes bytes) (quoteForBytes bytes) bytes

/-- Bytes between quotes, as they stand in the display of bytes that can be changed: the single
quote is escaped between double quotes too. -/
def quoteMutableBytes (bytes : List UInt8) : String :=
  bytesWith (quoteForBytes bytes) '\'' bytes

end EnumTables.Text
