/-!
Characters of YAML text. Line breaks are line feed, next line, line separator and paragraph
separator; carriage returns are gone before text is read.
-/

namespace EnumTables.Yaml

def byteOrderMark : Char := '\uFEFF'

def isAllowed (c : Char) : Bool :=
  let code := c.toNat
  code == 0x09 || code == 0x0A || code == 0x0D || (0x20 ≤ code && code ≤ 0x7E) || code == 0x85 ||
    (0xA0 ≤ code && code ≤ 0xD7FF) || (0xE000 ≤ code && code ≤ 0xFFFD) || 0x10000 ≤ code

def isBreak (c : Char) : Bool :=
  c == '\n' || c == '\u0085' || c == '\u2028' || c == '\u2029'

def breakText (c : Char) : Char :=
  if c = '\u0085' then '\n' else c

def isGap (c : Char) : Bool :=
  c == ' ' || c == '\t'

def endsWord : List Char → Bool
  | [] => true
  | c :: _ => isGap c || isBreak c

def endsField : List Char → Bool
  | [] => true
  | c :: _ => c == ' ' || isBreak c

def endsLine : List Char → Bool
  | [] => true
  | c :: _ => isBreak c

/-- At the start of a line, three hyphens start a document and three points end one. -/
def isDocumentStart (text : List Char) : Bool :=
  text.take 3 == ['-', '-', '-'] && endsWord (text.drop 3)

def isDocumentEnd (text : List Char) : Bool :=
  text.take 3 == ['.', '.', '.'] && endsWord (text.drop 3)

def isMarker (text : List Char) : Bool :=
  isDocumentStart text || isDocumentEnd text

def isNameChar (c : Char) : Bool :=
  c.isAlphanum || c == '-' || c == '_'

def isTagChar (c : Char) : Bool :=
  c.isAlphanum || "-;/?:@&=+$,_.!~*'()[]".toList.contains c

def hexValue? (c : Char) : Option Nat :=
  if c.isDigit then some (c.toNat - 48)
  else if 'a' ≤ c ∧ c ≤ 'f' then some (c.toNat - 87)
  else if 'A' ≤ c ∧ c ≤ 'F' then some (c.toNat - 55)
  else none

def hexNumber? (digits : List Char) : Option Nat :=
  digits.foldl (fun number c => do
    let number ← number
    let digit ← hexValue? c
    return 16 * number + digit) (some 0)

def dropBreak : List Char → List Char
  | [] => []
  | c :: rest => if isBreak c then rest else c :: rest

end EnumTables.Yaml
