import EnumTables.Text.CaseTable

/-!
Case of single characters after Unicode 14. A title-case letter is neither lower nor upper case,
and the mapping of one character may have several.
-/

namespace EnumTables.Text

def isLower (c : Char) : Bool :=
  CaseTable.lowercase.contains c.toNat

def isUpper (c : Char) : Bool :=
  CaseTable.uppercase.contains c.toNat

def mapCase (full : List (Nat × List Nat)) (simple : Shifts) (c : Char) : List Char :=
  match full.lookup c.toNat with
  | some codes => codes.map Char.ofNat
  | none => match simple.find? c.toNat with
    | some code => [Char.ofNat code]
    | none => [c]

/-- Lower-case form of one character taken alone, so that a capital sigma never becomes final. -/
def lowerChar (c : Char) : List Char :=
  mapCase CaseTable.toLowerFull CaseTable.toLower c

def isCased (c : Char) : Bool :=
  isLower c || isUpper c

def isInsideWord (c : Char) : Bool :=
  ['\'', '.', ':', '^', '`', '·', '’', '\u00ad'].contains c ||
    (0x300 ≤ c.toNat && c.toNat ≤ 0x36F)

/-- The nearest letters say that a word goes on. -/
def goesOn (text : List Char) : Bool :=
  (text.dropWhile isInsideWord).head?.any isCased

/-- Lower-case form of a text behind the reversed text `before`: a capital sigma at the end of a
word becomes a final one. -/
def lowerFrom (before : List Char) : List Char → List Char
  | [] => []
  | c :: rest =>
    (if c = 'Σ' && goesOn before && !goesOn rest then ['ς'] else lowerChar c) ++
      lowerFrom (c :: before) rest

def lower (text : List Char) : List Char :=
  lowerFrom [] text

def upperChar (c : Char) : List Char :=
  mapCase CaseTable.toUpperFull CaseTable.toUpper c

def upper (text : List Char) : List Char :=
  text.flatMap upperChar

def titleChar (c : Char) : List Char :=
  match CaseTable.toTitleFull.lookup c.toNat, CaseTable.toTitle.find? c.toNat with
  | some codes, _ => codes.map Char.ofNat
  | none, some code => [Char.ofNat code]
  | none, none => upperChar c

def hasCase (c : Char) : Bool :=
  isCased c || CaseTable.titlecase.contains c.toNat

/-- The form of a letter that continues a word: a capital sigma at the end of a word becomes a final
one. -/
def lowerAt (before : List Char) (c : Char) (rest : List Char) : List Char :=
  if c = 'Σ' && goesOn before && !goesOn rest then ['ς'] else lowerChar c

/-- Title-case form of a text behind the reversed text `before`: every word has one letter in title
case, and its other letters in lower case. -/
def titleFrom (before : List Char) : List Char → List Char
  | [] => []
  | c :: rest =>
    (if before.head?.any hasCase then lowerAt before c rest else titleChar c) ++
      titleFrom (c :: before) rest

def title (text : List Char) : List Char :=
  titleFrom [] text

def capitalize : List Char → List Char
  | [] => []
  | c :: rest => titleChar c ++ lowerFrom [c] rest

def swapFrom (before : List Char) : List Char → List Char
  | [] => []
  | c :: rest =>
    (if isUpper c then lowerAt before c rest else if isLower c then upperChar c else [c]) ++
      swapFrom (c :: before) rest

def swapCase (text : List Char) : List Char :=
  swapFrom [] text

def foldChar (c : Char) : List Char :=
  if c = 'ẞ' then ['s', 's']
  else if c = 'ı' then [c]
  else if (0x13A0 ≤ c.toNat && c.toNat ≤ 0x13FD) || (0xAB70 ≤ c.toNat && c.toNat ≤ 0xABBF) then
    upperChar c
  else (upperChar c).flatMap lowerChar

def fold (text : List Char) : List Char :=
  text.flatMap foldChar

theorem upper_append (left right : List Char) : upper (left ++ right) = upper left ++ upper right :=
  List.flatMap_append

end EnumTables.Text
