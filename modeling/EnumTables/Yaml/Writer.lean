import EnumTables.Yaml.Tag
import EnumTables.Yaml.Character

/-!
Writing YAML: a mapping of texts and lists of texts. A text is written plain where it would be read
back as the same text, otherwise between single quotes if it is made of printable ASCII and line
feeds only, otherwise between double quotes. Long lines are folded at spaces.
-/

namespace EnumTables.Yaml

inductive ScalarStyle where
  | plain
  | single
  | double
  deriving DecidableEq, Repr

namespace ScalarStyle

def isSpecial (c : Char) : Bool :=
  !(c == '\n' || (' ' ≤ c && c ≤ '~'))

def isSeparator (c : Char) : Bool :=
  c == ' ' || c == '\n'

def hasPair (first second : Char) : List Char → Bool
  | a :: b :: rest => (a == first && b == second) || hasPair first second (b :: rest)
  | _ => false

def endsHere (rest : List Char) : Bool :=
  !rest.head?.any fun c => !isSeparator c

def isLeadIndicator (c : Char) (rest : List Char) : Bool :=
  "#,[]\x7b\x7d&*!|>'\"%@`".toList.contains c || ("?:-".toList.contains c && endsHere rest)

/-- Inside a text, a colon in front of a separator or a hash behind one is no part of it.
`separated` says that a separator comes before. -/
def hasInnerIndicator (separated : Bool) : List Char → Bool
  | [] => false
  | c :: rest =>
    (c == ':' && endsHere rest) || (c == '#' && separated) || hasInnerIndicator (isSeparator c) rest

def hasIndicator : List Char → Bool
  | [] => false
  | c :: rest =>
    let start := (c :: rest).take 3
    start == ['-', '-', '-'] || start == ['.', '.', '.'] || isLeadIndicator c rest ||
      hasInnerIndicator (isSeparator c) rest

def allowsPlain (text : List Char) : Bool :=
  !text.any isSpecial && !text.contains '\n' && !text.head?.any isSeparator &&
    !text.getLast?.any isSeparator && !hasIndicator text

def allowsSingle (text : List Char) : Bool :=
  !text.any isSpecial && !hasPair '\n' ' ' text && !hasPair ' ' '\n' text

def ofText (text : List Char) : ScalarStyle :=
  if Tag.ofPlain (String.ofList text) = .text ∧ allowsPlain text then .plain
  else if allowsSingle text then .single
  else .double

end ScalarStyle

namespace Writer

def width : Nat := 80

def fold : List Char := ['\n', ' ', ' ']

def foldedColumn : Nat := 2

def plain (column spaces : Nat) : List Char → List Char
  | [] => List.replicate spaces ' '
  | c :: rest =>
    if c = ' ' then plain column (spaces + 1) rest
    else if spaces = 1 && width < column then fold ++ c :: plain (foldedColumn + 1) 0 rest
    else List.replicate spaces ' ' ++ c :: plain (column + spaces + 1) 0 rest

/-- Writes text for single quotes from a column on. `spaces` and `breaks` are read and not written;
`atStart` says that nothing else was read. -/
def single (column spaces breaks : Nat) (atStart : Bool) : List Char → List Char
  | [] => gap column spaces breaks true atStart
  | c :: rest =>
    if c = ' ' && breaks = 0 then single column (spaces + 1) 0 atStart rest
    else if c = '\n' && spaces = 0 then single column 0 (breaks + 1) atStart rest
    else
      let before := gap column spaces breaks false atStart
      let reached := if 3 ≤ before.length && before.head? == some '\n' then foldedColumn
        else column + spaces
      if c = ' ' then before ++ single reached 1 0 false rest
      else if c = '\n' then before ++ single reached 0 1 false rest
      else if c = '\'' then before ++ '\'' :: '\'' :: single (reached + 2) 0 0 false rest
      else before ++ c :: single (reached + 1) 0 0 false rest
where
  gap (column spaces breaks : Nat) (atEnd atStart : Bool) : List Char :=
    if breaks ≠ 0 then List.replicate breaks '\n' ++ fold
    else if spaces = 1 && width < column && !atStart && !atEnd then fold
    else List.replicate spaces ' '

def hexDigits (n width : Nat) : List Char :=
  (Text.hexDigits n width).map Char.toUpper

def escapeCode (c : Char) : List Char :=
  let short : List (Char × Char) := [('\x00', '0'), ('\x07', 'a'), ('\x08', 'b'), ('\t', 't'),
    ('\n', 'n'), ('\x0B', 'v'), ('\x0C', 'f'), ('\r', 'r'), ('\x1B', 'e'), ('"', '"'), ('\\', '\\'),
    ('\u0085', 'N'), ('\u00A0', '_'), ('\u2028', 'L'), ('\u2029', 'P')]
  match short.lookup c with
  | some letter => [letter]
  | none =>
    if c.toNat ≤ 0xFF then 'x' :: hexDigits c.toNat 2
    else if c.toNat ≤ 0xFFFF then 'u' :: hexDigits c.toNat 4
    else 'U' :: hexDigits c.toNat 8

def isEscaped (c : Char) : Bool :=
  c == '"' || c == '\\' || !(' ' ≤ c && c ≤ '~')

/-- What a line goes on with behind a backslash that folds it: a leading space is escaped. -/
def foldBefore (next : Option Char) : List Char × Nat :=
  if next = some ' ' then (fold ++ ['\\'], foldedColumn + 1) else (fold, foldedColumn)

/-- Writes text for double quotes from a column on. `pending` was read and not written. -/
def double (column : Nat) (pending : List Char) (atStart : Bool) : List Char → List Char
  | [] => pending
  | c :: rest =>
    let mayFold := !atStart && !rest.isEmpty
    if isEscaped c then
      let written := pending ++ '\\' :: escapeCode c
      let reached := column + written.length
      if mayFold && width + 1 < reached then
        let (start, reached) := foldBefore rest.head?
        written ++ '\\' :: start ++ double reached [] false rest
      else written ++ double reached [] false rest
    else if mayFold && (c = ' ' || pending.isEmpty) && width < column + pending.length then
      let (start, reached) := foldBefore (some c)
      pending ++ '\\' :: start ++ double reached [c] false rest
    else double column (pending ++ [c]) false rest

def text (column : Nat) (content : String) : List Char :=
  let chars := content.toList
  ' ' :: match ScalarStyle.ofText chars with
    | .plain => plain (column + 1) 0 chars
    | .single => '\'' :: single (column + 2) 0 0 true chars ++ ['\'']
    | .double => '"' :: double (column + 2) [] true chars ++ ['"']

inductive Entry where
  | text (content : String)
  | list (items : List String)

def entry (column : Nat) : Entry → List Char
  | .text content => text column content
  | .list [] => [' ', '[', ']']
  | .list items => items.flatMap fun item => '\n' :: '-' :: text 1 item

def mapping (entries : List (String × Entry)) : String :=
  String.ofList <| entries.flatMap fun (key, value) =>
    key.toList ++ ':' :: entry (key.length + 1) value ++ ['\n']

end Writer

end EnumTables.Yaml
