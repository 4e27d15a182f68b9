import EnumTables.Text.Digit
import EnumTables.Text.FormTable
import EnumTables.Text.NameTable
import EnumTables.Text.NumeralTable

/-!
Names and the characters that they are made of.

A name is known by its normal form: every character gives way to the characters that it is
compatible with, the marks behind a letter go in the order of their classes, and what composes to
one character is composed. Two spellings with one normal form are one name.
-/

namespace EnumTables.Text

def isNameStart (c : Char) : Bool :=
  NameTable.starts.contains c.toNat

def isNamePart (c : Char) : Bool :=
  isNameStart c || NameTable.others.contains c.toNat

def loneLetters : CodePoints :=
  [⟨890, 890, 1⟩, ⟨3635, 3635, 1⟩, ⟨3763, 3763, 1⟩, ⟨11823, 11823, 1⟩, ⟨64606, 64611, 1⟩,
    ⟨65018, 65019, 1⟩, ⟨65136, 65150, 2⟩, ⟨65438, 65439, 1⟩]

def nameSigns : CodePoints :=
  [⟨5870, 5872, 1⟩, ⟨6277, 6278, 1⟩, ⟨8472, 8472, 1⟩, ⟨8494, 8494, 1⟩, ⟨8544, 8578, 1⟩,
    ⟨8581, 8584, 1⟩, ⟨12295, 12295, 1⟩, ⟨12321, 12329, 1⟩, ⟨12344, 12346, 1⟩,
    ⟨42726, 42735, 1⟩, ⟨65856, 65908, 1⟩, ⟨66369, 66369, 1⟩, ⟨66378, 66378, 1⟩,
    ⟨66513, 66517, 1⟩, ⟨74752, 74862, 1⟩]

def isLetter (c : Char) : Bool :=
  (isNameStart c && c != '_' && !nameSigns.contains c.toNat) || loneLetters.contains c.toNat

def isDigitSign (c : Char) : Bool :=
  isDigit c || NumeralTable.digitSigns.contains c.toNat

def isNumeral (c : Char) : Bool :=
  isDigitSign c || NumeralTable.numerals.contains c.toNat

namespace NormalForm

def compatible (code : Nat) : List Nat :=
  match FormTable.several.lookup code with
  | some codes => codes
  | none => [(FormTable.single.find? code).getD code]

def parts? (code : Nat) : Option (Nat × Nat) :=
  FormTable.compositions.findSome? fun (mark, pairs) =>
    (pairs.find? (·.2 == code)).map fun (letter, _) => (letter, mark)

/-- A character taken apart. Only a composed letter is composed itself, and never more than three
times. -/
def takenApart : Nat → Nat → List Nat
  | 0, code => [code]
  | depth + 1, code =>
    match parts? code with
    | some (letter, mark) => takenApart depth letter ++ [mark]
    | none => [code]

def markClass (code : Nat) : Nat :=
  ((FormTable.classes.find? fun (first, last, _) => first ≤ code && code ≤ last).map (·.2.2)).getD 0

/-- A character put into ordered text: a mark goes before the marks of higher classes that end the
text. The text is reversed. -/
def insertMark (code : Nat) : List Nat → List Nat
  | [] => [code]
  | previous :: rest =>
    if markClass code != 0 && markClass code < markClass previous then
      previous :: insertMark code rest
    else code :: previous :: rest

def ordered (codes : List Nat) : List Nat :=
  (codes.foldl (fun done code => insertMark code done) []).reverse

def composed? (letter next : Nat) : Option Nat :=
  (FormTable.compositions.lookup next).bind fun pairs => pairs.lookup letter

/-- Composed text. The letter composes with every mark behind it that no mark of the same class or
a higher one keeps from it; `kept` has the reversed marks that stay behind the letter. -/
def composeFrom (letter : Nat) (kept : List Nat) : List Nat → List Nat
  | [] => letter :: kept.reverse
  | next :: rest =>
    let reached := match kept with
      | [] => true
      | last :: _ => markClass last < markClass next
    match if reached then composed? letter next else none with
    | some code => composeFrom code kept rest
    | none =>
      if markClass next = 0 then letter :: kept.reverse ++ composeFrom next [] rest
      else composeFrom letter (next :: kept) rest

def ofCodes (codes : List Nat) : List Nat :=
  match ordered ((codes.flatMap compatible).flatMap (takenApart 3)) with
  | [] => []
  | first :: rest => composeFrom first [] rest

end NormalForm

def normalName (name : String) : String :=
  if name.toList.all (fun c : Char => c.toNat < 128) then name
  else String.ofList ((NormalForm.ofCodes (name.toList.map Char.toNat)).map Char.ofNat)

end EnumTables.Text
