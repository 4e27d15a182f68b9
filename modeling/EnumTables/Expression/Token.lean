import EnumTables.Decimal.Spelling
import EnumTables.Text.Name
import EnumTables.Value.Display

/-!
Tokens of expressions. Blanks between tokens do not count, and neither do line breaks between
brackets and comments. An expression starts at the beginning of a line and takes one line.
-/

namespace EnumTables.Expression

open Decimal

inductive Token where
  | name (name : String)
  | constant (value : Value)
  | mark (text : String)
  deriving Inhabited

namespace Token

def isMark (text : String) : Token → Bool
  | .mark found => found == text
  | _ => false

/-! ## Text -/

def readHex? (count : Nat) (chars : List Char) : Option (Char × List Char) := do
  let digits := chars.take count
  if digits.length < count then none
  let code ← Spelling.digits? 16 digits
  if code.isValidChar then some (Char.ofNat code, chars.drop count) else none

def simpleEscapes : List (Char × Char) :=
  [('n', '\n'), ('t', '\t'), ('r', '\r'), ('\\', '\\'), ('\'', '\''), ('"', '"'), ('a', '\x07'),
    ('b', '\x08'), ('f', '\x0c'), ('v', '\x0b')]

def readEscape? (isBytes : Bool) : List Char → Option (List Char × List Char)
  | '\n' :: rest => some ([], rest)
  | 'x' :: rest => (readHex? 2 rest).map fun (c, rest) => ([c], rest)
  | c :: rest => match simpleEscapes.lookup c with
    | some plain => some ([plain], rest)
    | none =>
      if c = 'u' && !isBytes then (readHex? 4 rest).map fun (c, rest) => ([c], rest)
      else if c = 'U' && !isBytes then (readHex? 8 rest).map fun (c, rest) => ([c], rest)
      else if c = 'N' && !isBytes then none
      else
        let isOctal (d : Char) : Bool := '0' ≤ d && d ≤ '7'
        let digits := ((c :: rest).take 3).takeWhile isOctal
        if digits.isEmpty then some (['\\', c], rest)
        else do
          let code ← Spelling.digits? 8 digits
          let code := if isBytes then code % 256 else code
          return ([Char.ofNat code], (c :: rest).drop digits.length)
  | [] => none

structure Quoting where
  isRaw : Bool
  isBytes : Bool
  close : List Char

def readText? (quoting : Quoting) : Nat → List Char → Option (List Char × List Char)
  | 0, _ => none
  | fuel + 1, chars =>
    if quoting.close.isPrefixOf chars then some ([], chars.drop quoting.close.length)
    else match chars with
      | [] => none
      | '\\' :: rest => do
        let (decoded, rest) ←
          if quoting.isRaw then match rest with
            | c :: rest => some (['\\', c], rest)
            | [] => none
          else readEscape? quoting.isBytes rest
        let (content, rest) ← readText? quoting fuel rest
        return (decoded ++ content, rest)
      | c :: rest =>
        if (c = '\n' && quoting.close.length = 1) || (quoting.isBytes && 128 ≤ c.toNat) then none
        else do
          let (content, rest) ← readText? quoting fuel rest
          return (c :: content, rest)

def stringLetters : List (String × Bool × Bool) :=
  [("", false, false), ("u", false, false), ("r", true, false), ("b", false, true),
    ("br", true, true), ("rb", true, true)]

def readString? (chars : List Char) : Option (Token × List Char) := do
  let isQuote (c : Char) : Bool := c == '\'' || c == '"'
  let letters := (chars.take 3).takeWhile fun c => !isQuote c
  let (isRaw, isBytes) ←
    stringLetters.lookup (String.ofList (letters.map Char.toLower))
  let rest := chars.drop letters.length
  let quote ← rest.head?
  if !isQuote quote then none
  let triple := List.replicate 3 quote
  let close := if triple.isPrefixOf rest then triple else [quote]
  let (content, rest) ←
    readText? ⟨isRaw, isBytes, close⟩ (rest.length + 1) (rest.drop close.length)
  let value : Value :=
    if isBytes then .bytes false (content.map fun c => UInt8.ofNat c.toNat)
    else .text (String.ofList content)
  return (.constant value, rest)

/-! ## Numbers -/

def digitRun (chars : List Char) : List Char × List Char :=
  let isPart (c : Char) : Bool := c.isDigit || c == '_'
  (chars.takeWhile isPart, chars.dropWhile isPart)

def exponentRun (chars : List Char) : List Char × List Char :=
  match chars with
  | letter :: rest =>
    let (sign, behind) := match rest with
      | '+' :: behind => (['+'], behind)
      | '-' :: behind => (['-'], behind)
      | behind => ([], behind)
    if (letter = 'e' || letter = 'E') && behind.head?.any Char.isDigit then
      let (digits, behind) := digitRun behind
      (letter :: sign ++ digits, behind)
    else ([], chars)
  | [] => ([], [])

def wordsBehindNumbers : List String :=
  ["and", "else", "for", "if", "in", "is", "not", "or"]

def endsNumber (rest : List Char) : Bool :=
  let word := rest.takeWhile Text.isNamePart
  word.isEmpty || wordsBehindNumbers.contains (String.ofList word)

def readNumber? (chars : List Char) : Option (Token × List Char) := do
  let marked := match chars with
    | '0' :: letter :: _ => (Spelling.markedBase? letter).isSome
    | _ => false
  if marked then
    let digits := chars.takeWhile fun c => c.isAlphanum || c == '_'
    let n ← Spelling.integer? 0 digits
    return (.constant (.int n), chars.drop digits.length)
  else
    let (whole, rest) := digitRun chars
    let (fraction, rest) := match rest with
      | '.' :: rest =>
        let (digits, rest) := digitRun rest
        ('.' :: digits, rest)
      | rest => ([], rest)
    let (exponent, rest) := exponentRun rest
    let spelled := whole ++ fraction ++ exponent
    let (value, rest) ← match rest with
      | letter :: behind =>
        if letter = 'j' || letter = 'J' then do
          let x ← Spelling.float? spelled
          some (imaginary ⟨x.toBits⟩, behind)
        else (plain? whole fraction exponent).map (·, rest)
      | [] => (plain? whole fraction exponent).map (·, [])
    if endsNumber rest then some (.constant value, rest) else none
where
  plain? (whole fraction exponent : List Char) : Option Value :=
    if fraction.isEmpty && exponent.isEmpty then (Spelling.readInteger 0 whole).toOption.map .int
    else (Spelling.float? (whole ++ fraction ++ exponent)).map fun x => .float ⟨x.toBits⟩
  imaginary (x : Binary64) : Value :=
    let shown := Value.floatDisplay.write x
    let shown := if shown.endsWith ".0" then (shown.dropEnd 2).toString else shown
    .plainObject "complex" (shown ++ "j")

/-! ## Tokens -/

def marks : List String :=
  ["...", "**", "//", "<<", ">>", "==", "!=", "<=", ">=", "(", ")", "[", "]", "\x7b", "\x7d",
    ",", ":", ".", "+", "-", "*", "/", "%", "@", "|", "&", "^", "~", "<", ">", "="]

def mark? (chars : List Char) : Option String :=
  marks.find? fun mark => mark.toList.isPrefixOf chars

/-- How many brackets are open behind a mark. -/
def depthBehind (depth : Nat) (mark : String) : Nat :=
  if ["(", "[", "\x7b"].contains mark then depth + 1
  else if [")", "]", "\x7d"].contains mark then depth - 1
  else depth

def isVoid (chars : List Char) : Bool :=
  (chars.splitOn '\n').all fun line =>
    match line.dropWhile fun c => c == ' ' || c == '\t' || c == '\x0c' with
    | [] => true
    | c :: _ => c == '#'

def scan? : Nat → Nat → List Char → Option (List Token)
  | 0, _, _ => none
  | _ + 1, _, [] => some []
  | fuel + 1, depth, c :: rest =>
    if c = ' ' || c = '\t' || c = '\x0c' then scan? fuel depth rest
    else if c = '#' then scan? fuel depth (rest.dropWhile (· != '\n'))
    else if c = '\n' then
      if 0 < depth then scan? fuel depth rest
      else if isVoid rest then some []
      else none
    else if c = '\\' && rest.head? == some '\n' && 1 < rest.length then
      scan? fuel depth (rest.drop 1)
    else match readString? (c :: rest) with
      | some (token, rest) => (scan? fuel depth rest).map (token :: ·)
      | none =>
        if c.isDigit || (c = '.' && rest.head?.any Char.isDigit) then do
          let (token, rest) ← readNumber? (c :: rest)
          return token :: (← scan? fuel depth rest)
        else if Text.isNameStart c then
          let name := c :: rest.takeWhile Text.isNamePart
          (scan? fuel depth (rest.dropWhile Text.isNamePart)).map
            (.name (Text.normalName (String.ofList name)) :: ·)
        else do
          let mark ← mark? (c :: rest)
          let others ← scan? fuel (depthBehind depth mark) ((c :: rest).drop mark.length)
          return .mark mark :: others

def fromFirstLine : Nat → List Char → List Char
  | 0, chars => chars
  | fuel + 1, chars =>
    if isVoid (chars.takeWhile (· != '\n')) then
      match chars.dropWhile (· != '\n') with
      | [] => []
      | _ :: rest => fromFirstLine fuel rest
    else chars

def withPlainBreaks : List Char → List Char
  | '\r' :: '\n' :: rest => '\n' :: withPlainBreaks rest
  | '\r' :: rest => '\n' :: withPlainBreaks rest
  | c :: rest => c :: withPlainBreaks rest
  | [] => []

def ofText? (text : String) : Option (List Token) :=
  let chars := withPlainBreaks text.toList
  let chars := fromFirstLine (chars.length + 1) chars
  if chars.head? == some ' ' || chars.head? == some '\t' then none
  else scan? (chars.length + 1) 0 chars

end Token

end EnumTables.Expression
