import EnumTables.Expression
import EnumTables.Expression.Token

/-!
Reading expressions from their tokens. Every reader takes the longest expression of its kind from
the front of the tokens; what stands in a looser kind of expression needs brackets in a tighter one.
Fuel bounds how deep readers call each other, and `ofText?` gives them more than tokens need.
-/

namespace EnumTables.Expression

def reservedWords : List String :=
  ["and", "as", "assert", "async", "await", "break", "class", "continue", "def", "del", "elif",
    "else", "except", "finally", "for", "from", "global", "if", "import", "in", "is", "lambda",
    "nonlocal", "not", "or", "pass", "raise", "return", "try", "while", "with", "yield"]

def operatorAt? (level : List Operator) : List Token → Option Operator
  | token :: _ => level.find? fun operator => token.isMark operator.symbol
  | [] => none

def comparisonMarks : List (String × Comparison) :=
  [("==", .equal), ("!=", .different), ("<", .less), ("<=", .atMost), (">", .greater),
    (">=", .atLeast)]

def comparisonAt? : List Token → Option (Comparison × List Token)
  | .mark text :: rest => (comparisonMarks.lookup text).map (·, rest)
  | .name "in" :: rest => some (.contained, rest)
  | .name "not" :: .name "in" :: rest => some (.notContained, rest)
  | .name "is" :: .name "not" :: rest => some (.notIdentical, rest)
  | .name "is" :: rest => some (.identical, rest)
  | _ => none

/-- Several strings in a row are one. -/
def joinStrings : Value → List Token → Option (Value × List Token)
  | .text left, .constant (.text right) :: rest => joinStrings (.text (left ++ right)) rest
  | .bytes false left, .constant (.bytes false right) :: rest =>
    joinStrings (.bytes false (left ++ right)) rest
  | .text _, .constant (.bytes ..) :: _ => none
  | .bytes .., .constant (.text _) :: _ => none
  | value, tokens => some (value, tokens)

def skipParameters : List Token → Option (List Token)
  | .mark ":" :: rest => some rest
  | .name word :: .mark "," :: rest =>
    if reservedWords.contains word then none else skipParameters rest
  | .name word :: .mark ":" :: rest => if reservedWords.contains word then none else some rest
  | _ => none

/-- The expression that a word which is a name by itself stands for. -/
def ofWord? (word : String) : Option Expression :=
  match word with
  | "True" => some (.constant (.bool true))
  | "False" => some (.constant (.bool false))
  | "None" => some (.constant .null)
  | word => if reservedWords.contains word then none else some (.name word)

mutual

def readExpression : Nat → List Token → Option (Expression × List Token)
  | 0, _ => none
  | fuel + 1, .name "lambda" :: rest => do
    let (_, rest) ← readExpression fuel (← skipParameters rest)
    return (.function, rest)
  | fuel + 1, tokens => do
    let (yes, rest) ← readEither fuel tokens
    match rest with
    | .name "if" :: rest => do
      let (test, rest) ← readEither fuel rest
      match rest with
      | .name "else" :: rest => do
        let (no, rest) ← readExpression fuel rest
        return (.conditional yes test no, rest)
      | _ => none
    | rest => return (yes, rest)

def readEither : Nat → List Token → Option (Expression × List Token)
  | 0, _ => none
  | fuel + 1, tokens => do
    let (left, rest) ← readBoth fuel tokens
    match rest with
    | .name "or" :: rest => do
      let (right, rest) ← readEither fuel rest
      return (.either left right, rest)
    | rest => return (left, rest)

def readBoth : Nat → List Token → Option (Expression × List Token)
  | 0, _ => none
  | fuel + 1, tokens => do
    let (left, rest) ← readNegation fuel tokens
    match rest with
    | .name "and" :: rest => do
      let (right, rest) ← readBoth fuel rest
      return (.both left right, rest)
    | rest => return (left, rest)

def readNegation : Nat → List Token → Option (Expression × List Token)
  | 0, _ => none
  | fuel + 1, .name "not" :: rest => do
    let (operand, rest) ← readNegation fuel rest
    return (.negation operand, rest)
  | fuel + 1, tokens => do
    let (first, rest) ← readOperation fuel Operator.levels tokens
    let (relations, others, rest) ← readComparisons fuel rest
    return (if others.isEmpty then first else .comparison first relations others, rest)

def readComparisons : Nat → List Token →
    Option (List Comparison × List Expression × List Token)
  | 0, _ => none
  | fuel + 1, tokens => match comparisonAt? tokens with
    | none => some ([], [], tokens)
    | some (relation, rest) => do
      let (operand, rest) ← readOperation fuel Operator.levels rest
      let (relations, others, rest) ← readComparisons fuel rest
      return (relation :: relations, operand :: others, rest)

def readOperation : Nat → List (List Operator) → List Token → Option (Expression × List Token)
  | 0, _, _ => none
  | fuel + 1, [], tokens => readSigned fuel tokens
  | fuel + 1, level :: tighter, tokens => do
    let (left, rest) ← readOperation fuel tighter tokens
    readOperands fuel level tighter left rest

def readOperands : Nat → List Operator → List (List Operator) → Expression → List Token →
    Option (Expression × List Token)
  | 0, _, _, _, _ => none
  | fuel + 1, level, tighter, left, tokens => match operatorAt? level tokens with
    | none => some (left, tokens)
    | some operator => do
      let (right, rest) ← readOperation fuel tighter (tokens.drop 1)
      readOperands fuel level tighter (.operation operator left right) rest

def readSigned : Nat → List Token → Option (Expression × List Token)
  | 0, _ => none
  | fuel + 1, tokens =>
    let signed (sign : Sign) (rest : List Token) : Option (Expression × List Token) := do
      let (operand, rest) ← readSigned fuel rest
      return (.signed sign operand, rest)
    match tokens with
    | .mark "-" :: rest => signed .minus rest
    | .mark "+" :: rest => signed .plus rest
    | .mark "~" :: rest => signed .complement rest
    | tokens => do
      let (base, rest) ← readPart fuel tokens
      let (base, rest) ← readTrailers fuel base rest
      match rest with
      | .mark "**" :: rest => do
        let (exponent, rest) ← readSigned fuel rest
        return (.operation .power base exponent, rest)
      | rest => return (base, rest)

def readTrailers : Nat → Expression → List Token → Option (Expression × List Token)
  | 0, _, _ => none
  | fuel + 1, subject, tokens => match tokens with
    | .mark "." :: .name word :: rest =>
      if reservedWords.contains word then none
      else readTrailers fuel (.attribute subject word) rest
    | .mark "[" :: rest => do
      let (argument, rest) ← readTuple fuel rest
      match rest with
      | .mark "]" :: rest => readTrailers fuel (.index subject argument) rest
      | _ => none
    | .mark "(" :: rest => do
      let (arguments, _, rest) ← readItems fuel ")" rest
      readTrailers fuel (.call subject arguments) rest
    | tokens => some (subject, tokens)

def readPart : Nat → List Token → Option (Expression × List Token)
  | 0, _ => none
  | fuel + 1, tokens => match tokens with
    | .name word :: rest => (ofWord? word).map (·, rest)
    | .constant value :: rest => (joinStrings value rest).map fun (value, rest) =>
      (.constant value, rest)
    | .mark "..." :: rest => some (.ellipsis, rest)
    | .mark "(" :: rest => do
      let (items, isTuple, rest) ← readItems fuel ")" rest
      match items, isTuple with
      | [single], false => return (single, rest)
      | items, _ => return (.tuple items, rest)
    | .mark "[" :: rest => do
      let (items, _, rest) ← readItems fuel "]" rest
      return (.list items, rest)
    | .mark "\x7b" :: .mark "\x7d" :: rest => some (.mapping [] [], rest)
    | .mark "\x7b" :: rest => do
      let (_, behind) ← readExpression fuel rest
      if behind.head?.any (Token.isMark ":") then do
        let (keys, values, rest) ← readEntries fuel rest
        return (.mapping keys values, rest)
      else do
        let (items, _, rest) ← readItems fuel "\x7d" rest
        return (.set items, rest)
    | _ => none

def readItems : Nat → String → List Token → Option (List Expression × Bool × List Token)
  | 0, _, _ => none
  | fuel + 1, close, tokens =>
    if tokens.head?.any (Token.isMark close) then some ([], false, tokens.drop 1)
    else do
      let (first, rest) ← readExpression fuel tokens
      match rest with
      | .mark "," :: rest => do
        let (others, _, rest) ← readItems fuel close rest
        return (first :: others, true, rest)
      | .mark found :: rest => if found = close then return ([first], false, rest) else none
      | _ => none

def readEntries : Nat → List Token → Option (List Expression × List Expression × List Token)
  | 0, _ => none
  | fuel + 1, tokens =>
    if tokens.head?.any (Token.isMark "\x7d") then some ([], [], tokens.drop 1)
    else do
      let (key, rest) ← readExpression fuel tokens
      match rest with
      | .mark ":" :: rest => do
        let (value, rest) ← readExpression fuel rest
        match rest with
        | .mark "," :: rest => do
          let (keys, values, rest) ← readEntries fuel rest
          return (key :: keys, value :: values, rest)
        | .mark "\x7d" :: rest => return ([key], [value], rest)
        | _ => none
      | _ => none

def readTuple : Nat → List Token → Option (Expression × List Token)
  | 0, _ => none
  | fuel + 1, tokens => do
    let (first, rest) ← readExpression fuel tokens
    match rest with
    | .mark "," :: rest => do
      let (others, rest) ← readMore fuel rest
      return (.tuple (first :: others), rest)
    | rest => return (first, rest)

def readMore : Nat → List Token → Option (List Expression × List Token)
  | 0, _ => none
  | fuel + 1, tokens => match tokens with
    | [] => some ([], [])
    | .mark "]" :: _ => some ([], tokens)
    | tokens => do
      let (next, rest) ← readExpression fuel tokens
      match rest with
      | .mark "," :: rest => do
        let (others, rest) ← readMore fuel rest
        return (next :: others, rest)
      | rest => return ([next], rest)

end

/-- The deepest chain of readers between two tokens, and some more. -/
def readersPerToken : Nat := 32

def ofText? (text : String) : Option Expression := do
  let tokens ← Token.ofText? text
  let (expression, rest) ← readTuple (readersPerToken * (tokens.length + 1)) tokens
  if rest.isEmpty then some expression else none

end EnumTables.Expression
