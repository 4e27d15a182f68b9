import EnumTables.Yaml.Scalar

/-!
Tokens of YAML text. Indentation becomes tokens of its own, so that blocks start and end like flow
collections do. A key without an indicator is recognised by the colon behind it: its place is noted
when it starts, and the tokens that make it a key are put in there later. An error of the text is a
token too, and counts only for a reader that gets to it.
-/

namespace EnumTables.Yaml

inductive Token where
  | streamEnd
  | version (major minor : Nat)
  | tagHandle (handle stem : String)
  | otherDirective
  | documentStart
  | documentEnd
  | blockSequenceStart
  | blockMappingStart
  | blockEnd
  | flowSequenceStart
  | flowSequenceEnd
  | flowMappingStart
  | flowMappingEnd
  | blockEntry
  | flowEntry
  | key
  | value
  | alias (name : String)
  | anchor (name : String)
  | tag (handle : Option String) (rest : String)
  | scalar (text : String) (isPlain : Bool)
  /-- The text cannot be read on from here. -/
  | unreadable (error : ReadError)
  deriving DecidableEq, Repr

/-! ## Parts of tokens -/

def percentEscapes : List Char → Option (List UInt8 × List Char)
  | '%' :: a :: b :: rest => do
    let high ← hexValue? a
    let low ← hexValue? b
    let (bytes, behind) ← percentEscapes rest
    return (UInt8.ofNat (16 * high + low) :: bytes, behind)
  | '%' :: _ => none
  | text => some ([], text)

def tagChars : Nat → List Char → Option (List Char × List Char)
  | 0, text => some ([], text)
  | fuel + 1, text =>
    let run := text.takeWhile isTagChar
    let behind := text.drop run.length
    if behind.head? == some '%' then do
      let (bytes, behind) ← percentEscapes behind
      let escaped ← String.fromUTF8? ⟨bytes.toArray⟩
      let (others, behind) ← tagChars fuel behind
      return (run ++ escaped.toList ++ others, behind)
    else some (run, behind)

def tagText (text : List Char) : Option (String × List Char) := do
  let (chars, behind) ← tagChars (text.length + 1) text
  if behind.length = text.length then none else return (String.ofList chars, behind)

def tagHandleText : List Char → Option (String × List Char)
  | '!' :: rest =>
    if rest.head? == some ' ' then some ("!", rest)
    else
      let name := rest.takeWhile isNameChar
      match rest.drop name.length with
      | '!' :: behind => some (String.ofList ('!' :: name ++ ['!']), behind)
      | _ => none
  | _ => none

def tagToken (text : List Char) : Option (Token × List Char) := do
  let rest := text.drop 1
  let (token, behind) ←
    if rest.head? == some '<' then do
      let (name, behind) ← tagText (rest.drop 1)
      match behind with
      | '>' :: behind => some (Token.tag none name, behind)
      | _ => none
    else if endsWord rest then some (.tag none "!", rest)
    else if (rest.takeWhile fun c => !(c == ' ' || isBreak c)).contains '!' then do
      let (handle, behind) ← tagHandleText text
      let (name, behind) ← tagText behind
      some (.tag (some handle) name, behind)
    else do
      let (name, behind) ← tagText rest
      some (.tag (some "!") name, behind)
  if endsField behind then return (token, behind) else none

def endsAnchor : List Char → Bool
  | [] => true
  | c :: rest => endsWord (c :: rest) || "?:,]\x7d%@`".toList.contains c

def anchorName (text : List Char) : Option (String × List Char) :=
  let name := text.takeWhile isNameChar
  let behind := text.drop name.length
  if name.isEmpty || !endsAnchor behind then none else some (String.ofList name, behind)

def decimalDigits (text : List Char) : Option (Nat × List Char) :=
  let digits := text.takeWhile Char.isDigit
  if digits.isEmpty then none
  else some (digits.foldl (fun n c => 10 * n + (c.toNat - 48)) 0, text.drop digits.length)

def directiveBody (name : String) (text : List Char) : Option (Token × List Char) :=
  let skipped := text.dropWhile (· == ' ')
  if name = "YAML" then do
    let (major, behind) ← decimalDigits skipped
    match behind with
    | '.' :: behind =>
      let (minor, behind) ← decimalDigits behind
      if endsField behind then some (.version major minor, behind) else none
    | _ => none
  else if name = "TAG" then do
    let (handle, behind) ← tagHandleText skipped
    if behind.head? != some ' ' then none
    else
      let (stem, behind) ← tagText (behind.dropWhile (· == ' '))
      if endsField behind then some (.tagHandle handle stem, behind) else none
  else some (.otherDirective, text.dropWhile fun c => !isBreak c)

def directive (text : List Char) : Option (Token × List Char) := do
  let rest := text.drop 1
  let name := rest.takeWhile isNameChar
  let behind := rest.drop name.length
  if name.isEmpty || !endsField behind then none
  else
    let (token, behind) ← directiveBody (String.ofList name) behind
    return (token, ← dropLineEnd behind)

/-- Leaves out spaces, comments and line breaks; says whether there was a line break. -/
def skipGaps (inComment : Bool) : List Char → Bool × List Char
  | [] => (false, [])
  | c :: rest =>
    if isBreak c then (true, (skipGaps false rest).2)
    else if inComment then skipGaps true rest
    else if c = ' ' then skipGaps false rest
    else if c = '#' then skipGaps true rest
    else (false, c :: rest)

/-! ## Places -/

structure Cursor where
  rest : List Char
  index : Nat
  line : Nat
  column : Nat

namespace Cursor

def pass (cursor : Cursor) (c : Char) (rest : List Char) : Cursor :=
  if isBreak c then ⟨rest, cursor.index + 1, cursor.line + 1, 0⟩
  else if c = byteOrderMark then ⟨rest, cursor.index + 1, cursor.line, cursor.column⟩
  else ⟨rest, cursor.index + 1, cursor.line, cursor.column + 1⟩

def advance (cursor : Cursor) : Nat → Cursor
  | 0 => cursor
  | count + 1 => match cursor.rest with
    | [] => cursor
    | c :: rest => advance (cursor.pass c rest) count

def goTo (cursor : Cursor) (rest : List Char) : Cursor :=
  cursor.advance (cursor.rest.length - rest.length)

end Cursor

/-! ## The lexer -/

structure PossibleKey where
  place : Nat
  isRequired : Bool
  index : Nat
  line : Nat
  column : Nat

structure Lexer where
  cursor : Cursor
  tokens : List Token
  flowDepth : Nat
  indents : List Nat
  keyAllowed : Bool
  keys : List (Nat × PossibleKey)

namespace Lexer

def start (text : List Char) : Lexer :=
  let cursor : Cursor := ⟨text, 0, 0, 0⟩
  ⟨if text.head? == some byteOrderMark then cursor.advance 1 else cursor, [], 0, [], true, []⟩

def inFlow (lexer : Lexer) : Bool :=
  lexer.flowDepth != 0

def leastIndent (lexer : Lexer) : Nat :=
  match lexer.indents with
  | [] => 0
  | column :: _ => column + 1

def emit (lexer : Lexer) (token : Token) : Lexer :=
  { lexer with tokens := lexer.tokens ++ [token] }

def emitTo (lexer : Lexer) (token : Token) (behind : List Char) : Lexer :=
  { lexer with tokens := lexer.tokens ++ [token], cursor := lexer.cursor.goTo behind }

def allowKey (lexer : Lexer) (allowed : Bool) : Lexer :=
  { lexer with keyAllowed := allowed }

def closeBlocks (ends : Nat → Bool) : List Nat → Nat × List Nat
  | [] => (0, [])
  | column :: rest =>
    if ends column then
      let (count, left) := closeBlocks ends rest
      (count + 1, left)
    else (0, column :: rest)

def unwind (lexer : Lexer) (ends : Nat → Bool) : Lexer :=
  if lexer.inFlow then lexer
  else
    let (count, left) := closeBlocks ends lexer.indents
    { lexer with tokens := lexer.tokens ++ List.replicate count .blockEnd, indents := left }

/-- Starts a block at a column unless the innermost one is at least as far in; the token of its
start is put at a place. -/
def startBlock (lexer : Lexer) (column : Nat) (token : Token) (place : Nat) : Lexer :=
  if lexer.leastIndent ≤ column then
    { lexer with
      tokens := lexer.tokens.insertIdx place token
      indents := column :: lexer.indents }
  else lexer

/-- A key that has left its line, or is too long, is none. -/
def isStale (lexer : Lexer) (key : PossibleKey) : Bool :=
  key.line != lexer.cursor.line || 1024 < lexer.cursor.index - key.index

def forgetStale (lexer : Lexer) : Except ReadError Lexer :=
  if lexer.keys.any fun entry => lexer.isStale entry.2 && entry.2.isRequired then .error .malformed
  else .ok { lexer with keys := lexer.keys.filter fun entry => !lexer.isStale entry.2 }

def forgetKey (lexer : Lexer) : Except ReadError Lexer :=
  match lexer.keys.lookup lexer.flowDepth with
  | none => .ok lexer
  | some key =>
    if key.isRequired then .error .malformed
    else .ok { lexer with keys := lexer.keys.filter fun entry => entry.1 != lexer.flowDepth }

def noteKey (lexer : Lexer) : Except ReadError Lexer :=
  if lexer.keyAllowed then do
    let lexer ← lexer.forgetKey
    let cursor := lexer.cursor
    let isRequired := !lexer.inFlow && lexer.indents.head? == some cursor.column
    let key : PossibleKey :=
      ⟨lexer.tokens.length, isRequired, cursor.index, cursor.line, cursor.column⟩
    return { lexer with keys := (lexer.flowDepth, key) :: lexer.keys }
  else .ok lexer

def skip (lexer : Lexer) : Lexer :=
  let (broke, rest) := skipGaps false lexer.cursor.rest
  { lexer with
    cursor := lexer.cursor.goTo rest
    keyAllowed := lexer.keyAllowed || (broke && !lexer.inFlow) }

def boundary (lexer : Lexer) : Except ReadError Lexer := do
  let lexer ← (lexer.unwind fun _ => true).forgetKey
  return lexer.allowKey false

def content (lexer : Lexer) (token : Token) (behind : List Char) : Except ReadError Lexer := do
  let lexer ← lexer.noteKey
  return (lexer.allowKey false).emitTo token behind

def blockIndicator (lexer : Lexer) (start token : Token) (allowsKey : Bool) (behind : List Char) :
    Except ReadError Lexer :=
  if !lexer.inFlow && !lexer.keyAllowed then .error .malformed
  else do
    let lexer := if lexer.inFlow then lexer
      else lexer.startBlock lexer.cursor.column start lexer.tokens.length
    let lexer ← (lexer.allowKey allowsKey).forgetKey
    return lexer.emitTo token behind

/-- A colon. It makes a key of what was noted, or it follows a key with an indicator. -/
def valueIndicator (lexer : Lexer) (behind : List Char) : Except ReadError Lexer :=
  match lexer.keys.lookup lexer.flowDepth with
  | some key =>
    let lexer := { lexer with
      keys := lexer.keys.filter fun entry => entry.1 != lexer.flowDepth
      tokens := lexer.tokens.insertIdx key.place .key }
    let lexer :=
      if lexer.inFlow then lexer else lexer.startBlock key.column .blockMappingStart key.place
    .ok ((lexer.allowKey false).emitTo .value behind)
  | none => lexer.blockIndicator .blockMappingStart .value (!lexer.inFlow) behind

def openFlow (lexer : Lexer) (token : Token) (behind : List Char) : Except ReadError Lexer := do
  let lexer ← lexer.noteKey
  return { lexer with flowDepth := lexer.flowDepth + 1, keyAllowed := true }.emitTo token behind

def closeFlow (lexer : Lexer) (token : Token) (behind : List Char) : Except ReadError Lexer := do
  if lexer.inFlow then
    let lexer ← lexer.forgetKey
    return { lexer with flowDepth := lexer.flowDepth - 1, keyAllowed := false }.emitTo token behind
  else .error .malformed

def require {α : Type} (found : Option α) : Except ReadError α :=
  match found with
  | some a => .ok a
  | none => .error .malformed

def startsPlain (lexer : Lexer) (c : Char) (behind : List Char) : Bool :=
  !(isGap c || isBreak c || "-?:,[]\x7b\x7d#&*!|>'\"%@`".toList.contains c) ||
    (!endsWord behind && (c == '-' || (!lexer.inFlow && (c == '?' || c == ':'))))

def quoted (lexer : Lexer) (quote : Char) (text : List Char) : Except ReadError Lexer := do
  let (content, behind) ← quotedScalar quote text
  lexer.content (.scalar (String.ofList content) false) behind

def block (lexer : Lexer) (folded : Bool) (text : List Char) : Except ReadError Lexer := do
  let lexer ← (lexer.allowKey true).forgetKey
  let (content, behind) ← require (blockScalar folded lexer.leastIndent text)
  return lexer.emitTo (.scalar (String.ofList content) false) behind

def plain (lexer : Lexer) : Except ReadError Lexer := do
  let scalar := plainScalar lexer.inFlow lexer.leastIndent lexer.cursor.rest
  let lexer ← lexer.content (.scalar (String.ofList scalar.content) true) scalar.behind
  return lexer.allowKey scalar.brokeLine

def readToken (lexer : Lexer) (c : Char) (behind : List Char) : Except ReadError Lexer := do
  let text := c :: behind
  let atMargin := lexer.cursor.column == 0
  if atMargin && c == '%' then
    let lexer ← lexer.boundary
    let (token, behind) ← require (directive text)
    return lexer.emitTo token behind
  else if atMargin && isDocumentStart text then
    return (← lexer.boundary).emitTo .documentStart (text.drop 3)
  else if atMargin && isDocumentEnd text then
    return (← lexer.boundary).emitTo .documentEnd (text.drop 3)
  else match c with
    | '[' => lexer.openFlow .flowSequenceStart behind
    | '{' => lexer.openFlow .flowMappingStart behind
    | ']' => lexer.closeFlow .flowSequenceEnd behind
    | '}' => lexer.closeFlow .flowMappingEnd behind
    | ',' => return (← (lexer.allowKey true).forgetKey).emitTo .flowEntry behind
    | '*' =>
      let (name, behind) ← require (anchorName behind)
      lexer.content (.alias name) behind
    | '&' =>
      let (name, behind) ← require (anchorName behind)
      lexer.content (.anchor name) behind
    | '!' =>
      let (token, behind) ← require (tagToken text)
      lexer.content token behind
    | '\'' => lexer.quoted '\'' behind
    | '"' => lexer.quoted '"' behind
    | _ =>
      if c == '-' && endsWord behind then
        lexer.blockIndicator .blockSequenceStart .blockEntry true behind
      else if c == '?' && (lexer.inFlow || endsWord behind) then
        lexer.blockIndicator .blockMappingStart .key (!lexer.inFlow) behind
      else if c == ':' && (lexer.inFlow || endsWord behind) then lexer.valueIndicator behind
      else if c == '|' && !lexer.inFlow then lexer.block false behind
      else if c == '>' && !lexer.inFlow then lexer.block true behind
      else if lexer.startsPlain c behind then lexer.plain
      else .error .malformed

/-- How many tokens are settled: a reader that wants the one behind them has the text read on. A
token where a key may have started is not settled until it is known whether it is a key. -/
def settled (lexer : Lexer) : Nat :=
  lexer.keys.foldl (fun place entry =>
    if lexer.isStale entry.2 && !entry.2.isRequired then place else min place entry.2.place)
    lexer.tokens.length

def step (lexer : Lexer) : Except ReadError (Lexer × Bool) := do
  let lexer ← lexer.skip.forgetStale
  let lexer := lexer.unwind fun column => lexer.cursor.column < column
  match lexer.cursor.rest with
  | [] => return ((← lexer.boundary).emit .streamEnd, true)
  | c :: behind => return (← lexer.readToken c behind, false)

def run : Nat → Lexer → List Token
  | 0, lexer => lexer.tokens
  | fuel + 1, lexer => match lexer.step with
    | .error error => lexer.tokens.take lexer.settled ++ [.unreadable error]
    | .ok (lexer, true) => lexer.tokens
    | .ok (lexer, false) => run fuel lexer

end Lexer

def Token.ofText (text : List Char) : List Token :=
  if text.all isAllowed then (Lexer.start text).run (text.length + 1) else [.unreadable .malformed]

end EnumTables.Yaml
