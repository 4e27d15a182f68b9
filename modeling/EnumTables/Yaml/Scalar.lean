import EnumTables.Yaml.Character
import EnumTables.Yaml.Error

/-!
Scalars in YAML text: plain text, text between quotes, and blocks of lines. Each reader takes the
text from the start of the scalar on and gives the content and the text behind it. Lines are folded:
one line break inside a scalar stands for a space, and of several all but the first are kept.
-/

namespace EnumTables.Yaml

/-- What line breaks between two words stand for: the first break and those behind it. -/
def foldBreaks (first : Char) (others : List Char) : List Char :=
  if breakText first ≠ '\n' then breakText first :: others
  else if others.isEmpty then [' ']
  else others

/-! ## Plain text -/

def endsAtColon (inFlow : Bool) (behind : List Char) : Bool :=
  endsWord behind || (inFlow && behind.head?.any fun c => ",[]\x7b\x7d".toList.contains c)

def plainRun (inFlow : Bool) : List Char → List Char
  | [] => []
  | c :: rest =>
    if isGap c || isBreak c || (c == ':' && endsAtColon inFlow rest) ||
      (inFlow && ",?[]\x7b\x7d".toList.contains c) then []
    else c :: plainRun inFlow rest

/-- Empty lines and the spaces in front of the next word: the line breaks, the column of the word,
and the text from it on. `column` is where the text starts. -/
def emptyLines : Nat → List Char → List Char × Nat × List Char
  | column, [] => ([], column, [])
  | column, c :: rest =>
    if c = ' ' then emptyLines (column + 1) rest
    else if isBreak c then
      let (breaks, reached, behind) := emptyLines 0 rest
      (breakText c :: breaks, reached, behind)
    else ([], column, c :: rest)

structure PlainGap where
  text : List Char
  column : Option Nat
  behind : List Char

def plainGap (text : List Char) : PlainGap :=
  match text.dropWhile (· == ' ') with
  | [] => ⟨text, none, []⟩
  | c :: rest =>
    if isBreak c then
      let (breaks, column, behind) := emptyLines 0 rest
      ⟨foldBreaks c breaks, some column, behind⟩
    else ⟨text.takeWhile (· == ' '), none, c :: rest⟩

namespace PlainGap

/-- The scalar ends in front of the gap: there is none, the next line starts or ends a document or
is indented less than `least`, or a comment follows. -/
def endsScalar (gap : PlainGap) (inFlow : Bool) (least : Nat) : Bool :=
  gap.text.isEmpty || gap.behind.head? == some '#' ||
    gap.column.any fun column =>
      (column == 0 && isMarker gap.behind) || (!inFlow && column < least)

end PlainGap

structure Plain where
  content : List Char
  behind : List Char
  brokeLine : Bool

/-- Reads words and gaps; there are at most as many as characters. -/
def plainWords (inFlow : Bool) (least : Nat) : Nat → List Char → Plain
  | 0, text => ⟨[], text, false⟩
  | fuel + 1, text =>
    let run := plainRun inFlow text
    let gap := plainGap (text.drop run.length)
    if run.isEmpty then ⟨[], text, false⟩
    else if gap.endsScalar inFlow least then ⟨run, gap.behind, gap.column.isSome⟩
    else
      let others := plainWords inFlow least fuel gap.behind
      if others.content.isEmpty then ⟨run, others.behind, gap.column.isSome⟩
      else ⟨run ++ gap.text ++ others.content, others.behind, others.brokeLine⟩

/-- Reads plain text. Lines inside it are indented by at least `least`, except in flow
collections. -/
def plainScalar (inFlow : Bool) (least : Nat) (text : List Char) : Plain :=
  plainWords inFlow least (text.length + 1) text

/-! ## Text between quotes -/

def escapeText? : Char → Option Char
  | '0' => some '\x00'
  | 'a' => some '\x07'
  | 'b' => some '\x08'
  | 't' => some '\t'
  | '\t' => some '\t'
  | 'n' => some '\n'
  | 'v' => some '\x0B'
  | 'f' => some '\x0C'
  | 'r' => some '\r'
  | 'e' => some '\x1B'
  | ' ' => some ' '
  | '"' => some '"'
  | '\\' => some '\\'
  | '/' => some '/'
  | 'N' => some '\u0085'
  | '_' => some '\u00A0'
  | 'L' => some '\u2028'
  | 'P' => some '\u2029'
  | _ => none

def escapeWidth? : Char → Option Nat
  | 'x' => some 2
  | 'u' => some 4
  | 'U' => some 8
  | _ => none

def characterOf (code : Nat) : Except ReadError Char :=
  if 0x110000 ≤ code then
    if code < 0x80000000 then .error (.exception (.valueError "chr() arg not in range(0x110000)"))
    else .error (.exception ⟨"OverflowError", "Python int too large to convert to C int"⟩)
  else .ok (Char.ofNat code)

/-- Line breaks with gaps between them: the breaks and the text behind, unless a document starts
or ends in between. `atStart` says that the text starts a line. -/
def quotedBreaks (atStart : Bool) : List Char → Option (List Char × List Char)
  | [] => some ([], [])
  | c :: rest =>
    if atStart && isMarker (c :: rest) then none
    else if isGap c then quotedBreaks false rest
    else if isBreak c then
      (quotedBreaks true rest).map fun (breaks, behind) => (breakText c :: breaks, behind)
    else some ([], c :: rest)

inductive QuotedPiece where
  | content (text behind : List Char)
  | close (behind : List Char)

def quotedGap (text : List Char) : Except ReadError QuotedPiece :=
  match text.dropWhile isGap with
  | [] => .error .malformed
  | c :: rest =>
    if isBreak c then match quotedBreaks true rest with
      | none => .error .malformed
      | some (breaks, behind) => .ok (.content (foldBreaks c breaks) behind)
    else .ok (.content (text.takeWhile isGap) (c :: rest))

def quotedEscape : List Char → Except ReadError QuotedPiece
  | [] => .error .malformed
  | c :: rest => match escapeText? c, escapeWidth? c with
    | some escaped, _ => .ok (.content [escaped] rest)
    | none, some width =>
      if (rest.take width).length < width then .error .malformed
      else match hexNumber? (rest.take width) with
        | none => .error .malformed
        | some code => do return .content [← characterOf code] (rest.drop width)
    | none, none =>
      if isBreak c then match quotedBreaks true rest with
        | none => .error .malformed
        | some (breaks, behind) => .ok (.content breaks behind)
      else .error .malformed

/-- Reads the next piece. Only double quotes know escapes; a single quote is written twice. -/
def quotedPiece (quote : Char) : List Char → Except ReadError QuotedPiece
  | [] => .error .malformed
  | c :: rest =>
    if c = quote then
      if c = '\'' && rest.head? == some '\'' then .ok (.content ['\''] (rest.drop 1))
      else .ok (.close rest)
    else if isGap c || isBreak c then quotedGap (c :: rest)
    else if c = '\\' && quote = '"' then quotedEscape rest
    else .ok (.content [c] rest)

def quotedPieces (quote : Char) : Nat → List Char → Except ReadError (List Char × List Char)
  | 0, _ => .error .malformed
  | fuel + 1, text => do
    match ← quotedPiece quote text with
    | .close behind => return ([], behind)
    | .content piece behind =>
      let (others, behind) ← quotedPieces quote fuel behind
      return (piece ++ others, behind)

def quotedScalar (quote : Char) (text : List Char) : Except ReadError (List Char × List Char) :=
  quotedPieces quote (text.length + 1) text

/-! ## Blocks of lines -/

inductive Chomping where
  | none
  | one
  | all
  deriving DecidableEq

structure BlockHead where
  chomping : Chomping
  indent : Option Nat
  behind : List Char

def chomping? : Char → Option Chomping
  | '+' => some .all
  | '-' => some .none
  | _ => none

def indentDigit? (c : Char) : Option Nat :=
  if c.isDigit && c != '0' then some (c.toNat - 48) else none

def blockIndicators (text : List Char) : BlockHead :=
  let chomped (chomping : Option Chomping) : Chomping := chomping.getD .one
  match text with
  | [] => ⟨.one, none, []⟩
  | c :: rest => match chomping? c, indentDigit? c with
    | some chomping, _ => match rest.head?.bind indentDigit? with
      | some indent => ⟨chomping, some indent, rest.drop 1⟩
      | none => ⟨chomping, none, rest⟩
    | none, some indent =>
      let second := rest.head?.bind chomping?
      ⟨chomped second, some indent, if second.isSome then rest.drop 1 else rest⟩
    | none, none => ⟨.one, none, c :: rest⟩

def dropLineEnd (text : List Char) : Option (List Char) :=
  let text := text.dropWhile (· == ' ')
  let text := if text.head? == some '#' then text.dropWhile fun c => !isBreak c else text
  if endsLine text then some (dropBreak text) else none

def blockHead? (text : List Char) : Option BlockHead :=
  let head := blockIndicators text
  if endsField head.behind then
    (dropLineEnd head.behind).map fun behind => { head with behind := behind }
  else none

def blockBreaks (limit : Nat) : Nat → List Char → List Char × Nat × List Char
  | column, [] => ([], column, [])
  | column, c :: rest =>
    if c = ' ' && column < limit then blockBreaks limit (column + 1) rest
    else if isBreak c then
      let (breaks, reached, behind) := blockBreaks limit 0 rest
      (breakText c :: breaks, reached, behind)
    else ([], column, c :: rest)

/-- Empty lines with any number of spaces: the breaks, the greatest column, the column reached. -/
def blockStart : Nat → List Char → List Char × Nat × Nat × List Char
  | column, [] => ([], column, column, [])
  | column, c :: rest =>
    if c = ' ' then
      let (breaks, deepest, reached, behind) := blockStart (column + 1) rest
      (breaks, max deepest (column + 1), reached, behind)
    else if isBreak c then
      let (breaks, deepest, reached, behind) := blockStart 0 rest
      (breakText c :: breaks, max deepest column, reached, behind)
    else ([], column, column, c :: rest)

/-- What a line break between two lines of a block stands for. Lines of folded blocks are joined
unless one of them starts with a gap. -/
def blockJoin (folded : Bool) (lineBreak : List Char) (line next breaks : List Char) : List Char :=
  let flush (text : List Char) : Bool := !text.head?.any isGap
  if folded && lineBreak == ['\n'] && flush line && flush next then
    if breaks.isEmpty then [' '] else []
  else lineBreak

def chompedBreaks (chomping : Chomping) (last breaks : List Char) : List Char :=
  match chomping with
  | .none => []
  | .one => last
  | .all => last ++ breaks

/-- Reads lines that are indented by `indent`; `breaks` are the line breaks before the first. -/
def blockLines (folded : Bool) (chomping : Chomping) (indent : Nat) :
    Nat → List Char → List Char → List Char × List Char
  | 0, breaks, text => (breaks, text)
  | fuel + 1, breaks, text =>
    let line := text.takeWhile fun c => !isBreak c
    let behind := text.dropWhile fun c => !isBreak c
    let lineBreak := (behind.take 1).map breakText
    let (others, column, behind) := blockBreaks indent 0 (dropBreak behind)
    if column = indent && !behind.isEmpty then
      let (content, behind') := blockLines folded chomping indent fuel others behind
      (breaks ++ line ++ blockJoin folded lineBreak line behind others ++ content, behind')
    else (breaks ++ line ++ chompedBreaks chomping lineBreak others, behind)

/-- Reads a block from behind its indicator. Its lines are indented by at least `least`. -/
def blockScalar (folded : Bool) (least : Nat) (text : List Char) :
    Option (List Char × List Char) := do
  let head ← blockHead? text
  let least := max least 1
  let (breaks, indent, column, behind) := match head.indent with
    | some given =>
      let indent := least + given - 1
      let (breaks, column, behind) := blockBreaks indent 0 head.behind
      (breaks, indent, column, behind)
    | none =>
      let (breaks, deepest, column, behind) := blockStart 0 head.behind
      (breaks, max least deepest, column, behind)
  if column = indent && !behind.isEmpty then
    return blockLines folded head.chomping indent (behind.length + 1) breaks behind
  else return (chompedBreaks head.chomping [] breaks, behind)

end EnumTables.Yaml
