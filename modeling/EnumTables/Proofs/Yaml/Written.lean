import EnumTables.Proofs.Yaml.Characters
import EnumTables.Proofs.Yaml.Lexing

/-!
# Tokens of a written mapping

What is written for a mapping of texts and lists of texts yields the tokens of its entries, one
after another (`ofText_mapping`). Each part leads the lexer from one line to the next: a key
(`Yields.key`), a text behind it (`Yields.text`), and the items of a list, each in a line of its own
(`Yields.items`).
-/

namespace EnumTables.Yaml

/-- A key that is written as it is: it starts with a letter, and is short enough to be a key. -/
structure IsKeyWord (word : List Char) : Prop where
  letter : word.head?.any Char.isAlpha = true
  solid : ∀ c ∈ word, (isGap c = false ∧ isBreak c = false) ∧ c ≠ ':'
  printable : IsPrintable word
  short : word.length ≤ 1024

def writtenToken (content : String) : Token :=
  .scalar content (ScalarStyle.ofText content.toList == .plain)

def Writer.Entry.tokens : Writer.Entry → List Token
  | .text content => [writtenToken content]
  | .list [] => [.flowSequenceStart, .flowSequenceEnd]
  | .list items => items.flatMap fun item => [.blockEntry, writtenToken item]

def entryTokens (entry : String × Writer.Entry) : List Token :=
  .key :: .scalar entry.1 true :: .value :: entry.2.tokens

/-! ## Lines -/

variable {behind : List Char}

def itemLines (items : List String) (below : List Char) : List Char :=
  items.foldr (fun item below => '-' :: (Writer.text 1 item ++ '\n' :: below)) below

theorem items_lines (items : List String) (below : List Char) :
    (items.flatMap fun item => '\n' :: '-' :: Writer.text 1 item) ++ '\n' :: below =
      '\n' :: itemLines items below := by
  induction items with
  | nil => rfl
  | cons item items ih => simp [itemLines, ih]

theorem startsToken_items (items : List String) (token : StartsToken behind) :
    StartsToken (itemLines items behind) := by
  cases items with
  | nil => exact token
  | cons item items => exact .cons (by decide) (by decide) _

def entryLines (entries : List (String × Writer.Entry)) : List Char :=
  entries.flatMap fun entry =>
    entry.1.toList ++ ':' :: (Writer.entry (entry.1.length + 1) entry.2 ++ ['\n'])

theorem entryLines_cons (entry : String × Writer.Entry) (entries : List (String × Writer.Entry)) :
    entryLines (entry :: entries) = entry.1.toList ++
      ':' :: (Writer.entry (entry.1.length + 1) entry.2 ++ '\n' :: entryLines entries) := by
  simp [entryLines]

theorem startsToken_entries (entries : List (String × Writer.Entry))
    (areKeys : ∀ entry ∈ entries, IsKeyWord entry.1.toList) : StartsToken (entryLines entries) := by
  cases entries with
  | nil => exact ⟨.inl rfl, by simp [entryLines]⟩
  | cons entry entries =>
    obtain ⟨letter, -, -, -⟩ := areKeys entry List.mem_cons_self
    rw [entryLines_cons]
    cases key : entry.1.toList with
    | nil =>
      rw [key] at letter
      cases letter
    | cons c rest =>
      rw [key] at letter
      exact .of_alpha (by simpa using letter) _

theorem insertIdx_length {α : Type} (front back : List α) (a : α) :
    (front ++ back).insertIdx front.length a = front ++ a :: back := by
  induction front with
  | nil => rfl
  | cons b front ih => simp [List.insertIdx_succ_cons, ih]

def opening (indents : List Nat) : List Token :=
  if indents.isEmpty then [.blockMappingStart] else []

namespace Lexer.Yields

variable {tokens whole : List Token} {index line column : Nat} {allowed : Bool}

/-! ## Texts -/

theorem text (content : String) (start : Nat) (token : StartsToken behind)
    (later : ∀ index line,
      Yields (atLine [0] index line behind (tokens ++ [writtenToken content])) whole) :
    Yields (inLine index line column (Writer.text start content ++ '\n' :: behind) allowed tokens)
      whole := by
  unfold Writer.text
  dsimp only
  rw [writtenToken, ← String.ofList_toList (s := content), String.toList_ofList] at later
  cases style : ScalarStyle.ofText content.toList with
  | plain =>
    have allows := ScalarStyle.of_plain style
    rw [String.ofList_toList] at allows
    have nonempty : content.toList ≠ [] := by
      intro none
      obtain rfl : content = "" := String.toList_eq_nil_iff.mp none
      exact absurd allows.1 (by decide)
    have isText := isPlainText_of_allowsPlain nonempty allows.2
    rw [style] at later
    exact .space (startsToken_written isText _ _)
      (.plain isText (Nat.succ_pos _) token _ later)
  | single =>
    rw [style] at later
    have reads := single_written (ScalarStyle.of_single style) (start + 2)
      (show ('\n' :: behind).head? ≠ some '\'' by simp)
    refine .space (.cons (by decide) (by decide) _)
      (.quoted (.inl rfl) ?_ (Nat.succ_pos _) token later)
    simpa using reads
  | double =>
    rw [style] at later
    have reads := double_reads content.toList (start + 2) ('\n' :: behind)
    refine .space (.cons (by decide) (by decide) _)
      (.quoted (.inr rfl) ?_ (Nat.succ_pos _) token later)
    simpa using reads

/-! ## Keys -/

theorem key {word : List Char} {indents : List Nat} (isKey : IsKeyWord word)
    (level : indents = [] ∨ indents = [0]) (ends : endsWord behind = true)
    (later : ∀ index line column, 0 < column → Yields (inLine index line column behind false
      (tokens ++ opening indents ++ [.key, .scalar (String.ofList word) true, .value])) whole) :
    Yields (atLine indents index line (word ++ ':' :: behind) tokens) whole := by
  have flat : ∀ column ∈ indents, column = 0 := by rcases level with rfl | rfl <;> simp
  obtain ⟨letter, solid, printable, short⟩ := isKey
  have noMark : byteOrderMark ∉ word := fun inside => absurd (printable _ inside) (by decide)
  have nonempty : word ≠ [] := by
    rintro rfl
    cases letter
  let scalar : Token := .scalar (String.ofList word) true
  let noted : PossibleKey := ⟨tokens.length, indents.head? == some 0, index, line, 0⟩
  let atColon : Lexer := ⟨⟨':' :: behind, index + word.length, line, word.length⟩,
    tokens ++ [scalar], 0, indents, false, [(0, noted)]⟩
  have colonStarts : StartsToken (':' :: behind) := .cons (by decide) (by decide) _
  have still : atColon.skip.forgetStale = .ok atColon := by
    rw [skip_token colonStarts]
    simp [forgetStale, isStale, atColon, noted, short]
  have atValue : atColon.readToken ':' behind = .ok (inLine (index + word.length + 1) line
      (word.length + 1) behind false (tokens ++ opening indents ++ [.key, scalar, .value])) := by
    have indicator : atColon.readToken ':' behind = atColon.valueIndicator behind := by
      simp [readToken, isDocumentStart, isDocumentEnd, ends]
    have moved := Cursor.goTo_cons (c := ':') (by decide) behind (index + word.length) line
      word.length
    rw [indicator, valueIndicator]
    rcases level with rfl | rfl <;>
      simp [atColon, noted, inFlow, startBlock, leastIndent, allowKey, emitTo, moved,
        insertIdx_length, opening, inLine]
  have readValue : Yields atColon whole :=
    .read still flat rfl atValue le_rfl (later _ _ _ (Nat.succ_pos _))
  obtain ⟨c, rest, rfl⟩ := List.exists_cons_of_ne_nil nonempty
  have isLetter : c.isAlpha = true := by simpa using letter
  let lexer := atLine indents index line (c :: rest ++ ':' :: behind) tokens
  have atKey : lexer.readToken c (rest ++ ':' :: behind) = .ok atColon := by
    have starts : lexer.startsPlain c (rest ++ ':' :: behind) = true := startsPlain_alpha isLetter _
    have inside (d : Char) (h : d ∈ c :: rest) : isBreak d = false ∧ d ≠ byteOrderMark :=
      ⟨(solid d h).1.2, fun same => noMark (same ▸ h)⟩
    have reached := Cursor.goTo_word inside (':' :: behind) index line 0
    rw [Nat.zero_add] at reached
    have content := content_noted lexer.cursor tokens indents scalar (':' :: behind)
    refine (readToken_plain (.inr isLetter) rfl starts).trans
      ((plain_eq_ok content (plainScalar_word nonempty solid ends _)).trans ?_)
    simpa [atColon, allowKey, lexer, atLine, noted] using reached
  refine .read (settled_of_token (.of_alpha isLetter _) rfl) flat rfl atKey ?_ readValue
  simp [atColon]

/-! ## Lists -/

theorem emptyList (token : StartsToken behind)
    (later : ∀ index line, Yields
      (atLine [0] index line behind (tokens ++ [.flowSequenceStart, .flowSequenceEnd])) whole) :
    Yields (inLine index line column (' ' :: '[' :: ']' :: '\n' :: behind) false tokens) whole := by
  let opened : Lexer := ⟨⟨']' :: '\n' :: behind, index + 1 + 1, line, column + 1 + 1⟩,
    tokens ++ [.flowSequenceStart], 1, [0], true, []⟩
  have atOpen : (inLine (index + 1) line (column + 1) ('[' :: ']' :: '\n' :: behind) false
      tokens).readToken '[' (']' :: '\n' :: behind) = .ok opened := by
    have moved := Cursor.goTo_cons (c := '[') (by decide) (']' :: '\n' :: behind) (index + 1) line
      (column + 1)
    simp [readToken, isDocumentStart, isDocumentEnd, openFlow, noteKey, emitTo, inLine, moved,
      opened, bind, Except.bind, pure, Except.pure]
  have atClose : opened.readToken ']' ('\n' :: behind) = .ok
      ⟨⟨'\n' :: behind, index + 1 + 1 + 1, line, column + 1 + 1 + 1⟩,
        tokens ++ [.flowSequenceStart] ++ [.flowSequenceEnd], 0, [0], false, []⟩ := by
    have moved := Cursor.goTo_cons (c := ']') (by decide) ('\n' :: behind) (index + 1 + 1) line
      (column + 1 + 1)
    simp [readToken, isDocumentStart, isDocumentEnd, closeFlow, inFlow, forgetKey, emitTo, moved,
      opened, bind, Except.bind, pure, Except.pure]
  refine .space (.cons (by decide) (by decide) _)
    (.read (settled_of_token (.cons (by decide) (by decide) _) rfl) (by simp [inLine]) rfl atOpen
      le_rfl (.read (settled_of_token (.cons (by decide) (by decide) _) rfl) (by simp [opened]) rfl
        atClose le_rfl (.newLine token (by simp) ?_)))
  simpa using later

theorem items (items : List String) (token : StartsToken behind)
    (later : ∀ index line, Yields (atLine [0] index line behind
      (tokens ++ items.flatMap fun item => [.blockEntry, writtenToken item])) whole) :
    Yields (atLine [0] index line (itemLines items behind) tokens) whole := by
  induction items generalizing tokens index line with
  | nil =>
    rw [List.flatMap_nil, List.append_nil] at later
    exact later index line
  | cons item items ih =>
    let below := itemLines items behind
    have atHyphen : (atLine [0] index line ('-' :: (Writer.text 1 item ++ '\n' :: below))
        tokens).readToken '-' (Writer.text 1 item ++ '\n' :: below) =
          .ok (inLine (index + 1) line 1 (Writer.text 1 item ++ '\n' :: below) true
            (tokens ++ [.blockEntry])) := by
      obtain ⟨written, spaced⟩ : ∃ written, Writer.text 1 item = ' ' :: written := ⟨_, rfl⟩
      rw [spaced]
      have moved := Cursor.goTo_cons (c := '-') (by decide) (' ' :: (written ++ '\n' :: below))
        index line 0
      simp [readToken, isDocumentStart, isDocumentEnd, endsWord, isGap, blockIndicator, atLine,
        inFlow, startBlock, leastIndent, allowKey, forgetKey, emitTo, inLine, moved, bind,
        Except.bind, pure, Except.pure]
    refine .read (settled_of_token (.cons (by decide) (by decide) _) rfl) (by simp [atLine]) rfl
      atHyphen le_rfl (.text item 1 (startsToken_items items token) fun index line => ih ?_)
    simpa using later

/-! ## Entries -/

theorem entry {indents : List Nat} (key : String) (value : Writer.Entry)
    (isKey : IsKeyWord key.toList) (level : indents = [] ∨ indents = [0]) (start : Nat)
    (token : StartsToken behind)
    (later : ∀ index line, Yields (atLine [0] index line behind
      (tokens ++ opening indents ++ entryTokens (key, value))) whole) :
    Yields (atLine indents index line
      (key.toList ++ ':' :: (Writer.entry start value ++ '\n' :: behind)) tokens) whole := by
  have same : String.ofList key.toList = key := String.ofList_toList
  cases value with
  | text content =>
    refine .key isKey level rfl fun index line column deeper => .text content start token ?_
    simpa [entryTokens, Writer.Entry.tokens, same] using later
  | list items =>
    cases items with
    | nil =>
      refine .key isKey level rfl fun index line column deeper => .emptyList token ?_
      simpa [entryTokens, Writer.Entry.tokens, same] using later
    | cons item items =>
      rw [Writer.entry, items_lines]
      · refine .key isKey level rfl fun index line column deeper =>
          .newLine (startsToken_items _ token) (by simp) fun index line =>
            .items (item :: items) token ?_
        simpa [entryTokens, Writer.Entry.tokens, same] using later
      · simp

theorem entries (entries : List (String × Writer.Entry))
    (areKeys : ∀ entry ∈ entries, IsKeyWord entry.1.toList) :
    Yields (atLine [0] index line (entryLines entries) tokens)
      (tokens ++ entries.flatMap entryTokens ++ [.blockEnd, .streamEnd]) := by
  induction entries generalizing tokens index line with
  | nil =>
    have last : (atLine [0] index line [] tokens).step = .ok (Lexer.mk ⟨[], index, line, 0⟩
        (tokens ++ [.blockEnd, .streamEnd]) 0 [] false [], true) := by
      rw [Lexer.step, settled_of_token ⟨.inl rfl, by simp [atLine]⟩ rfl]
      simp [atLine, bind, Except.bind, pure, Except.pure, unwind, inFlow, closeBlocks, boundary,
        forgetKey, allowKey, emit]
    rw [List.flatMap_nil, List.append_nil]
    exact .stop last
  | cons first entries ih =>
    have others : ∀ entry ∈ entries, IsKeyWord entry.1.toList :=
      fun entry inside => areKeys entry (List.mem_cons_of_mem _ inside)
    have same : tokens ++ (first :: entries).flatMap entryTokens ++ [.blockEnd, .streamEnd] =
        tokens ++ opening [0] ++ entryTokens first ++ entries.flatMap entryTokens ++
          [.blockEnd, .streamEnd] := by simp [opening]
    rw [same, entryLines_cons]
    exact .entry first.1 first.2 (areKeys first List.mem_cons_self) (.inr rfl) _
      (startsToken_entries entries others) fun index line => ih others

end Lexer.Yields

def mappingTokens (entries : List (String × Writer.Entry)) : List Token :=
  .blockMappingStart :: entries.flatMap entryTokens ++ [.blockEnd, .streamEnd]

/-- Lines of comments; a line feed follows. -/
inductive IsComment : List Char → Prop
  | line {line : List Char} (noBreak : ∀ c ∈ line, isBreak c = false) : IsComment ('#' :: line)
  | cons {line rest : List Char} (noBreak : ∀ c ∈ line, isBreak c = false)
      (others : IsComment rest) : IsComment ('#' :: (line ++ '\n' :: rest))

theorem IsComment.skipped {head text : List Char} (comment : IsComment head)
    (token : StartsToken text) : skipGaps false (head ++ '\n' :: text) = (true, text) := by
  have hash (rest : List Char) : skipGaps false ('#' :: rest) = skipGaps true rest := by
    rw [skipGaps, if_neg (by decide), if_neg (by decide), if_neg (by decide), if_pos rfl]
  induction comment with
  | line noBreak => rw [List.cons_append, hash, skipGaps_comment noBreak, skipGaps_token token]
  | cons noBreak others ih =>
    rw [List.cons_append, hash, List.append_assoc, List.cons_append, skipGaps_comment noBreak, ih]

theorem IsComment.start {head : List Char} (comment : IsComment head) (text : List Char) :
    Lexer.start (head ++ '\n' :: text) = .atLine [] 0 0 (head ++ '\n' :: text) [] := by
  cases comment <;> rfl

theorem yields_mapping {head : List Char} (comment : IsComment head)
    {entries : List (String × Writer.Entry)} (nonempty : entries ≠ [])
    (areKeys : ∀ entry ∈ entries, IsKeyWord entry.1.toList) :
    (Lexer.start (head ++ '\n' :: entryLines entries)).Yields (mappingTokens entries) := by
  cases entries with
  | nil => exact absurd rfl nonempty
  | cons first entries =>
    have others : ∀ entry ∈ entries, IsKeyWord entry.1.toList :=
      fun entry inside => areKeys entry (List.mem_cons_of_mem _ inside)
    have token := startsToken_entries (first :: entries) areKeys
    have same : mappingTokens (first :: entries) =
        [] ++ opening [] ++ entryTokens first ++ entries.flatMap entryTokens ++
          [.blockEnd, .streamEnd] := by simp [mappingTokens, opening]
    rw [comment.start, same]
    refine .gaps head (comment.skipped token) token (by simp) fun index line => ?_
    rw [entryLines_cons]
    exact .entry first.1 first.2 (areKeys first List.mem_cons_self) (.inl rfl) _
      (startsToken_entries entries others) fun index line => .entries entries others

theorem ofText_mapping {head : List Char} (comment : IsComment head)
    {entries : List (String × Writer.Entry)} (nonempty : entries ≠ [])
    (areKeys : ∀ entry ∈ entries, IsKeyWord entry.1.toList)
    (allowed : (head ++ '\n' :: entryLines entries).all isAllowed = true) :
    Token.ofText (head ++ '\n' :: entryLines entries) = mappingTokens entries := by
  rw [Token.ofText, if_pos allowed]
  refine (yields_mapping comment nonempty areKeys).run _ ?_
  rw [comment.start]
  exact Nat.lt_succ_self _

end EnumTables.Yaml
