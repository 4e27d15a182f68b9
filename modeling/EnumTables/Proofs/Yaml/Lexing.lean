import EnumTables.Proofs.Yaml.Plain
import EnumTables.Yaml.Token

/-!
# Tokens of written text

A lexer yields tokens if its run over the text ends with them. What is written for a mapping of
texts and lists of texts is followed part by part: the lexer stands at the start of a line
(`Lexer.atLine`) or behind an indicator in it (`Lexer.inLine`), and each part leads it to the next
such place with the tokens of the part (`yields_key`, `yields_text`, `yields_value`). So the text of
a mapping yields the tokens of its entries (`yields_mapping`).
-/

namespace EnumTables.Yaml

/-! ## Places -/

namespace Cursor

theorem advance_cons (c : Char) (rest : List Char) (index line column count : Nat) :
    (Cursor.mk (c :: rest) index line column).advance (count + 1) =
      ((Cursor.mk (c :: rest) index line column).pass c rest).advance count :=
  rfl

theorem advance_add (cursor : Cursor) (first second : Nat) :
    cursor.advance (first + second) = (cursor.advance first).advance second := by
  induction first generalizing cursor with
  | zero => rw [Nat.zero_add, advance]
  | succ first ih =>
    obtain ⟨rest, index, line, column⟩ := cursor
    cases rest with
    | nil =>
      have still (count : Nat) :
          (Cursor.mk [] index line column).advance count = ⟨[], index, line, column⟩ := by
        cases count <;> rfl
      simp only [still]
    | cons c rest => rw [Nat.add_right_comm, advance_cons, advance_cons, ih]

theorem goTo_append (before rest : List Char) (index line column : Nat) :
    (Cursor.mk (before ++ rest) index line column).goTo rest =
      (Cursor.mk (before ++ rest) index line column).advance before.length := by
  rw [goTo, List.length_append, Nat.add_sub_cancel]

theorem goTo_line (before rest : List Char) (index line column : Nat) :
    ∃ line' column', line ≤ line' ∧ (Cursor.mk (before ++ rest) index line column).goTo rest =
      ⟨rest, index + before.length, line', column'⟩ := by
  rw [goTo_append]
  induction before generalizing index line column with
  | nil => exact ⟨line, column, le_rfl, rfl⟩
  | cons c before ih =>
    obtain ⟨line₁, column₁, atLeast, passed⟩ : ∃ line₁ column₁, line ≤ line₁ ∧
        (Cursor.mk (c :: (before ++ rest)) index line column).pass c (before ++ rest) =
          ⟨before ++ rest, index + 1, line₁, column₁⟩ := by
      unfold pass
      split
      · exact ⟨line + 1, 0, Nat.le_succ _, rfl⟩
      · split
        · exact ⟨line, column, le_rfl, rfl⟩
        · exact ⟨line, column + 1, le_rfl, rfl⟩
    obtain ⟨line₂, column₂, further, reached⟩ := ih (index + 1) line₁ column₁
    refine ⟨line₂, column₂, atLeast.trans further, ?_⟩
    rw [List.cons_append, List.length_cons, advance_cons, passed, reached, Nat.add_right_comm,
      Nat.add_assoc]

theorem goTo_word {before : List Char}
    (inside : ∀ c ∈ before, isBreak c = false ∧ c ≠ byteOrderMark) (rest : List Char)
    (index line column : Nat) :
    (Cursor.mk (before ++ rest) index line column).goTo rest =
      ⟨rest, index + before.length, line, column + before.length⟩ := by
  rw [goTo_append]
  induction before generalizing index column with
  | nil => rfl
  | cons c before ih =>
    obtain ⟨noBreak, noMark⟩ := inside c List.mem_cons_self
    have passed : (Cursor.mk (c :: (before ++ rest)) index line column).pass c (before ++ rest) =
        ⟨before ++ rest, index + 1, line, column + 1⟩ := by
      rw [pass, if_neg (by simp [noBreak]), if_neg noMark]
    rw [List.cons_append, List.length_cons, advance_cons, passed,
      ih (fun d member => inside d (List.mem_cons_of_mem _ member)), Nat.add_right_comm,
      Nat.add_assoc, Nat.add_right_comm, Nat.add_assoc]

theorem goTo_cons {c : Char} (inside : isBreak c = false ∧ c ≠ byteOrderMark) (rest : List Char)
    (index line column : Nat) :
    (Cursor.mk (c :: rest) index line column).goTo rest =
      ⟨rest, index + 1, line, column + 1⟩ := by
  have single : ∀ d ∈ [c], isBreak d = false ∧ d ≠ byteOrderMark := by
    intro d same
    rwa [List.mem_singleton.mp same]
  exact goTo_word single rest index line column

theorem goTo_newLine (before rest : List Char) (index line column : Nat) :
    ∃ index' line', line < line' ∧
      (Cursor.mk (before ++ '\n' :: rest) index line column).goTo rest =
        ⟨rest, index', line', 0⟩ := by
  obtain ⟨line', column', atLeast, reached⟩ := goTo_line before ('\n' :: rest) index line column
  refine ⟨index + before.length + 1, line' + 1, Nat.lt_succ_of_le atLeast, ?_⟩
  have length : (before ++ '\n' :: rest).length - rest.length = before.length + 1 := by simp; omega
  rw [goTo, length, advance_add, ← goTo_append, reached]
  rfl

end Cursor

/-! ## Gaps -/

def StartsToken (text : List Char) : Prop :=
  StartsLine text ∧ text.head? ≠ some '#'

theorem StartsToken.cons {c : Char} (word : isGap c = false ∧ isBreak c = false)
    (noComment : c ≠ '#') (rest : List Char) : StartsToken (c :: rest) :=
  ⟨.inr word, fun same => noComment (Option.some.inj same)⟩

theorem StartsToken.of_alpha {c : Char} (letter : c.isAlpha = true) (rest : List Char) :
    StartsToken (c :: rest) := by
  have other (d : Char) (h : d.isAlpha = false) : c ≠ d := by
    rintro rfl
    rw [letter] at h
    cases h
  refine .cons ⟨?_, ?_⟩ (other _ (by decide)) rest
  · simp [isGap, other ' ' (by decide), other '\t' (by decide)]
  · simp [isBreak, other '\n' (by decide), other '\u0085' (by decide),
      other '\u2028' (by decide), other '\u2029' (by decide)]

theorem skipGaps_token {text : List Char} (token : StartsToken text) :
    skipGaps false text = (false, text) := by
  obtain ⟨rfl | word, noComment⟩ := token
  · rfl
  · cases text with
    | nil => rfl
    | cons c rest =>
      have noSpace : c ≠ ' ' := by
        rintro rfl
        exact absurd word.1 (by decide)
      have noHash : c ≠ '#' := by simpa using noComment
      simp [skipGaps, word.2, noSpace, noHash]

theorem skipGaps_space {text : List Char} (token : StartsToken text) :
    skipGaps false (' ' :: text) = (false, text) := by
  rw [skipGaps, if_neg (by decide), if_neg (by decide), if_pos rfl, skipGaps_token token]

theorem skipGaps_newLine {text : List Char} (token : StartsToken text) :
    skipGaps false ('\n' :: text) = (true, text) := by
  rw [skipGaps, if_pos (by decide), skipGaps_token token]

theorem skipGaps_comment {line text : List Char} (noBreak : ∀ c ∈ line, isBreak c = false) :
    skipGaps true (line ++ '\n' :: text) = (true, (skipGaps false text).2) := by
  induction line with
  | nil => rw [List.nil_append, skipGaps, if_pos (by decide)]
  | cons c line ih =>
    rw [List.cons_append, skipGaps, if_neg (by simp [noBreak c List.mem_cons_self]), if_pos rfl]
    exact ih fun d inside => noBreak d (List.mem_cons_of_mem _ inside)

namespace Lexer

variable {lexer ready next : Lexer} {tokens whole : List Token} {text behind : List Char}
  {indents : List Nat}

/-! ## Runs -/

/-- The run of a lexer ends with some tokens, and each step on the way passes over a character. -/
inductive Yields : Lexer → List Token → Prop
  | stop {lexer last : Lexer} (h : lexer.step = .ok (last, true)) : Yields lexer last.tokens
  | step {lexer next : Lexer} {whole : List Token} (h : lexer.step = .ok (next, false))
      (shorter : next.cursor.rest.length < lexer.cursor.rest.length) (later : Yields next whole) :
      Yields lexer whole

theorem Yields.run (h : Yields lexer whole) (turns : Nat)
    (enough : lexer.cursor.rest.length < turns) : lexer.run turns = whole := by
  induction h generalizing turns with
  | stop h =>
    cases turns with
    | zero => exact absurd enough (Nat.not_lt_zero _)
    | succ turns => rw [Lexer.run, h]
  | step h shorter later ih =>
    cases turns with
    | zero => exact absurd enough (Nat.not_lt_zero _)
    | succ turns =>
      rw [Lexer.run, h]
      exact ih turns (by omega)

theorem Yields.settle (skipped : lexer.skip.forgetStale = .ok ready)
    (still : ready.skip.forgetStale = .ok ready)
    (noLonger : ready.cursor.rest.length ≤ lexer.cursor.rest.length)
    (h : Yields ready whole) : Yields lexer whole := by
  have same : lexer.step = ready.step := by rw [Lexer.step, Lexer.step, skipped, still]
  cases h with
  | stop h => exact .stop (same.trans h)
  | step h shorter later => exact .step (same.trans h) (shorter.trans_le noLonger) later

theorem unwind_level (level : ∀ column ∈ lexer.indents, column = 0) :
    (lexer.unwind fun column => lexer.cursor.column < column) = lexer := by
  unfold unwind
  split
  · rfl
  · cases found : lexer.indents with
    | nil => simp [closeBlocks, ← found]
    | cons column rest =>
      obtain rfl : column = 0 := level column (by simp [found])
      simp [closeBlocks, ← found]

theorem Yields.read {c : Char} (still : lexer.skip.forgetStale = .ok lexer)
    (level : ∀ column ∈ lexer.indents, column = 0) (rest : lexer.cursor.rest = c :: behind)
    (read : lexer.readToken c behind = .ok next)
    (shorter : next.cursor.rest.length ≤ behind.length) (later : Yields next whole) :
    Yields lexer whole := by
  refine .step ?_ (by rw [rest]; exact Nat.lt_succ_of_le shorter) later
  rw [Lexer.step, still]
  simp only [bind, Except.bind, unwind_level level, rest, read]
  rfl

/-! ## States between tokens -/

/-- At the start of a line, where nothing is open that may become a key. -/
def atLine (indents : List Nat) (index line : Nat) (text : List Char) (tokens : List Token) :
    Lexer :=
  ⟨⟨text, index, line, 0⟩, tokens, 0, indents, true, []⟩

def inLine (index line column : Nat) (text : List Char) (allowed : Bool) (tokens : List Token) :
    Lexer :=
  ⟨⟨text, index, line, column⟩, tokens, 0, [0], allowed, []⟩

theorem skip_token (token : StartsToken lexer.cursor.rest) : lexer.skip = lexer := by
  have here : lexer.cursor.goTo lexer.cursor.rest = lexer.cursor := by
    rw [Cursor.goTo, Nat.sub_self, Cursor.advance]
  rw [skip, skipGaps_token token]
  simp only [here, Bool.false_and, Bool.or_false]

theorem forgetStale_of_nil (none : lexer.keys = []) : lexer.forgetStale = .ok lexer := by
  obtain ⟨cursor, tokens, depth, indents, allowed, keys⟩ := lexer
  cases none
  rfl

theorem settled_of_token (token : StartsToken lexer.cursor.rest) (none : lexer.keys = []) :
    lexer.skip.forgetStale = .ok lexer := by
  rw [skip_token token, forgetStale_of_nil none]

def AreStale (line : Nat) (keys : List (Nat × PossibleKey)) : Prop :=
  ∀ entry ∈ keys, entry.2.isRequired = false ∧ entry.2.line < line

theorem forgetStale_of_stale {cursor : Cursor} {depth : Nat} {allowed : Bool}
    {keys : List (Nat × PossibleKey)} (stale : AreStale cursor.line keys) :
    (Lexer.mk cursor tokens depth indents allowed keys).forgetStale =
      .ok ⟨cursor, tokens, depth, indents, allowed, []⟩ := by
  have noneRequired : (keys.any fun entry =>
      isStale ⟨cursor, tokens, depth, indents, allowed, keys⟩ entry.2 && entry.2.isRequired) =
        false := by
    rw [List.any_eq_false]
    intro entry inside
    simp [(stale entry inside).1]
  have noneLeft : (keys.filter fun entry =>
      !isStale ⟨cursor, tokens, depth, indents, allowed, keys⟩ entry.2) = [] := by
    rw [List.filter_eq_nil_iff]
    intro entry inside
    simp [isStale, (stale entry inside).2.ne]
  rw [forgetStale, if_neg (by simp [noneRequired])]
  simp only [noneLeft]

theorem Yields.forget {index line : Nat} {keys : List (Nat × PossibleKey)}
    (token : StartsToken text) (stale : AreStale line keys)
    (later : Yields (atLine indents index line text tokens) whole) :
    Yields ⟨⟨text, index, line, 0⟩, tokens, 0, indents, true, keys⟩ whole := by
  refine Yields.settle ?_ (settled_of_token token rfl) ?_ later
  · rw [skip_token token]
    exact forgetStale_of_stale stale
  · exact le_rfl

theorem Yields.gaps (gap : List Char) {index line column : Nat} {allowed : Bool}
    {keys : List (Nat × PossibleKey)} (skips : skipGaps false (gap ++ '\n' :: text) = (true, text))
    (token : StartsToken text)
    (stale : ∀ entry ∈ keys, entry.2.isRequired = false ∧ entry.2.line ≤ line)
    (later : ∀ index line, Yields (atLine indents index line text tokens) whole) :
    Yields ⟨⟨gap ++ '\n' :: text, index, line, column⟩, tokens, 0, indents, allowed, keys⟩
      whole := by
  obtain ⟨index', line', below, reached⟩ := Cursor.goTo_newLine gap text index line column
  have skipped : (Lexer.mk ⟨gap ++ '\n' :: text, index, line, column⟩ tokens 0 indents allowed
      keys).skip = ⟨⟨text, index', line', 0⟩, tokens, 0, indents, true, keys⟩ := by
    simp [skip, skips, reached, inFlow]
  have forgotten : (Lexer.mk ⟨text, index', line', 0⟩ tokens 0 indents true keys).forgetStale =
      .ok (atLine indents index' line' text tokens) :=
    forgetStale_of_stale fun entry inside =>
      ⟨(stale entry inside).1, (stale entry inside).2.trans_lt below⟩
  refine Yields.settle (by rw [skipped, forgotten]) (settled_of_token token rfl) ?_ (later _ _)
  simp [atLine]
  omega

theorem Yields.newLine {index line column : Nat} {allowed : Bool} {keys : List (Nat × PossibleKey)}
    (token : StartsToken text)
    (stale : ∀ entry ∈ keys, entry.2.isRequired = false ∧ entry.2.line ≤ line)
    (later : ∀ index line, Yields (atLine indents index line text tokens) whole) :
    Yields ⟨⟨'\n' :: text, index, line, column⟩, tokens, 0, indents, allowed, keys⟩ whole :=
  .gaps [] (skipGaps_newLine token) token stale later

theorem Yields.space {index line column : Nat} {allowed : Bool} (token : StartsToken text)
    (later : Yields (inLine (index + 1) line (column + 1) text allowed tokens) whole) :
    Yields (inLine index line column (' ' :: text) allowed tokens) whole := by
  refine Yields.settle ?_ (settled_of_token token rfl) (Nat.le_succ _) later
  rw [inLine, skip, skipGaps_space token]
  simp only [Cursor.goTo_cons (c := ' ') (by decide), Bool.false_and, Bool.or_false]
  exact forgetStale_of_nil rfl

/-! ## Scalars -/

theorem readToken_plain {c : Char} (noMargin : lexer.cursor.column ≠ 0 ∨ c.isAlpha = true)
    (block : lexer.inFlow = false) (starts : lexer.startsPlain c behind = true) :
    lexer.readToken c behind = lexer.plain := by
  have other (d : Char) (h : lexer.startsPlain d behind = false) : c ≠ d := by
    rintro rfl
    rw [h] at starts
    cases starts
  have never : ∀ d ∈ "[]\x7b\x7d,*&!'\"|>%".toList, c ≠ d := by
    have special : ∀ d ∈ "[]\x7b\x7d,*&!'\"|>%".toList, d ≠ '-' ∧ d ≠ '?' ∧ d ≠ ':' ∧
        "-?:,[]\x7b\x7d#&*!|>'\"%@`".toList.contains d = true := by decide
    intro d inside
    obtain ⟨noHyphen, noMark, noColon, listed⟩ := special d inside
    refine other d ?_
    rw [startsPlain, listed]
    simp [noHyphen, noMark, noColon]
  have indicator (d : Char) (h : d ∈ "-?:".toList) : (c == d && endsWord behind) = false := by
    have special : ∀ d ∈ "-?:".toList,
        "-?:,[]\x7b\x7d#&*!|>'\"%@`".toList.contains d = true := by decide
    cases ends : endsWord behind with
    | false => exact Bool.and_false _
    | true =>
      have differs : c ≠ d := by
        refine other d ?_
        rw [startsPlain, special d h, ends]
        simp
      simp [differs]
  have noMarker : (lexer.cursor.column == 0 && isDocumentStart (c :: behind)) = false ∧
      (lexer.cursor.column == 0 && isDocumentEnd (c :: behind)) = false := by
    rcases noMargin with inside | letter
    · simp [inside]
    · have noHyphen : c ≠ '-' := by rintro rfl; cases letter
      have noPoint : c ≠ '.' := by rintro rfl; cases letter
      simp [isDocumentStart, isDocumentEnd, noHyphen, noPoint]
  have noPercent : c ≠ '%' := never _ (by decide)
  have noBar : c ≠ '|' := never _ (by decide)
  have noFold : c ≠ '>' := never _ (by decide)
  rw [readToken, noMarker.1, noMarker.2]
  · dsimp only
    rw [if_neg (by simp [noPercent]), if_neg (by decide), if_neg (by decide)]
    simp only [block, Bool.false_or, indicator '-' (by decide), indicator '?' (by decide),
      indicator ':' (by decide), beq_false_of_ne noBar, beq_false_of_ne noFold, starts,
      Bool.false_and, Bool.false_eq_true, if_false, if_true]
  all_goals exact never _ (by decide)

theorem readToken_quote {quote : Char} (isQuote : quote = '\'' ∨ quote = '"')
    (text : List Char) : lexer.readToken quote text = lexer.quoted quote text := by
  rcases isQuote with rfl | rfl <;> simp [readToken, isDocumentStart, isDocumentEnd]

theorem content_noted (cursor : Cursor) (tokens : List Token) (indents : List Nat) (token : Token)
    (behind : List Char) :
    (Lexer.mk cursor tokens 0 indents true []).content token behind =
      .ok ⟨cursor.goTo behind, tokens ++ [token], 0, indents, false,
        [(0, ⟨tokens.length, indents.head? == some cursor.column, cursor.index, cursor.line,
          cursor.column⟩)]⟩ :=
  rfl

theorem content_inLine {column : Nat} (deeper : 0 < column) (index line : Nat) (text : List Char)
    (allowed : Bool) (tokens : List Token) (token : Token) (behind : List Char) :
    ∃ keys : List (Nat × PossibleKey),
      (∀ entry ∈ keys, entry.2.isRequired = false ∧ entry.2.line ≤ line) ∧
        (inLine index line column text allowed tokens).content token behind =
          .ok ⟨(Cursor.mk text index line column).goTo behind, tokens ++ [token], 0, [0], false,
            keys⟩ := by
  cases allowed with
  | false => exact ⟨[], by simp, rfl⟩
  | true =>
    refine ⟨_, ?_, content_noted ⟨text, index, line, column⟩ tokens [0] token behind⟩
    simp
    omega

theorem plain_eq_ok {content : List Char} {brokeLine : Bool}
    (done : lexer.content (.scalar (String.ofList content) true) behind = .ok next)
    (scalar : plainScalar lexer.inFlow lexer.leastIndent lexer.cursor.rest =
      ⟨content, behind, brokeLine⟩) :
    lexer.plain = .ok (next.allowKey brokeLine) := by
  rw [Lexer.plain]
  simp only [scalar, done, bind, Except.bind, pure, Except.pure]

theorem quoted_eq_ok {quote : Char} {content : List Char}
    (done : lexer.content (.scalar (String.ofList content) false) behind = .ok next)
    (scalar : quotedScalar quote text = .ok (content, behind)) :
    lexer.quoted quote text = .ok next := by
  rw [Lexer.quoted, scalar]
  exact done

theorem startsPlain_alpha {c : Char} (letter : c.isAlpha = true) (behind : List Char) :
    lexer.startsPlain c behind = true := by
  have none : "-?:,[]\x7b\x7d#&*!|>'\"%@`".toList.contains c = false := by
    have special : ∀ d ∈ "-?:,[]\x7b\x7d#&*!|>'\"%@`".toList, d.isAlpha = false := by decide
    rw [List.contains_eq_mem, decide_eq_false_iff_not]
    intro inside
    rw [special c inside] at letter
    cases letter
  obtain ⟨word, -⟩ := StartsToken.of_alpha letter []
  have solid : isGap c = false ∧ isBreak c = false := word.resolve_left (List.cons_ne_nil _ _)
  rw [startsPlain, none, solid.1, solid.2]
  rfl

theorem startsPlain_written {content : List Char} (plain : IsPlainText content) (start : Nat) :
    ∃ c rest, Writer.plain start 0 content = c :: rest ∧ (∀ rest, StartsToken (c :: rest)) ∧
      ∀ lexer : Lexer, lexer.inFlow = false → ∀ behind,
        lexer.startsPlain c (rest ++ behind) = true := by
  cases content with
  | nil => exact absurd rfl plain.words.ne_nil
  | cons c rest =>
    have word : isGap c = false ∧ isBreak c = false := plain.words.startsWord []
    have noSpace : c ≠ ' ' := by
      rintro rfl
      exact absurd word.1 (by decide)
    have noIndicator := plain.noIndicator c rest rfl
    simp only [ScalarStyle.isLeadIndicator, Bool.or_eq_false_iff] at noIndicator
    obtain ⟨noSpecial, mark⟩ := noIndicator
    have noComment : c ≠ '#' := by
      rintro rfl
      cases noSpecial
    refine ⟨c, Writer.plain (start + 1) 0 rest, ?_, .cons word noComment,
      fun lexer block behind => ?_⟩
    · rw [Writer.plain, if_neg noSpace, if_neg (by simp)]
      rfl
    cases isMark : "?:-".toList.contains c with
    | false =>
      have none : "-?:,[]\x7b\x7d#&*!|>'\"%@`".toList.contains c = false := by
        simp only [List.contains_eq_mem, decide_eq_false_iff_not] at noSpecial isMark ⊢
        intro inside
        have split : ∀ d ∈ "-?:,[]\x7b\x7d#&*!|>'\"%@`".toList,
            d ∈ "#,[]\x7b\x7d&*!|>'\"%@`".toList ∨ d ∈ "?:-".toList := by decide
        exact (split c inside).elim noSpecial isMark
      rw [startsPlain, none, word.1, word.2]
      rfl
    | true =>
      -- the mark starts a word, which goes on behind it
      rw [isMark, Bool.true_and] at mark
      have goesOn : endsWord (Writer.plain (start + 1) 0 rest ++ behind) = false := by
        cases rest with
        | nil => cases mark
        | cons d rest =>
          have noSeparator : d ≠ ' ' ∧ d ≠ '\n' := by
            simpa [ScalarStyle.endsHere, ScalarStyle.isSeparator] using mark
          have solid : isGap d = false ∧ isBreak d = false :=
            plain.words.solid d (by simp) noSeparator.1
          rw [Writer.plain, if_neg noSeparator.1, if_neg (by simp)]
          simp [endsWord, solid]
      rw [startsPlain, goesOn, block]
      have : c = '?' ∨ c = ':' ∨ c = '-' := by simpa using isMark
      rcases this with rfl | rfl | rfl <;> rfl

theorem startsToken_written {content : List Char} (plain : IsPlainText content) (start : Nat)
    (behind : List Char) : StartsToken (Writer.plain start 0 content ++ behind) := by
  obtain ⟨c, rest, written, startsToken, -⟩ := startsPlain_written plain start
  rw [written]
  exact startsToken _

section Written

variable {content : List Char} {index line column : Nat} {allowed : Bool}

theorem Yields.plain (plain : IsPlainText content) (deeper : 0 < column)
    (token : StartsToken behind) (start : Nat)
    (later : ∀ index line, Yields
      (atLine [0] index line behind (tokens ++ [.scalar (String.ofList content) true])) whole) :
    Yields (inLine index line column (Writer.plain start 0 content ++ '\n' :: behind) allowed
      tokens) whole := by
  obtain ⟨c, rest, written, startsToken, starts⟩ := startsPlain_written plain start
  have scalar : plainScalar false 1 (Writer.plain start 0 content ++ '\n' :: behind) =
      ⟨content, behind, true⟩ :=
    plainScalar_written plain.words token.1 Nat.one_pos (by decide) start
  obtain ⟨index', line', below, reached⟩ :=
    Cursor.goTo_newLine (Writer.plain start 0 content) behind index line column
  rw [written] at scalar reached ⊢
  obtain ⟨keys, stale, done⟩ := content_inLine deeper index line
    (c :: rest ++ '\n' :: behind) allowed tokens (.scalar (String.ofList content) true) behind
  have read := (readToken_plain (.inl deeper.ne') rfl (starts _ rfl ('\n' :: behind))).trans
    (plain_eq_ok done scalar)
  rw [reached] at read
  refine .read (settled_of_token ?_ rfl) (by simp [inLine]) rfl read ?_
    (.forget token ?_ (later index' line'))
  · exact startsToken _
  · simp [allowKey]
    omega
  · exact fun entry inside => ⟨(stale entry inside).1, (stale entry inside).2.trans_lt below⟩

theorem Yields.quoted {quote : Char} {text : List Char} (isQuote : quote = '\'' ∨ quote = '"')
    (scalar : ReadsQuoted quote (text ++ '\n' :: behind) content ('\n' :: behind))
    (deeper : 0 < column) (token : StartsToken behind)
    (later : ∀ index line, Yields
      (atLine [0] index line behind (tokens ++ [.scalar (String.ofList content) false])) whole) :
    Yields (inLine index line column (quote :: text ++ '\n' :: behind) allowed tokens) whole := by
  obtain ⟨keys, stale, done⟩ := content_inLine deeper index line
    (quote :: text ++ '\n' :: behind) allowed tokens (.scalar (String.ofList content) false)
    ('\n' :: behind)
  obtain ⟨line', column', atLeast, reached⟩ :=
    Cursor.goTo_line (quote :: text) ('\n' :: behind) index line column
  have read := (readToken_quote isQuote _).trans (quoted_eq_ok done (scalar _ (Nat.lt_succ_self _)))
  rw [reached] at read
  refine .read (settled_of_token ?_ rfl) (by simp [inLine]) rfl read ?_
    (.newLine token ?_ later)
  · rcases isQuote with rfl | rfl <;> exact .cons (by decide) (by decide) _
  · simp
  · exact fun entry inside => ⟨(stale entry inside).1, (stale entry inside).2.trans atLeast⟩

end Written

end Lexer

end EnumTables.Yaml
