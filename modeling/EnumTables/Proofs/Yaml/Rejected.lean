import EnumTables.Proofs.Yaml.Building
import EnumTables.Proofs.Yaml.RoundTrip

/-!
# Texts that cannot be read for what they say

Whatever follows it, an escape for no character at the start of a text makes reading it raise
(`read_voidEscape`). So do more opening brackets than there is room for (`read_brackets`), and the
value of a setting that looks like a truth value, a number or a time and is none (`read_rejected`).
-/

namespace EnumTables.Yaml

variable {runtime : Runtime} {raised : Raised}

/-! ## Escapes -/

theorem quotedEscape_void {kind : Char} {digits rest : List Char} {code : Nat}
    (width : escapeWidth? kind = some digits.length) (number : hexNumber? digits = some code)
    (void : characterOf code = .error (.exception raised)) :
    quotedEscape (kind :: (digits ++ rest)) = .error (.exception raised) := by
  have noText : escapeText? kind = none := by
    unfold escapeWidth? at width
    split at width
    · rfl
    · rfl
    · rfl
    · cases width
  have taken : (digits ++ rest).take digits.length = digits := List.take_left
  simp only [quotedEscape, noText, width, taken, number, void, lt_irrefl, if_false]
  rfl

namespace Lexer

variable {lexer : Lexer} {c : Char} {behind : List Char} {error : ReadError}

theorem run_unreadable (still : lexer.skip.forgetStale = .ok lexer)
    (level : ∀ column ∈ lexer.indents, column = 0) (rest : lexer.cursor.rest = c :: behind)
    (failed : lexer.readToken c behind = .error error) (turns : Nat) :
    lexer.run (turns + 1) = lexer.tokens.take lexer.settled ++ [.unreadable error] := by
  have stopped : lexer.step = .error error := by
    rw [step, still]
    simp only [bind, Except.bind, unwind_level level, rest, failed]
  rw [run, stopped]

end Lexer

theorem ofText_voidEscape {part rest : List Char} (void : IsVoidEscape raised part)
    (allowed : ('"' :: (part ++ rest)).all isAllowed = true) :
    Token.ofText ('"' :: (part ++ rest)) = [.unreadable (.exception raised)] := by
  obtain ⟨kind, digits, code, rfl, width, number, none⟩ := void
  have escape : quotedEscape (kind :: (digits ++ rest)) = .error (.exception raised) :=
    quotedEscape_void width number none
  have scalar (turns : Nat) : quotedPieces '"' (turns + 1) ('\\' :: kind :: (digits ++ rest)) =
      .error (.exception raised) := by
    rw [quotedPieces, quotedPiece, if_neg (by decide), if_neg (by decide), if_pos (by decide),
      escape]
    rfl
  let lexer := Lexer.atLine [] 0 0 ('"' :: '\\' :: kind :: (digits ++ rest)) []
  have failed : lexer.readToken '"' ('\\' :: kind :: (digits ++ rest)) =
      .error (.exception raised) := by
    rw [Lexer.readToken_quote (.inr rfl), Lexer.quoted, quotedScalar, scalar]
    rfl
  rw [Token.ofText, if_pos allowed]
  exact Lexer.run_unreadable (Lexer.settled_of_token (.cons (by decide) (by decide) _) rfl)
    (by simp [lexer, Lexer.atLine]) rfl failed _

theorem read_voidEscape {part rest : List Char} (void : IsVoidEscape raised part)
    (allowed : ('"' :: (part ++ rest)).all isAllowed = true) :
    read runtime (String.ofList ('"' :: (part ++ rest))) = .error (.exception raised) := by
  have room := runtime.hasRoom_shallow 0 [.unreadable (.exception raised)] (by decide)
  have unread : Node.ofTokens? runtime [.unreadable (.exception raised)] =
      .error (.exception raised) := by
    simp [Node.ofTokens?, Node.isBetween, Node.readOnly, Node.enough, Node.read, room,
      Node.readHead, Node.readable, bind, Except.bind, pure, Except.pure]
  rw [read, String.toList_ofList, ofText_voidEscape void allowed, unread]
  rfl

/-! ## Brackets that stay open -/

namespace Lexer

variable {lexer : Lexer}

theorem readToken_bracket (text : List Char) :
    lexer.readToken '[' text = lexer.openFlow .flowSequenceStart text := by
  simp [readToken, isDocumentStart, isDocumentEnd]

theorem startsToken_brackets : ∀ count, StartsToken (List.replicate count '[')
  | 0 => ⟨.inl rfl, by simp⟩
  | _ + 1 => .cons (by decide) (by decide) _

/-- Nothing has been read but brackets that open a sequence. -/
structure IsOpening (lexer : Lexer) : Prop where
  noBlock : lexer.indents = []
  keyAllowed : lexer.keyAllowed = true
  free : ∀ entry ∈ lexer.keys, entry.2.isRequired = false

namespace IsOpening

theorem with_keys (opening : lexer.IsOpening) (keep : Nat × PossibleKey → Bool) :
    { lexer with keys := lexer.keys.filter keep }.IsOpening :=
  ⟨opening.noBlock, opening.keyAllowed,
    fun entry inside => opening.free entry (List.mem_filter.mp inside).1⟩

theorem forgetStale (opening : lexer.IsOpening) :
    ∃ keys, lexer.forgetStale = .ok { lexer with keys } ∧ { lexer with keys }.IsOpening := by
  have noneRequired : (lexer.keys.any fun entry =>
      lexer.isStale entry.2 && entry.2.isRequired) = false := by
    rw [List.any_eq_false]
    intro entry inside
    simp [opening.free entry inside]
  refine ⟨_, ?_, opening.with_keys fun entry => !lexer.isStale entry.2⟩
  rw [Lexer.forgetStale, if_neg (by simp [noneRequired])]

theorem forgetKey (opening : lexer.IsOpening) :
    ∃ keys, lexer.forgetKey = .ok { lexer with keys } ∧ { lexer with keys }.IsOpening := by
  unfold Lexer.forgetKey
  split
  · exact ⟨lexer.keys, rfl, opening⟩
  · next key found =>
    have free : key.isRequired = false := opening.free (lexer.flowDepth, key) (by
      obtain ⟨before, after, split, -⟩ := List.lookup_eq_some_iff.mp found
      simp [split])
    refine ⟨_, ?_, opening.with_keys fun entry => entry.1 != lexer.flowDepth⟩
    simp [free]

theorem unwind (opening : lexer.IsOpening) (ends : Nat → Bool) : lexer.unwind ends = lexer := by
  obtain ⟨cursor, tokens, depth, indents, allowed, keys⟩ := lexer
  obtain rfl : indents = [] := opening.noBlock
  simp [Lexer.unwind, closeBlocks]

theorem openFlow (opening : lexer.IsOpening) {behind : List Char}
    (rest : lexer.cursor.rest = '[' :: behind) :
    ∃ next, lexer.openFlow .flowSequenceStart behind = .ok next ∧ next.IsOpening ∧
      next.cursor.rest = behind ∧ next.tokens = lexer.tokens ++ [.flowSequenceStart] := by
  obtain ⟨keys, forgotten, left⟩ := opening.forgetKey
  obtain ⟨⟨text, index, line, column⟩, tokens, depth, indents, allowed, noted⟩ := lexer
  obtain rfl : allowed = true := opening.keyAllowed
  obtain rfl : indents = [] := opening.noBlock
  obtain rfl : text = '[' :: behind := rest
  let key : PossibleKey := ⟨tokens.length, false, index, line, column⟩
  refine ⟨⟨⟨behind, index + 1, line, column + 1⟩, tokens ++ [.flowSequenceStart], depth + 1, [],
    true, (depth, key) :: keys⟩, ?_, ⟨rfl, rfl, ?_⟩, rfl, rfl⟩
  · simp [Lexer.openFlow, noteKey, forgotten, bind, Except.bind, pure, Except.pure, emitTo, key,
      Cursor.goTo_cons (c := '[') (by decide)]
  · rintro entry (_ | ⟨_, later⟩)
    · rfl
    · exact left.free entry later

theorem yields {count : Nat} (opening : lexer.IsOpening)
    (rest : lexer.cursor.rest = List.replicate count '[') :
    lexer.Yields (lexer.tokens ++ List.replicate count .flowSequenceStart ++ [.streamEnd]) := by
  have token : StartsToken lexer.cursor.rest := rest ▸ startsToken_brackets count
  induction count generalizing lexer with
  | zero =>
    obtain ⟨keys, fresh, still⟩ := opening.forgetStale
    obtain ⟨others, forgotten, -⟩ := still.forgetKey
    have last : lexer.step =
        .ok (({ lexer with keys := others }.allowKey false).emit .streamEnd, true) := by
      rw [step, skip_token token, fresh]
      simp [bind, Except.bind, still.unwind, rest, boundary, forgotten, pure, Except.pure]
    simpa [emit, allowKey] using Yields.stop last
  | succ count ih =>
    obtain ⟨keys, fresh, still⟩ := opening.forgetStale
    obtain ⟨next, opened, inside, behind, whole⟩ := still.openFlow (by exact rest)
    have first : lexer.step = .ok (next, false) := by
      rw [step, skip_token token, fresh]
      simp [bind, Except.bind, still.unwind, rest, List.replicate_succ, readToken_bracket, opened,
        pure, Except.pure]
    have shorter : next.cursor.rest.length < lexer.cursor.rest.length := by
      simp [behind, rest]
    have later := ih inside behind (behind ▸ startsToken_brackets count)
    rw [whole] at later
    rw [List.replicate_succ, List.append_cons]
    exact .step first shorter (by simpa using later)

end IsOpening

end Lexer

theorem ofText_brackets (count : Nat) : Token.ofText (List.replicate count '[') =
    List.replicate count .flowSequenceStart ++ [.streamEnd] := by
  have allowed : (List.replicate count '[').all isAllowed = true := by
    rw [List.all_eq_true]
    intro c inside
    rw [List.eq_of_mem_replicate inside]
    decide
  have start : Lexer.start (List.replicate count '[') =
      .atLine [] 0 0 (List.replicate count '[') [] := by
    cases count <;> rfl
  have opening : (Lexer.atLine [] 0 0 (List.replicate count '[') []).IsOpening :=
    ⟨rfl, rfl, by simp [Lexer.atLine]⟩
  rw [Token.ofText, if_pos allowed, start]
  exact (opening.yields rfl).run _ (Nat.lt_succ_self _)

namespace Node

theorem read_brackets_deep {context : Context} {rest : List Token} {count depth : Nat}
    (deep : ∀ ahead, context.runtime.hasRoom (depth + count) ahead = false) (place : NodePlace)
    (anchors : List (String × Node)) {fuel : Nat} (enough : 3 * count < fuel) :
    read context place depth fuel
      ⟨List.replicate (count + 1) .flowSequenceStart ++ rest, anchors⟩ =
        .error (.exception Runtime.overflow) := by
  induction count generalizing place depth anchors fuel with
  | zero =>
    obtain ⟨fuel, rfl⟩ := Nat.exists_eq_succ_of_ne_zero enough.ne'
    rw [read, if_pos (by simpa using deep _)]
  | succ count ih =>
    obtain ⟨fuel, rfl⟩ : ∃ left, fuel = left + 3 := ⟨fuel - 3, by omega⟩
    have later (ahead : List Token) :
        context.runtime.hasRoom (depth + 1 + count) ahead = false := by
      rw [Nat.add_right_comm]
      exact deep ahead
    have within (anchors : List (String × Node)) : read context .flow (depth + 1) fuel
        ⟨.flowSequenceStart :: (List.replicate count .flowSequenceStart ++ rest), anchors⟩ =
          .error (.exception Runtime.overflow) :=
      ih later .flow anchors (by omega)
    rw [read]
    split
    · rfl
    · simp [List.replicate_succ, readHead, readable, bind, Except.bind, pure, Except.pure,
        readContent, readFlowItems, note, finish, within]

end Node

theorem read_brackets {levels : Nat}
    (deep : ∀ ahead, runtime.hasRoom levels ahead = false) :
    read runtime (String.ofList (List.replicate (levels + 1) '[')) =
      .error (.exception Runtime.overflow) := by
  let tokens := List.replicate (levels + 1) Token.flowSequenceStart ++ [.streamEnd]
  have first : tokens =
      .flowSequenceStart :: (List.replicate levels .flowSequenceStart ++ [.streamEnd]) := rfl
  have only : Node.read ⟨runtime, Node.knownHandles⟩ .block 0 (Node.enough tokens) ⟨tokens, []⟩ =
      .error (.exception Runtime.overflow) :=
    Node.read_brackets_deep (by simpa using deep) .block [] (by simp [tokens, Node.enough]; omega)
  have unread : Node.ofTokens? runtime tokens = .error (.exception Runtime.overflow) := by
    rw [first] at only ⊢
    rw [Node.ofTokens?]
    · simp [Node.isBetween, Node.readOnly, only, bind, Except.bind]
    · simp
  rw [read, String.toList_ofList, ofText_brackets, unread]
  rfl

/-! ## Values of settings -/

structure IsBareWord (word : List Char) : Prop where
  nonempty : word ≠ []
  allowed : ScalarStyle.allowsPlain word = true
  noSpace : ' ' ∉ word

theorem IsBareWord.printable {word : List Char} (bare : IsBareWord word) : IsPrintable word := by
  have allowed := bare.allowed
  simp only [ScalarStyle.allowsPlain, Bool.and_eq_true, Bool.not_eq_true'] at allowed
  exact fun c inside => by simpa using List.any_eq_false.mp allowed.1.1.1.1 c inside

theorem IsBareWord.written {word : List Char} (bare : IsBareWord word) (start : Nat) :
    Writer.plain start 0 word = word := by
  have whole := plain_word (fun c inside same => bare.noSpace (same ▸ inside)) start []
  rw [Writer.plain, List.replicate_zero] at whole
  simpa using whole

def settingLine (key word : String) : String :=
  key ++ ": " ++ word ++ "\n"

theorem toList_settingLine (key word : String) : (settingLine key word).toList =
    key.toList ++ ':' :: ' ' :: (word.toList ++ ['\n']) := by
  simp [settingLine]

def settingTokens (key word : String) : List Token :=
  [.blockMappingStart, .key, .scalar key true, .value, .scalar word true, .blockEnd, .streamEnd]

theorem ofText_settingLine {key word : String} (isKey : IsKeyWord key.toList)
    (bare : IsBareWord word.toList) :
    Token.ofText (settingLine key word).toList = settingTokens key word := by
  have plain := isPlainText_of_allowsPlain bare.nonempty bare.allowed
  have token : StartsToken (word.toList ++ ['\n']) := by
    have written := Lexer.startsToken_written plain 0 ['\n']
    rwa [bare.written] at written
  have yields : (Lexer.atLine [] 0 0 (settingLine key word).toList []).Yields
      (settingTokens key word) := by
    rw [toList_settingLine]
    refine .key isKey (.inl rfl) rfl fun index line column _ => .space token ?_
    rw [← bare.written 0]
    refine .plain plain (Nat.succ_pos _) ⟨.inl rfl, by simp⟩ 0 fun index line => ?_
    have last : (Lexer.atLine [0] index line (entryLines []) [.blockMappingStart, .key,
        .scalar key true, .value, .scalar word true]).Yields (settingTokens key word) :=
      .entries [] (by simp)
    simpa [opening, entryLines] using last
  have start : Lexer.start (settingLine key word).toList =
      Lexer.atLine [] 0 0 (settingLine key word).toList [] := by
    have noMark : (settingLine key word).toList.head? ≠ some byteOrderMark := by
      have letter := isKey.letter
      rw [toList_settingLine]
      cases found : key.toList with
      | nil =>
        rw [found] at letter
        cases letter
      | cons c rest =>
        rw [found] at letter
        intro same
        obtain rfl : c = byteOrderMark := Option.some.inj same
        cases letter
    rw [Lexer.start, if_neg (by simpa using noMark)]
    rfl
  have allowed : (settingLine key word).toList.all isAllowed = true := by
    rw [toList_settingLine]
    have value : IsPrintable (word.toList ++ ['\n']) := bare.printable.append (.cons rfl .nil)
    exact (isKey.printable.append (.cons rfl (.cons rfl value))).allowed
  rw [Token.ofText, if_pos allowed, start]
  exact yields.run _ (Nat.lt_succ_self _)

namespace Node

variable {builder : Builder} {spot : Spot} {fuel : Nat}

theorem ofTokens?_setting {key word : String} {tag : Tag} (isText : Tag.ofPlain key = .text)
    (looks : Tag.ofPlain word = tag) (noDefault : tag.isDefault = false) :
    ofTokens? runtime (settingTokens key word) =
      .ok (some (.mapping .mapping [(ofText key, .scalar tag word)])) := by
  have anchored : tag.anchored none = tag := by
    cases tag <;> first | rfl | cases noDefault
  have anchoredText : Tag.text.anchored none = .text := rfl
  have anchoredMapping : Tag.mapping.anchored none = .mapping := rfl
  have turns : enough (settingTokens key word) = 32 := rfl
  have room (depth : Nat) (shallow : depth < 3) (ahead : List Token) :
      runtime.hasRoom depth ahead = true := runtime.hasRoom_shallow depth ahead shallow
  have document : readOnly ⟨runtime, knownHandles⟩ (settingTokens key word) =
      .ok (.mapping .mapping [(ofText key, .scalar tag word)]) := by
    rw [readOnly, turns]
    simp [settingTokens, read, room, readHead, readable, readContent, readEntries,
      NodePlace.allowsBlocks, finish, note, bind, Except.bind, pure, Except.pure, readEnd,
      collectionTag, scalarTag, isText, looks, anchored, anchoredText, anchoredMapping, ofText]
  rw [settingTokens] at document ⊢
  rw [ofTokens?]
  · simp [isBetween, document, bind, Except.bind, pure, Except.pure]
  · simp

theorem scalarValue_rejects (spot : Spot) {tag : Tag} {text : String}
    (rejects : tag.Rejects text raised) : tag.isScalar = true ∧
      scalarValue spot tag text = .error ⟨spot.length, .exception raised⟩ := by
  cases rejects with
  | bool h => exact ⟨rfl, by simp [scalarValue, h, Except.map, Built.ofRaised, Built.fail]⟩
  | int h => exact ⟨rfl, by simp [scalarValue, h, Except.map, Built.ofRaised, Built.fail]⟩
  | float h => exact ⟨rfl, by simp [scalarValue, h, Except.map, Built.ofRaised, Built.fail]⟩
  | timestamp h => exact ⟨rfl, by simp [scalarValue, h, Built.ofRaised, Built.fail]⟩

theorem build_rejected {tag : Tag} {text : String} (rejects : tag.Rejects text raised) :
    build builder (fuel + 1) spot (.scalar tag text) = .error ⟨spot.length, .exception raised⟩ := by
  obtain ⟨isScalar, fails⟩ := scalarValue_rejects spot rejects
  have same : (Node.scalar tag text).settled builder.keys spot = .scalar tag text := by
    cases rejects <;> rfl
  rw [build, same, Node.tag, if_pos isScalar]
  exact fails

theorem toValue_rejected {key word : String} {tag : Tag} (rejects : tag.Rejects word raised) :
    toValue runtime (.mapping .mapping [(ofText key, .scalar tag word)]) =
      .error (.exception raised) := by
  have whole (builder : Builder) (fuel : Nat) :
      build builder (fuel + 5) [] (.mapping .mapping [(ofText key, .scalar tag word)]) =
        .error ⟨1, .exception raised⟩ := by
    have first : buildKey builder (fuel + 2) [0] (ofText key) = .ok (.text key) := rfl
    have second : build builder (fuel + 2) [0] (.scalar tag word) = .error ⟨1, .exception raised⟩ :=
      build_rejected rejects
    have merged : (Node.mapping .mapping [(ofText key, .scalar tag word)]).merged =
        some [(ofText key, .scalar tag word)] := rfl
    have rest : buildEntries builder (fuel + 2) [] 1 [] = .ok [] := rfl
    have entries : buildEntries builder (fuel + 3) [] 0 [(ofText key, .scalar tag word)] =
        .error ⟨1, .exception raised⟩ := by
      rw [buildEntries, first, second, rest]
      rfl
    have mapping : buildMapping builder (fuel + 4) []
        (.mapping .mapping [(ofText key, .scalar tag word)]) = .error ⟨1, .exception raised⟩ := by
      have noMerge : (Node.mapping .mapping [(ofText key, .scalar tag word)]).hasMerge = false :=
        rfl
      rw [buildMapping, noMerge, merged]
      simp [entries, Except.map]
    simp [build, settled, Node.tag, Tag.isScalar, mapping, Except.map]
  exact congrArg (Except.mapError BuildError.cause) (whole _ 15)

end Node

theorem read_rejected {key word : String} (isKey : IsKey key) (bare : IsBareWord word.toList)
    (rejects : (Tag.ofPlain word).Rejects word raised) :
    read runtime (settingLine key word) = .error (.exception raised) := by
  have noDefault : (Tag.ofPlain word).isDefault = false := by
    generalize Tag.ofPlain word = tag at rejects
    cases rejects <;> rfl
  rw [read, ofText_settingLine isKey.toIsKeyWord bare,
    Node.ofTokens?_setting isKey.isText rfl noDefault]
  exact Node.toValue_rejected rejects

end EnumTables.Yaml
