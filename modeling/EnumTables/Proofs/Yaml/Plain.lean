import EnumTables.Proofs.Yaml.Quoted

/-!
# Plain text

A text that may be written plain consists of words with spaces between them
(`isPlainText_of_allowsPlain`). What is written for it, folded or not, is read as
the same text up to the next line (`plainScalar_written`).
-/

namespace EnumTables.Yaml

variable {text behind : List Char}

/-! ## Words -/

/-- Characters that are read at one go as plain text: no gap and no break, and no colon behind
which the text could end. -/
structure IsPlainWord (word : List Char) : Prop where
  nonempty : word ≠ []
  solid : ∀ c ∈ word, isGap c = false ∧ isBreak c = false
  last : word.getLast? ≠ some ':'

/-- Words with spaces between them. Behind spaces no comment starts. -/
inductive Words : List Char → Prop
  | single {word : List Char} (isWord : IsPlainWord word) : Words word
  | cons {word rest : List Char} (isWord : IsPlainWord word) (spaces : Nat) (others : Words rest)
      (noComment : rest.head? ≠ some '#') :
      Words (word ++ (List.replicate (spaces + 1) ' ' ++ rest))

theorem IsPlainWord.startsWord {word : List Char} (isWord : IsPlainWord word)
    (rest : List Char) : StartsWord (word ++ rest) := by
  cases word with
  | nil => exact absurd rfl isWord.nonempty
  | cons c word => exact isWord.solid c List.mem_cons_self

theorem Words.startsWord (words : Words text) (rest : List Char) : StartsWord (text ++ rest) := by
  cases words with
  | single isWord => exact isWord.startsWord rest
  | cons isWord spaces others noComment =>
    rw [List.append_assoc]
    exact isWord.startsWord _

theorem Words.ne_nil (words : Words text) : text ≠ [] := by
  rintro rfl
  exact words.startsWord []

/-! ## Which texts are written plain -/

theorem Words.solid (words : Words text) :
    ∀ c ∈ text, c ≠ ' ' → isGap c = false ∧ isBreak c = false := by
  induction words with
  | single isWord => exact fun c inside _ => isWord.solid c inside
  | cons isWord spaces others noComment ih =>
    intro c inside noSpace
    rcases List.mem_append.mp inside with inside | inside
    · exact isWord.solid c inside
    · rcases List.mem_append.mp inside with inside | inside
      · exact absurd (List.eq_of_mem_replicate inside) noSpace
      · exact ih c inside noSpace

theorem Words.prepend {c : Char} (solid : isGap c = false ∧ isBreak c = false)
    (words : Words text) : Words (c :: text) := by
  have longer {word : List Char} (isWord : IsPlainWord word) : IsPlainWord (c :: word) := by
    refine ⟨List.cons_ne_nil _ _, ?_, ?_⟩
    · intro d inside
      rcases List.mem_cons.mp inside with rfl | inside
      · exact solid
      · exact isWord.solid d inside
    · rw [List.getLast?_cons_of_ne_nil isWord.nonempty]
      exact isWord.last
  cases words with
  | single isWord => exact .single (longer isWord)
  | cons isWord spaces others noComment => exact .cons (longer isWord) spaces others noComment

theorem isPlainWord_singleton {c : Char} (solid : isGap c = false ∧ isBreak c = false)
    (noColon : c ≠ ':') : IsPlainWord [c] where
  nonempty := List.cons_ne_nil _ _
  solid d inside := by
    obtain rfl := List.mem_singleton.mp inside
    exact solid
  last := by simpa using noColon

theorem exists_words {separated : Bool} (nonempty : text ≠ [])
    (plain : text.any ScalarStyle.isSpecial = false) (noFeed : '\n' ∉ text)
    (inner : ScalarStyle.hasInnerIndicator separated text = false)
    (last : text.getLast? ≠ some ' ') :
    ∃ spaces rest, text = List.replicate spaces ' ' ++ rest ∧ Words rest ∧
      (separated = true ∨ spaces ≠ 0 → rest.head? ≠ some '#') := by
  induction text generalizing separated with
  | nil => exact absurd rfl nonempty
  | cons c text ih =>
    rw [List.any_cons, Bool.or_eq_false_iff] at plain
    rw [List.mem_cons, not_or] at noFeed
    simp only [ScalarStyle.hasInnerIndicator, Bool.or_eq_false_iff, Bool.and_eq_false_iff,
      beq_eq_false_iff_ne] at inner
    obtain ⟨⟨colon, hash⟩, inner⟩ := inner
    have noHash (first : separated = true) : c ≠ '#' :=
      hash.resolve_right (by simp [first])
    cases text with
    | nil =>
      have noSpace : c ≠ ' ' := by simpa using last
      have noColon : c ≠ ':' := colon.resolve_right (by decide)
      refine ⟨0, [c], rfl, .single (isPlainWord_singleton
        (startsWord_of_plain plain.1 noSpace (Ne.symm noFeed.1) []) noColon), ?_⟩
      rintro (first | none)
      · simpa using noHash first
      · exact absurd rfl none
    | cons d text =>
      rw [List.getLast?_cons_cons] at last
      obtain ⟨spaces, rest, split, words, noComment⟩ :=
        ih (List.cons_ne_nil _ _) plain.2 noFeed.2 inner last
      by_cases space : c = ' '
      · subst space
        refine ⟨spaces + 1, rest, by rw [split]; rfl, words, fun _ => noComment (.inl rfl)⟩
      · have solid : StartsWord [c] := startsWord_of_plain plain.1 space (Ne.symm noFeed.1) []
        refine ⟨0, c :: d :: text, rfl, ?_, ?_⟩
        · rw [split]
          cases spaces with
          | zero => exact words.prepend solid
          | succ spaces =>
            have noColon : c ≠ ':' := by
              refine colon.resolve_right ?_
              simp [split, List.replicate_succ, ScalarStyle.endsHere, ScalarStyle.isSeparator]
            exact .cons (isPlainWord_singleton solid noColon) spaces words (noComment (.inr
              (Nat.succ_ne_zero _)))
        · rintro (first | none)
          · simpa using noHash first
          · exact absurd rfl none

structure IsPlainText (text : List Char) : Prop where
  words : Words text
  noIndicator : ∀ c rest, text = c :: rest → ScalarStyle.isLeadIndicator c rest = false

theorem isPlainText_of_allowsPlain (nonempty : text ≠ [])
    (h : ScalarStyle.allowsPlain text = true) : IsPlainText text := by
  simp only [ScalarStyle.allowsPlain, Bool.and_eq_true, Bool.not_eq_true',
    List.contains_eq_mem, decide_eq_false_iff_not] at h
  obtain ⟨⟨⟨⟨plain, noFeed⟩, first⟩, last⟩, indicator⟩ := h
  cases text with
  | nil => exact absurd rfl nonempty
  | cons c rest =>
    simp only [ScalarStyle.hasIndicator, Bool.or_eq_false_iff] at indicator
    obtain ⟨⟨-, lead⟩, inner⟩ := indicator
    have noSeparator : ScalarStyle.isSeparator c = false := by simpa using first
    have whole : ScalarStyle.hasInnerIndicator false (c :: rest) = false := by
      rw [ScalarStyle.hasInnerIndicator, inner, Bool.and_false, Bool.or_false, Bool.or_false]
      -- a colon at the start is a lead indicator
      by_contra colon
      simp only [Bool.not_eq_false, Bool.and_eq_true, beq_iff_eq] at colon
      simp [ScalarStyle.isLeadIndicator, colon.1, colon.2] at lead
    have noSpaceAtEnd : (c :: rest).getLast? ≠ some ' ' := by
      intro space
      rw [space] at last
      cases last
    obtain ⟨spaces, words, split, isWords, -⟩ :=
      exists_words nonempty plain noFeed whole noSpaceAtEnd
    refine ⟨?_, ?_⟩
    · cases spaces with
      | zero => rwa [split]
      | succ spaces =>
        obtain rfl : c = ' ' := (List.cons.inj split).1
        cases noSeparator
    · rintro d others same
      obtain ⟨rfl, rfl⟩ := List.cons.inj same
      exact lead

/-! ## What is written -/

theorem plain_word {word : List Char} (noSpace : ∀ c ∈ word, c ≠ ' ') (column : Nat)
    (rest : List Char) :
    Writer.plain column 0 (word ++ rest) = word ++ Writer.plain (column + word.length) 0 rest := by
  induction word generalizing column with
  | nil => rfl
  | cons c word ih =>
    have here : c ≠ ' ' := noSpace c List.mem_cons_self
    rw [List.cons_append, Writer.plain, if_neg here, if_neg (by simp),
      ih (fun d inside => noSpace d (List.mem_cons_of_mem _ inside))]
    simp [Nat.add_comm, Nat.add_left_comm]

theorem plain_spaces (column pending spaces : Nat) (rest : List Char) :
    Writer.plain column pending (List.replicate spaces ' ' ++ rest) =
      Writer.plain column (pending + spaces) rest := by
  induction spaces generalizing pending with
  | zero => rfl
  | succ spaces ih =>
    rw [List.replicate_succ, List.cons_append, Writer.plain, if_pos rfl, ih, Nat.add_right_comm,
      Nat.add_assoc]

/-- What stands for spaces between two words: the spaces, or a fold for a single one. -/
def IsGapText (spaces : Nat) (gap : List Char) : Prop :=
  gap = List.replicate spaces ' ' ∨ spaces = 1 ∧ gap = Writer.fold

theorem plain_gap (word : StartsWord text) (column spaces : Nat) :
    ∃ gap column', IsGapText (spaces + 1) gap ∧
      Writer.plain column (spaces + 1) text = gap ++ Writer.plain column' 0 text := by
  cases text with
  | nil => exact word.elim
  | cons c rest =>
    have noSpace : c ≠ ' ' := by
      rintro rfl
      exact absurd word.1 (by decide)
    have start (column : Nat) :
        Writer.plain column 0 (c :: rest) = c :: Writer.plain (column + 1) 0 rest := by
      rw [Writer.plain, if_neg noSpace, if_neg (by simp)]
      rfl
    rw [Writer.plain, if_neg noSpace]
    split
    · next folds =>
      have single : spaces = 0 := by
        simp only [Bool.and_eq_true, decide_eq_true_eq] at folds
        omega
      subst single
      exact ⟨Writer.fold, Writer.foldedColumn, .inr ⟨rfl, rfl⟩, by rw [start]⟩
    · exact ⟨_, column + (spaces + 1), .inl rfl, by rw [start]⟩

/-! ## Reading it -/

theorem plainRun_word {word : List Char} (solid : ∀ c ∈ word, isGap c = false ∧ isBreak c = false)
    (last : word.getLast? ≠ some ':') (ends : endsWord behind = true) :
    plainRun false (word ++ behind) = word := by
  induction word with
  | nil =>
    cases behind with
    | nil => rfl
    | cons c rest =>
      have stops : isGap c = true ∨ isBreak c = true := by simpa [endsWord] using ends
      rw [List.nil_append, plainRun, if_pos (by rcases stops with h | h <;> simp [h])]
  | cons c word ih =>
    obtain ⟨noGap, noBreak⟩ := solid c List.mem_cons_self
    have goesOn : (c == ':' && endsAtColon false (word ++ behind)) = false := by
      cases word with
      | nil =>
        have noColon : c ≠ ':' := by simpa using last
        simp [noColon]
      | cons d word =>
        obtain ⟨noGap, noBreak⟩ := solid d (by simp)
        simp [endsAtColon, endsWord, noGap, noBreak]
    have others : plainRun false (word ++ behind) = word := by
      cases word with
      | nil => exact ih (by simp) (by simp)
      | cons d word =>
        rw [List.getLast?_cons_cons] at last
        exact ih (fun e inside => solid e (List.mem_cons_of_mem _ inside)) last
    rw [List.cons_append, plainRun, if_neg (by simp [noGap, noBreak, goesOn]), others]

theorem emptyLines_of_startsWord (word : StartsWord text) (column : Nat) :
    emptyLines column text = ([], column, text) := by
  cases text with
  | nil => exact word.elim
  | cons c rest =>
    have noSpace : c ≠ ' ' := by
      rintro rfl
      exact absurd word.1 (by decide)
    simp [emptyLines, noSpace, word.2]

theorem dropWhile_space (word : StartsWord text) : text.dropWhile (· == ' ') = text := by
  cases text with
  | nil => exact word.elim
  | cons c rest =>
    have noSpace : c ≠ ' ' := by
      rintro rfl
      exact absurd word.1 (by decide)
    simp [noSpace]

theorem plainGap_gap {spaces : Nat} {gap : List Char} (isGap : IsGapText (spaces + 1) gap)
    (word : StartsWord text) :
    ∃ column, plainGap (gap ++ text) = ⟨List.replicate (spaces + 1) ' ', column, text⟩ ∧
      ∀ reached, column = some reached → reached = Writer.foldedColumn := by
  rcases isGap with rfl | ⟨single, rfl⟩
  · refine ⟨none, ?_, fun reached none => by cases none⟩
    have dropped : (List.replicate (spaces + 1) ' ' ++ text).dropWhile (· == ' ') = text := by
      rw [List.dropWhile_append_of_pos (by simp), dropWhile_space word]
    have taken : (List.replicate (spaces + 1) ' ' ++ text).takeWhile (· == ' ') =
        List.replicate (spaces + 1) ' ' := by
      have whole := List.takeWhile_append_dropWhile (p := (· == ' '))
        (l := List.replicate (spaces + 1) ' ' ++ text)
      rw [dropped] at whole
      exact List.append_cancel_right whole
    unfold plainGap
    rw [dropped, taken]
    cases text with
    | nil => exact word.elim
    | cons c rest => simp [word.2]
  · obtain rfl : spaces = 0 := by omega
    refine ⟨some Writer.foldedColumn, ?_, fun reached same => (Option.some.inj same).symm⟩
    simp [Writer.fold, plainGap, isBreak, emptyLines, emptyLines_of_startsWord word, foldBreaks,
      breakText, Writer.foldedColumn]

theorem IsGapText.endsWord {spaces : Nat} {gap : List Char} (isGap : IsGapText (spaces + 1) gap)
    (rest : List Char) : endsWord (gap ++ rest) = true := by
  rcases isGap with rfl | ⟨-, rfl⟩
  · rw [List.replicate_succ]
    rfl
  · rfl

theorem head?_plain (word : StartsWord text) (column : Nat) :
    (Writer.plain column 0 text).head? = text.head? := by
  cases text with
  | nil => exact word.elim
  | cons c rest =>
    have noSpace : c ≠ ' ' := by
      rintro rfl
      exact absurd word.1 (by decide)
    rw [Writer.plain, if_neg noSpace, if_neg (by simp)]
    rfl

def StartsLine (text : List Char) : Prop :=
  text = [] ∨ StartsWord text

theorem plainGap_line (line : StartsLine behind) :
    plainGap ('\n' :: behind) = ⟨[' '], some 0, behind⟩ := by
  have reached : emptyLines 0 behind = ([], 0, behind) := by
    rcases line with rfl | word
    · rfl
    · exact emptyLines_of_startsWord word 0
  simp [plainGap, isBreak, reached, foldBreaks, breakText]

theorem Words.read (words : Words text) (line : StartsLine behind) {least : Nat}
    (deeper : 0 < least) (shallow : least ≤ Writer.foldedColumn) (column turns : Nat)
    (enough : (Writer.plain column 0 text).length < turns) :
    plainWords false least turns (Writer.plain column 0 text ++ '\n' :: behind) =
      ⟨text, behind, true⟩ := by
  induction words generalizing column turns with
  | @single word isWord =>
    have noSpace : ∀ c ∈ word, c ≠ ' ' := by
      rintro c inside rfl
      exact absurd (isWord.solid ' ' inside).1 (by decide)
    have written : Writer.plain column 0 word = word := by
      have := plain_word noSpace column []
      simpa [Writer.plain] using this
    cases turns with
    | zero => exact absurd enough (Nat.not_lt_zero _)
    | succ turns =>
      rw [written, plainWords, plainRun_word isWord.solid isWord.last rfl, List.drop_left,
        plainGap_line line]
      simp [isWord.nonempty, PlainGap.endsScalar, deeper]
  | @cons word rest isWord spaces others noComment ih =>
    have noSpace : ∀ c ∈ word, c ≠ ' ' := by
      rintro c inside rfl
      exact absurd (isWord.solid ' ' inside).1 (by decide)
    have start : StartsWord rest := by simpa using others.startsWord []
    obtain ⟨gap, column', isGap, written⟩ :=
      plain_gap start (column + word.length) spaces
    have whole : Writer.plain column 0 (word ++ (List.replicate (spaces + 1) ' ' ++ rest)) =
        word ++ (gap ++ Writer.plain column' 0 rest) := by
      rw [plain_word noSpace, plain_spaces, Nat.zero_add, written]
    rw [whole] at enough ⊢
    rw [List.append_assoc, List.append_assoc]
    let after := Writer.plain column' 0 rest ++ '\n' :: behind
    have head : after.head? = rest.head? := by
      cases rest with
      | nil => exact start.elim
      | cons c rest => rw [List.head?_append, head?_plain start]; rfl
    have goesOn : StartsWord after := by
      cases written : after with
      | nil => simp [after] at written
      | cons c others =>
        cases rest with
        | nil => exact start.elim
        | cons d rest =>
          rw [written] at head
          obtain rfl : c = d := Option.some.inj head
          exact start
    obtain ⟨reached, readGap, atFold⟩ := plainGap_gap isGap goesOn
    cases turns with
    | zero => exact absurd enough (Nat.not_lt_zero _)
    | succ turns =>
      have inside : (PlainGap.mk (List.replicate (spaces + 1) ' ') reached after).endsScalar false
          least = false := by
        have noComment : after.head? ≠ some '#' := by rwa [head]
        cases reached with
        | none => simp [PlainGap.endsScalar, noComment]
        | some reached =>
          obtain rfl := atFold reached rfl
          simpa [PlainGap.endsScalar, noComment, Writer.foldedColumn] using shallow
      have wordLength := List.length_pos_iff.mpr isWord.nonempty
      simp only [List.length_append] at enough
      have later := ih column' turns (by omega)
      rw [plainWords, plainRun_word isWord.solid isWord.last (isGap.endsWord _), List.drop_left,
        readGap]
      simp only [inside, List.isEmpty_eq_false_iff.mpr isWord.nonempty, Bool.false_eq_true,
        if_false, later, after, List.isEmpty_eq_false_iff.mpr others.ne_nil, List.append_assoc]

theorem plainRun_append {word : List Char}
    (solid : ∀ c ∈ word, (isGap c = false ∧ isBreak c = false) ∧ c ≠ ':') :
    plainRun false (word ++ behind) = word ++ plainRun false behind := by
  induction word with
  | nil => rfl
  | cons c word ih =>
    obtain ⟨⟨noGap, noBreak⟩, noColon⟩ := solid c List.mem_cons_self
    rw [List.cons_append, plainRun, if_neg (by simp [noGap, noBreak, noColon]),
      ih fun d inside => solid d (List.mem_cons_of_mem _ inside), List.cons_append]

theorem plainScalar_word {word : List Char} (nonempty : word ≠ [])
    (solid : ∀ c ∈ word, (isGap c = false ∧ isBreak c = false) ∧ c ≠ ':')
    (ends : endsWord behind = true) (least : Nat) :
    plainScalar false least (word ++ ':' :: behind) = ⟨word, ':' :: behind, false⟩ := by
  have run : plainRun false (word ++ ':' :: behind) = word := by
    rw [plainRun_append solid, plainRun, if_pos (by simp [endsAtColon, ends]), List.append_nil]
  have gap : plainGap (':' :: behind) = ⟨[], none, ':' :: behind⟩ := rfl
  rw [plainScalar, plainWords, run, List.drop_left, gap]
  simp [nonempty, PlainGap.endsScalar]

theorem plainScalar_written (words : Words text) (line : StartsLine behind) {least : Nat}
    (deeper : 0 < least) (shallow : least ≤ Writer.foldedColumn) (column : Nat) :
    plainScalar false least (Writer.plain column 0 text ++ '\n' :: behind) =
      ⟨text, behind, true⟩ :=
  words.read line deeper shallow column _ (by simp)

end EnumTables.Yaml
