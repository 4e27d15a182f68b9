import EnumTables.Proofs.Outcome
import EnumTables.Yaml.Scalar
import EnumTables.Yaml.Writer

/-!
# Text between quotes

What is written between single quotes or between double quotes is read as the same text
(`single_written`, `double_reads`), wherever lines are folded. Reading goes piece by piece, and each
piece that the writer puts down stands for the characters that it was written for.
-/

namespace EnumTables.Yaml

variable {quote : Char} {text content behind : List Char}

/-- Pieces of text between quotes are read as some content, up to what is behind the quote that
closes them. Every piece has a character, so that more turns than characters are enough. -/
def ReadsQuoted (quote : Char) (text content behind : List Char) : Prop :=
  ∀ turns, text.length < turns → quotedPieces quote turns text = .ok (content, behind)

def StartsWord : List Char → Prop
  | [] => False
  | c :: _ => isGap c = false ∧ isBreak c = false

/-- Behind gaps the text goes on in the same line. -/
def StaysInLine (text : List Char) : Prop :=
  StartsWord (text.dropWhile isGap)

theorem StartsWord.staysInLine (h : StartsWord text) : StaysInLine text := by
  cases text with
  | nil => exact h.elim
  | cons c rest =>
    rw [StaysInLine, List.dropWhile_cons_of_neg (by simp [h.1])]
    exact h

theorem StaysInLine.cons_gap {c : Char} (gap : isGap c = true) (h : StaysInLine text) :
    StaysInLine (c :: text) := by
  rw [StaysInLine, List.dropWhile_cons_of_pos gap]
  exact h

/-! ## Pieces -/

namespace ReadsQuoted

theorem close (h : quotedPiece quote text = .ok (.close behind)) :
    ReadsQuoted quote text [] behind := by
  intro turns enough
  cases turns with
  | zero => exact absurd enough (Nat.not_lt_zero _)
  | succ turns =>
    rw [quotedPieces, h]
    rfl

theorem piece {piece rest : List Char} (h : quotedPiece quote text = .ok (.content piece rest))
    (shorter : rest.length < text.length) (reads : ReadsQuoted quote rest content behind) :
    ReadsQuoted quote text (piece ++ content) behind := by
  intro turns enough
  cases turns with
  | zero => exact absurd enough (Nat.not_lt_zero _)
  | succ turns =>
    have others := reads turns (by omega)
    rw [quotedPieces, h]
    simp only [bind, Except.bind, others, pure, Except.pure]

theorem char {c : Char} (noQuote : c ≠ quote) (noGap : isGap c = false)
    (noBreak : isBreak c = false) (noEscape : ¬(c = '\\' ∧ quote = '"'))
    (reads : ReadsQuoted quote text content behind) :
    ReadsQuoted quote (c :: text) (c :: content) behind := by
  have piece : quotedPiece quote (c :: text) = .ok (.content [c] text) := by
    simp [quotedPiece, noQuote, noGap, noBreak, noEscape]
  exact reads.piece piece (Nat.lt_succ_self _)

/-- A space in front of a text that stays in its line. A gap is read as a whole: either the space
is one, or it makes the gap longer that is there. -/
theorem space (noQuote : quote ≠ ' ') (noTab : quote ≠ '\t') (inLine : StaysInLine text)
    (reads : ReadsQuoted quote text content behind) :
    ReadsQuoted quote (' ' :: text) (' ' :: content) behind := by
  have gap {rest : List Char} {c : Char} (isWhite : isGap c = true) :
      quotedPiece quote (c :: rest) = quotedGap (c :: rest) := by
    have other : c ≠ quote := by
      rintro rfl
      simp only [isGap, Bool.or_eq_true, beq_iff_eq] at isWhite
      exact isWhite.elim noQuote noTab
    simp [quotedPiece, other, isWhite]
  cases text with
  | nil => exact inLine.elim
  | cons c rest =>
    cases isWhite : isGap c with
    | false =>
      rw [StaysInLine, List.dropWhile_cons_of_neg (by simp [isWhite])] at inLine
      have piece : quotedPiece quote (' ' :: c :: rest) = .ok (.content [' '] (c :: rest)) := by
        rw [gap rfl, quotedGap, List.dropWhile_cons_of_pos rfl,
          List.dropWhile_cons_of_neg (by simp [isWhite]), List.takeWhile_cons_of_pos rfl,
          List.takeWhile_cons_of_neg (by simp [isWhite])]
        simp only [inLine.2, Bool.false_eq_true, if_false]
      exact reads.piece piece (Nat.lt_succ_self _)
    | true =>
      intro turns enough
      cases turns with
      | zero => exact absurd enough (Nat.not_lt_zero _)
      | succ turns =>
        have shorter := reads (turns + 1) (Nat.lt_of_succ_lt enough)
        rw [quotedPieces, gap isWhite] at shorter
        rw [quotedPieces, gap rfl]
        rw [StaysInLine, List.dropWhile_cons_of_pos isWhite] at inLine
        rw [quotedGap, List.dropWhile_cons_of_pos isWhite] at shorter
        rw [quotedGap, List.dropWhile_cons_of_pos rfl, List.dropWhile_cons_of_pos isWhite,
          List.takeWhile_cons_of_pos rfl]
        cases dropped : rest.dropWhile isGap with
        | nil =>
          rw [dropped] at inLine
          exact inLine.elim
        | cons d others =>
          rw [dropped] at inLine shorter
          simp only [inLine.2, Bool.false_eq_true, if_false] at shorter ⊢
          obtain ⟨found, read, same⟩ := bind_eq_ok.mp shorter
          obtain rfl := Except.ok.inj read
          obtain ⟨⟨pieces, left⟩, read, same⟩ := bind_eq_ok.mp same
          obtain ⟨rfl, rfl⟩ := Prod.mk.inj (Except.ok.inj same)
          simp only [bind, Except.bind, read, pure, Except.pure, List.cons_append]

theorem spaces (noQuote : quote ≠ ' ') (noTab : quote ≠ '\t') (inLine : StaysInLine text)
    (reads : ReadsQuoted quote text content behind) (count : Nat) :
    ReadsQuoted quote (List.replicate count ' ' ++ text) (List.replicate count ' ' ++ content)
      behind := by
  have whole : StaysInLine (List.replicate count ' ' ++ text) ∧
      ReadsQuoted quote (List.replicate count ' ' ++ text) (List.replicate count ' ' ++ content)
        behind := by
    induction count with
    | zero => exact ⟨inLine, reads⟩
    | succ count ih => exact ⟨ih.1.cons_gap rfl, ih.2.space noQuote noTab ih.1⟩
  exact whole.2

end ReadsQuoted

/-! ## Folds -/

theorem not_isMarker_cons {c : Char} (noHyphen : c ≠ '-') (noPoint : c ≠ '.') (rest : List Char) :
    isMarker (c :: rest) = false := by
  simp [isMarker, isDocumentStart, isDocumentEnd, noHyphen, noPoint]

theorem quotedBreaks_fold (word : StartsWord text) (breaks : Nat) :
    quotedBreaks true (List.replicate breaks '\n' ++ ' ' :: ' ' :: text) =
      some (List.replicate breaks '\n', text) := by
  induction breaks with
  | zero =>
    cases text with
    | nil => exact word.elim
    | cons c rest =>
      simp [quotedBreaks, not_isMarker_cons, show isGap ' ' = true from rfl, word.1, word.2]
  | succ breaks ih =>
    rw [List.replicate_succ, List.cons_append, quotedBreaks,
      not_isMarker_cons (by decide) (by decide), ih]
    rfl

theorem quotedPiece_fold (noQuote : quote ≠ '\n') (word : StartsWord text) (breaks : Nat) :
    quotedPiece quote (List.replicate breaks '\n' ++ Writer.fold ++ text) =
      .ok (.content (if breaks = 0 then [' '] else List.replicate breaks '\n') text) := by
  have lines : List.replicate breaks '\n' ++ Writer.fold ++ text =
      '\n' :: (List.replicate breaks '\n' ++ ' ' :: ' ' :: text) := by
    simp only [Writer.fold, List.append_assoc, List.cons_append, List.nil_append]
    rw [← List.cons_append, ← List.replicate_succ, List.replicate_succ', List.append_assoc]
    rfl
  rw [lines, quotedPiece, if_neg noQuote.symm,
    if_pos (show (isGap '\n' || isBreak '\n') = true from rfl), quotedGap,
    List.dropWhile_cons_of_neg (by decide)]
  simp only [show isBreak '\n' = true from rfl, if_true, quotedBreaks_fold word]
  cases breaks with
  | zero => rfl
  | succ breaks => rfl

/-! ## Single quotes -/

theorem hasPair_cons {first second c : Char}
    (h : ScalarStyle.hasPair first second (c :: text) = false) :
    (c = first → text.head? ≠ some second) ∧ ScalarStyle.hasPair first second text = false := by
  cases text with
  | nil => simp [ScalarStyle.hasPair]
  | cons d rest =>
    simp only [ScalarStyle.hasPair, Bool.or_eq_false_iff, Bool.and_eq_false_iff,
      beq_eq_false_iff_ne] at h
    refine ⟨?_, h.2⟩
    rintro rfl same
    exact h.1.elim (fun other => other rfl) fun other => other (Option.some.inj same)

theorem startsWord_of_plain {c : Char} (plain : ScalarStyle.isSpecial c = false)
    (noSpace : c ≠ ' ') (noFeed : c ≠ '\n') (rest : List Char) : StartsWord (c :: rest) := by
  have printable : ' ' ≤ c ∧ c ≤ '~' := by
    simpa [ScalarStyle.isSpecial, noFeed] using plain
  refine ⟨?_, ?_⟩
  · have noTab : c ≠ '\t' := by
      rintro rfl
      exact absurd printable.1 (by decide)
    simp [isGap, noSpace, noTab]
  · have other : ∀ d : Char, ¬d ≤ '~' → c ≠ d := by
      rintro d far rfl
      exact far printable.2
    simp [isBreak, noFeed, other '\u0085' (by decide), other '\u2028' (by decide),
      other '\u2029' (by decide)]

theorem gap_reads (word : StartsWord text) (reads : ReadsQuoted '\'' text content behind)
    {spaces breaks : Nat} (one : spaces = 0 ∨ breaks = 0) (column : Nat) (atEnd atStart : Bool) :
    ReadsQuoted '\'' (Writer.single.gap column spaces breaks atEnd atStart ++ text)
      (List.replicate spaces ' ' ++ List.replicate breaks '\n' ++ content) behind := by
  unfold Writer.single.gap
  by_cases noBreaks : breaks = 0
  · subst noBreaks
    rw [if_neg (by simp)]
    split
    · next folds =>
      have single : spaces = 1 := by
        simp only [Bool.and_eq_true, decide_eq_true_eq] at folds
        exact folds.1.1.1
      subst single
      exact reads.piece (quotedPiece_fold (by decide) word 0)
        (by simp [Writer.fold]; omega)
    · rw [List.replicate_zero, List.append_nil]
      exact reads.spaces (by decide) (by decide) word.staysInLine spaces
  · obtain rfl := one.resolve_right noBreaks
    rw [if_pos (by simpa using noBreaks)]
    have piece := quotedPiece_fold (show '\'' ≠ '\n' by decide) word breaks
    rw [if_neg noBreaks] at piece
    exact reads.piece piece (by simp [Writer.fold]; omega)

theorem single_reads (closed : behind.head? ≠ some '\'')
    (plain : text.any ScalarStyle.isSpecial = false)
    (noBreakSpace : ScalarStyle.hasPair '\n' ' ' text = false)
    (noSpaceBreak : ScalarStyle.hasPair ' ' '\n' text = false) {spaces breaks : Nat}
    (one : spaces = 0 ∨ breaks = 0) (afterSpaces : spaces ≠ 0 → text.head? ≠ some '\n')
    (afterBreaks : breaks ≠ 0 → text.head? ≠ some ' ') (column : Nat) (atStart : Bool) :
    ReadsQuoted '\'' (Writer.single column spaces breaks atStart text ++ '\'' :: behind)
      (List.replicate spaces ' ' ++ List.replicate breaks '\n' ++ text) behind := by
  induction text generalizing column spaces breaks atStart with
  | nil =>
    have last : ReadsQuoted '\'' ('\'' :: behind) [] behind := by
      refine ReadsQuoted.close ?_
      simp [quotedPiece, closed]
    have word : StartsWord ('\'' :: behind) := ⟨by decide, by decide⟩
    exact gap_reads word last one column true atStart
  | cons c rest ih =>
    obtain ⟨afterBreak, noBreakSpace⟩ := hasPair_cons noBreakSpace
    obtain ⟨afterSpace, noSpaceBreak⟩ := hasPair_cons noSpaceBreak
    rw [List.any_cons, Bool.or_eq_false_iff] at plain
    have next {spaces breaks : Nat} (one : spaces = 0 ∨ breaks = 0) :=
      ih plain.2 noBreakSpace noSpaceBreak one
    have fresh (column : Nat) : ReadsQuoted '\''
        (Writer.single column 0 0 false rest ++ '\'' :: behind) rest behind :=
      next (.inl rfl) (fun none => absurd rfl none) (fun none => absurd rfl none) column false
    by_cases space : c = ' '
    · subst space
      have noBreaks : breaks = 0 := by
        by_contra some
        exact afterBreaks some rfl
      subst noBreaks
      rw [Writer.single, if_pos (by simp)]
      have later := next (.inr rfl : spaces + 1 = 0 ∨ 0 = 0) (fun _ => afterSpace rfl)
        (fun none => absurd rfl none) column atStart
      simpa [List.replicate_succ'] using later
    by_cases feed : c = '\n'
    · subst feed
      have noSpaces : spaces = 0 := by
        by_contra some
        exact afterSpaces some rfl
      subst noSpaces
      rw [Writer.single, if_neg (by simp), if_pos (by simp)]
      have later := next (.inl rfl : 0 = 0 ∨ breaks + 1 = 0) (fun none => absurd rfl none)
        (fun _ => afterBreak rfl) column atStart
      simpa [List.replicate_succ'] using later
    · have word := startsWord_of_plain plain.1 space feed
      rw [Writer.single, if_neg (by simp [space]), if_neg (by simp [feed])]
      simp only [space, feed, if_false]
      by_cases isQuote : c = '\''
      · subst isQuote
        rw [if_pos rfl, List.append_assoc]
        refine gap_reads (word _) ?_ one column false atStart
        have piece (rest : List Char) :
            quotedPiece '\'' ('\'' :: '\'' :: rest) = .ok (.content ['\''] rest) := by
          simp [quotedPiece]
        exact (fresh _).piece (piece _) (by simp)
      · rw [if_neg isQuote, List.append_assoc]
        refine gap_reads (word _) ?_ one column false atStart
        exact (fresh _).char isQuote (word rest).1 (word rest).2 fun both =>
          absurd both.2 (by decide)

theorem single_written (allows : ScalarStyle.allowsSingle text = true) (column : Nat)
    (closed : behind.head? ≠ some '\'') :
    ReadsQuoted '\'' (Writer.single column 0 0 true text ++ '\'' :: behind) text behind := by
  simp only [ScalarStyle.allowsSingle, Bool.and_eq_true, Bool.not_eq_true'] at allows
  obtain ⟨⟨plain, noBreakSpace⟩, noSpaceBreak⟩ := allows
  exact single_reads closed plain noBreakSpace noSpaceBreak (.inl rfl) (absurd rfl) (absurd rfl)
    column true

/-! ## Escapes -/

theorem hexValue?_hexDigit {digit : Nat} (h : digit < 16) :
    hexValue? (Text.hexDigit digit).toUpper = some digit := by
  have all : ∀ digit < 16, hexValue? (Text.hexDigit digit).toUpper = some digit := by decide
  exact all digit h

theorem hexNumber?_hexDigits (n width : Nat) :
    hexNumber? (Writer.hexDigits n width) = some (n % 16 ^ width) := by
  induction width generalizing n with
  | zero => simp [Writer.hexDigits, Text.hexDigits, hexNumber?, Nat.mod_one]
  | succ width ih =>
    simp only [Writer.hexDigits, hexNumber?] at ih
    rw [Writer.hexDigits, Text.hexDigits, hexNumber?, List.map_append, List.foldl_append, ih,
      Nat.pow_succ', Nat.mod_mul]
    simp [hexValue?_hexDigit (Nat.mod_lt n (by decide)), Nat.add_comm]

theorem quotedEscape_digits {kind c : Char} {width : Nat} (noText : escapeText? kind = none)
    (known : escapeWidth? kind = some width) (enough : c.toNat < 16 ^ width) :
    quotedEscape (kind :: Writer.hexDigits c.toNat width ++ text) = .ok (.content [c] text) := by
  have length : (Writer.hexDigits c.toNat width).length = width := by
    rw [Writer.hexDigits, List.length_map, Text.hexDigits_length]
  have valid : ¬0x110000 ≤ c.toNat := by
    have := c.valid
    simp only [UInt32.isValidChar, Nat.isValidChar] at this
    change c.toNat < _ ∨ _ < c.toNat ∧ c.toNat < _ at this
    omega
  rw [List.cons_append, quotedEscape, noText, known]
  simp only [List.take_left' length, List.drop_left' length, length, lt_irrefl, if_false,
    hexNumber?_hexDigits, Nat.mod_eq_of_lt enough, characterOf, if_neg valid, Char.ofNat_toNat]
  rfl

theorem lookup_escape {short : List (Char × Char)} {c letter : Char}
    (inverse : ∀ entry ∈ short, escapeText? entry.2 = some entry.1)
    (found : short.lookup c = some letter) : escapeText? letter = some c := by
  obtain ⟨before, after, entries, -⟩ := List.lookup_eq_some_iff.mp found
  exact inverse (c, letter) (by simp [entries])

theorem quotedEscape_escapeCode (c : Char) (text : List Char) :
    quotedEscape (Writer.escapeCode c ++ text) = .ok (.content [c] text) := by
  dsimp only [Writer.escapeCode]
  split
  · next letter found =>
    have known := lookup_escape (by decide) found
    rw [List.singleton_append, quotedEscape, known]
  · split
    · next small => exact quotedEscape_digits rfl rfl (by omega)
    · split
      · next small => exact quotedEscape_digits rfl rfl (by omega)
      · refine quotedEscape_digits rfl rfl ?_
        have := c.valid
        simp only [UInt32.isValidChar, Nat.isValidChar] at this
        change c.toNat < _ ∨ _ < c.toNat ∧ c.toNat < _ at this
        omega

theorem ReadsQuoted.escape (c : Char) (reads : ReadsQuoted '"' text content behind) :
    ReadsQuoted '"' ('\\' :: (Writer.escapeCode c ++ text)) (c :: content) behind := by
  have piece : quotedPiece '"' ('\\' :: (Writer.escapeCode c ++ text)) =
      .ok (.content [c] text) := by
    rw [quotedPiece, if_neg (by decide), if_neg (by decide), if_pos (by decide),
      quotedEscape_escapeCode]
  exact reads.piece piece (by simp)

theorem ReadsQuoted.fold (word : StartsWord text) (reads : ReadsQuoted '"' text content behind) :
    ReadsQuoted '"' ('\\' :: (Writer.fold ++ text)) content behind := by
  have breaks := quotedBreaks_fold word 0
  simp only [List.replicate_zero, List.nil_append] at breaks
  have piece : quotedPiece '"' ('\\' :: (Writer.fold ++ text)) = .ok (.content [] text) := by
    rw [quotedPiece, if_neg (by decide), if_neg (by decide), if_pos (by decide), Writer.fold,
      List.cons_append, quotedEscape]
    simp [escapeText?, escapeWidth?, isBreak, breaks]
  exact reads.piece piece (by simp [Writer.fold]; omega)

theorem ReadsQuoted.escapedSpace (reads : ReadsQuoted '"' text content behind) :
    ReadsQuoted '"' ('\\' :: ' ' :: text) (' ' :: content) behind := by
  have piece : quotedPiece '"' ('\\' :: ' ' :: text) = .ok (.content [' '] text) := rfl
  exact reads.piece piece (by simp)

/-! ## Double quotes -/

theorem isEscaped_eq_false {c : Char} (h : Writer.isEscaped c = false) :
    c ≠ '"' ∧ c ≠ '\\' ∧ isBreak c = false ∧ (c ≠ ' ' → isGap c = false) := by
  simp only [Writer.isEscaped, Bool.or_eq_false_iff, beq_eq_false_iff_ne, Bool.not_eq_false',
    Bool.and_eq_true, decide_eq_true_eq] at h
  obtain ⟨⟨noQuote, noEscape⟩, least, most⟩ := h
  have word := fun noSpace => startsWord_of_plain (c := c)
    (by simp [ScalarStyle.isSpecial, least, most]) noSpace
    (by rintro rfl; exact absurd least (by decide)) []
  refine ⟨noQuote, noEscape, ?_, fun noSpace => (word noSpace).1⟩
  by_cases space : c = ' '
  · subst space
    rfl
  · exact (word space).2

/-- What the writer puts down for some text, behind the characters that it had not written yet. -/
structure Continues (text written behind : List Char) : Prop where
  reads : ReadsQuoted '"' (written ++ '"' :: behind) text behind
  inLine : StaysInLine (written ++ '"' :: behind)
  word : text.head? ≠ some ' ' → StartsWord (written ++ '"' :: behind)

namespace Continues

variable {written : List Char}

theorem nil (behind : List Char) : Continues [] [] behind where
  reads := ReadsQuoted.close rfl
  inLine := StartsWord.staysInLine (show StartsWord ('"' :: behind) from ⟨by decide, by decide⟩)
  word _ := ⟨by decide, by decide⟩

theorem of_escape (reads : ReadsQuoted '"' ('\\' :: (written ++ '"' :: behind)) text behind) :
    Continues text ('\\' :: written) behind where
  reads := reads
  inLine := StartsWord.staysInLine ⟨by decide, by decide⟩
  word _ := ⟨by decide, by decide⟩

theorem char {c : Char} (plain : Writer.isEscaped c = false)
    (continues : Continues text written behind) : Continues (c :: text) (c :: written) behind := by
  obtain ⟨noQuote, noEscape, noBreak, noGap⟩ := isEscaped_eq_false plain
  by_cases space : c = ' '
  · subst space
    exact ⟨continues.reads.space (by decide) (by decide) continues.inLine,
      continues.inLine.cons_gap rfl, fun other => absurd rfl other⟩
  · have word : StartsWord (c :: (written ++ '"' :: behind)) := ⟨noGap space, noBreak⟩
    exact ⟨continues.reads.char noQuote (noGap space) noBreak fun both => noEscape both.1,
      word.staysInLine, fun _ => word⟩

theorem fold {c : Char} (plain : Writer.isEscaped c = false)
    (continues : Continues text written behind) :
    Continues (c :: text) ('\\' :: ((Writer.foldBefore (some c)).1 ++ c :: written)) behind := by
  refine of_escape ?_
  have whole := (continues.char plain).reads
  by_cases space : c = ' '
  · subst space
    have start : StartsWord ('\\' :: ' ' :: (written ++ '"' :: behind)) := ⟨by decide, by decide⟩
    have reads := (continues.reads.escapedSpace).fold start
    simpa [Writer.foldBefore, List.append_assoc] using reads
  · have start : StartsWord (c :: (written ++ '"' :: behind)) :=
      (continues.char plain).word (by simpa using space)
    simpa [Writer.foldBefore, space, List.append_assoc] using whole.fold start

end Continues

theorem double_continues (text : List Char) (column : Nat) (pending : List Char) (atStart : Bool)
    (behind : List Char) :
    ∃ written, Writer.double column pending atStart text = pending ++ written ∧
      Continues text written behind := by
  match text with
  | [] => exact ⟨[], by simp [Writer.double], .nil behind⟩
  | c :: rest =>
    rw [Writer.double]
    cases escaped : Writer.isEscaped c with
    | true =>
      simp only [if_true]
      split
      · next folds =>
        -- the line is folded behind the escape, and goes on with what comes next
        match rest with
        | [] => simp at folds
        | d :: others =>
          by_cases space : d = ' '
          · subst space
            have short : ¬Writer.width < Writer.foldedColumn + 1 + 0 := by decide
            obtain ⟨written, same, continues⟩ :=
              double_continues others (Writer.foldedColumn + 1) [' '] false behind
            have line : Writer.double (Writer.foldedColumn + 1) [] false (' ' :: others) =
                ' ' :: written := by
              rw [Writer.double]
              simpa [Writer.isEscaped, short] using same
            refine ⟨'\\' :: (Writer.escapeCode c ++
                '\\' :: (Writer.fold ++ '\\' :: ' ' :: written)),
              by simp [Writer.foldBefore, line], .of_escape ?_⟩
            have start : StartsWord ('\\' :: ' ' :: (written ++ '"' :: behind)) :=
              ⟨by decide, by decide⟩
            simpa using (continues.reads.escapedSpace.fold start).escape c
          · obtain ⟨written, same, continues⟩ :=
              double_continues (d :: others) Writer.foldedColumn [] false behind
            refine ⟨'\\' :: (Writer.escapeCode c ++ '\\' :: (Writer.fold ++ written)),
              by simp [Writer.foldBefore, space, same], .of_escape ?_⟩
            have word := continues.word (by simpa using space)
            simpa using (continues.reads.fold word).escape c
      · next folds =>
        obtain ⟨written, same, continues⟩ := double_continues rest
          (column + (pending ++ '\\' :: Writer.escapeCode c).length) [] false behind
        rw [same]
        refine ⟨'\\' :: (Writer.escapeCode c ++ written), by simp, .of_escape ?_⟩
        rw [List.append_assoc]
        exact continues.reads.escape c
    | false =>
      simp only [Bool.false_eq_true, if_false]
      split
      · next folds =>
        obtain ⟨written, same, continues⟩ :=
          double_continues rest (Writer.foldBefore (some c)).2 [c] false behind
        refine ⟨_, ?_, continues.fold escaped⟩
        rw [same]
        simp
      · obtain ⟨written, same, continues⟩ :=
          double_continues rest column (pending ++ [c]) false behind
        exact ⟨c :: written, by rw [same]; simp, continues.char escaped⟩

theorem double_reads (text : List Char) (column : Nat) (behind : List Char) :
    ReadsQuoted '"' (Writer.double column [] true text ++ '"' :: behind) text behind := by
  obtain ⟨written, same, continues⟩ := double_continues text column [] true behind
  rw [same]
  exact continues.reads

end EnumTables.Yaml
