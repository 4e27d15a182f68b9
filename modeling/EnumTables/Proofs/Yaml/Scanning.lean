import EnumTables.Proofs.Yaml.Parsing

/-!
# What can fail in reading tokens from text

A lexer goes on in its text with every step, and an exception comes from an escape in the text that
stands for no character (`Lexer.step_steps`). So does every exception among the tokens of a text
(`Token.ofText_raises`).
-/

namespace EnumTables.Yaml

/-! ## Text between quotes -/

def IsVoidEscape (raised : Raised) (part : List Char) : Prop :=
  ∃ kind digits code, part = '\\' :: kind :: digits ∧ escapeWidth? kind = some digits.length ∧
    hexNumber? digits = some code ∧ characterOf code = .error (.exception raised)

/-- What is read of text: an exception comes from an escape. -/
abbrev Scans {α : Type} (text : List Char) (left : α → List Char)
    (outcome : Except ReadError α) : Prop :=
  Follows IsVoidEscape text left outcome

def QuotedPiece.behind : QuotedPiece → List Char
  | .content _ behind | .close behind => behind

theorem quotedBreaks_suffix {text breaks behind : List Char} {atStart : Bool}
    (h : quotedBreaks atStart text = some (breaks, behind)) : behind <:+ text := by
  induction text generalizing atStart breaks with
  | nil =>
    cases h
    exact List.suffix_rfl
  | cons c rest ih =>
    rw [quotedBreaks] at h
    split at h
    · cases h
    · split at h
      · exact (ih h).trans (List.suffix_cons _ _)
      · split at h
        · obtain ⟨⟨others, left⟩, found, same⟩ := Option.map_eq_some_iff.mp h
          cases same
          exact (ih found).trans (List.suffix_cons _ _)
        · cases h
          exact List.suffix_rfl

theorem quotedGap_scans (text : List Char) : Scans text QuotedPiece.behind (quotedGap text) := by
  have gap : text.dropWhile isGap <:+ text := List.dropWhile_suffix _
  unfold quotedGap
  split
  · exact .malformed
  · next c rest dropped =>
    rw [dropped] at gap
    split
    · split
      · exact .malformed
      · next breaks behind found =>
        exact .ok (((quotedBreaks_suffix found).trans (List.suffix_cons _ _)).trans gap)
    · exact .ok gap

theorem quotedEscape_scans (rest : List Char) :
    Scans ('\\' :: rest) QuotedPiece.behind (quotedEscape rest) := by
  have behindEscape := List.suffix_cons '\\' rest
  unfold quotedEscape
  split
  · exact .malformed
  · next c rest =>
    have behindKind := (List.suffix_cons c rest).trans behindEscape
    split
    · exact .ok behindKind
    · next width none known =>
      split
      · exact .malformed
      · next enough =>
        split
        · exact .malformed
        · next code number =>
          have length : (rest.take width).length = width := by
            rw [List.length_take] at enough ⊢
            omega
          have inside : '\\' :: c :: rest.take width <:+: '\\' :: c :: rest :=
            ⟨[], rest.drop width, by simp⟩
          have character : Scans ('\\' :: c :: rest) (fun _ => []) (characterOf code) :=
            ⟨fun raised failed => ⟨_, inside, c, rest.take width, code, rfl, by rw [length, known],
              number, failed⟩, fun _ _ => List.nil_suffix⟩
          exact character.bind fun _ _ => by
            exact .ok ((List.drop_suffix width rest).trans behindKind)
    · split
      · split
        · exact .malformed
        · next breaks behind found => exact .ok ((quotedBreaks_suffix found).trans behindKind)
      · exact .malformed

theorem quotedPiece_scans (quote : Char) (text : List Char) :
    Scans text QuotedPiece.behind (quotedPiece quote text) := by
  cases text with
  | nil => exact .malformed
  | cons c rest =>
    rw [quotedPiece]
    split
    · split
      · exact .ok ((List.drop_suffix _ _).trans (List.suffix_cons _ _))
      · exact .ok (List.suffix_cons _ _)
    · split
      · exact quotedGap_scans _
      · split
        · next escape =>
          obtain rfl : c = '\\' := by simpa using (Bool.and_eq_true_iff.mp escape).1
          exact quotedEscape_scans rest
        · exact .ok (List.suffix_cons _ _)

theorem quotedPieces_scans (quote : Char) (turns : Nat) (text : List Char) :
    Scans text Prod.snd (quotedPieces quote turns text) := by
  induction turns generalizing text with
  | zero => exact .malformed
  | succ turns ih =>
    rw [quotedPieces]
    refine (quotedPiece_scans quote text).bind fun piece suffix => ?_
    cases piece with
    | close behind => exact .ok suffix
    | content piece behind => exact ((ih behind).mono suffix).bind fun _ left => by exact .ok left

/-! ## Tokens -/

namespace Lexer

/-- What a step makes of a lexer: it goes on in the text, and an exception comes from an escape
there. No part that cannot be read is added to the tokens. -/
structure Steps (lexer : Lexer) (outcome : Except ReadError Lexer) : Prop where
  scans : Scans lexer.cursor.rest (fun next => next.cursor.rest) outcome
  tokens : ∀ next, outcome = .ok next → ∀ error, .unreadable error ∈ next.tokens →
    .unreadable error ∈ lexer.tokens

variable {lexer middle : Lexer} {token : Token} {behind : List Char}

namespace Steps

theorem malformed : Steps lexer (.error .malformed) :=
  ⟨.malformed, fun _ done => (by cases done)⟩

theorem ok {next : Lexer} (suffix : next.cursor.rest <:+ lexer.cursor.rest)
    (tokens : ∀ error, .unreadable error ∈ next.tokens → .unreadable error ∈ lexer.tokens) :
    Steps lexer (.ok next) :=
  ⟨.ok suffix, fun _ done => by cases done; exact tokens⟩

theorem refl : Steps lexer (.ok lexer) :=
  .ok List.suffix_rfl fun _ inside => inside

theorem bind {outcome : Except ReadError Lexer} {next : Lexer → Except ReadError Lexer}
    (first : Steps lexer outcome) (second : ∀ middle, Steps middle (next middle)) :
    Steps lexer (outcome >>= next) := by
  refine ⟨first.scans.bind fun middle suffix => (second middle).scans.mono suffix, ?_⟩
  intro last done error inside
  obtain ⟨middle, reached, done⟩ := bind_eq_ok.mp done
  exact first.tokens middle reached error ((second middle).tokens last done error inside)

theorem after {α : Type} {left : α → List Char} {outcome : Except ReadError α}
    {next : α → Except ReadError Lexer} (first : Scans lexer.cursor.rest left outcome)
    (second : ∀ a, outcome = .ok a → Steps lexer (next a)) : Steps lexer (outcome >>= next) := by
  refine ⟨⟨fun raised failed => ?_, fun last done => ?_⟩, fun last done => ?_⟩
  · rcases bind_eq_error.mp failed with failed | ⟨a, found, failed⟩
    · exact first.raises raised failed
    · exact (second a found).scans.raises raised failed
  · obtain ⟨a, found, done⟩ := bind_eq_ok.mp done
    exact (second a found).scans.suffix last done
  · obtain ⟨a, found, done⟩ := bind_eq_ok.mp done
    exact (second a found).tokens last done

theorem trans {outcome : Except ReadError Lexer} (first : Steps lexer (.ok middle))
    (second : Steps middle outcome) : Steps lexer outcome where
  scans := second.scans.mono (first.scans.suffix middle rfl)
  tokens last done error inside :=
    first.tokens middle rfl error (second.tokens last done error inside)

end Steps

theorem advance_suffix (cursor : Cursor) (count : Nat) :
    (cursor.advance count).rest <:+ cursor.rest := by
  induction count generalizing cursor with
  | zero => exact List.suffix_rfl
  | succ count ih =>
    obtain ⟨text, index, line, column⟩ := cursor
    cases text with
    | nil => exact List.suffix_rfl
    | cons c text =>
      have passed : ((Cursor.mk (c :: text) index line column).pass c text).rest = text := by
        unfold Cursor.pass
        split
        · rfl
        · split <;> rfl
      refine (ih _).trans ?_
      rw [passed]
      exact List.suffix_cons _ _

theorem goTo_suffix (cursor : Cursor) (rest : List Char) :
    (cursor.goTo rest).rest <:+ cursor.rest :=
  advance_suffix cursor _

/-! ### Parts of a step -/

theorem emitTo_steps (readable : ∀ error, token ≠ .unreadable error) (behind : List Char) :
    Steps lexer (.ok (lexer.emitTo token behind)) := by
  refine .ok (goTo_suffix _ _) fun error inside => ?_
  rcases List.mem_append.mp inside with old | new
  · exact old
  · exact absurd (List.mem_singleton.mp new).symm (readable error)

theorem unwind_steps (ends : Nat → Bool) : Steps lexer (.ok (lexer.unwind ends)) := by
  unfold unwind
  split
  · exact .refl
  · refine .ok List.suffix_rfl fun error inside => ?_
    rcases List.mem_append.mp inside with old | new
    · exact old
    · cases List.eq_of_mem_replicate new

theorem skip_steps : Steps lexer (.ok lexer.skip) :=
  .ok (goTo_suffix _ _) fun _ inside => inside

theorem forgetStale_steps : Steps lexer lexer.forgetStale := by
  unfold forgetStale
  split
  · exact .malformed
  · exact .ok List.suffix_rfl fun _ inside => inside

theorem forgetKey_steps : Steps lexer lexer.forgetKey := by
  unfold forgetKey
  split
  · exact .refl
  · split
    · exact .malformed
    · exact .ok List.suffix_rfl fun _ inside => inside

theorem noteKey_steps : Steps lexer lexer.noteKey := by
  unfold noteKey
  split
  · exact forgetKey_steps.bind fun _ => .ok List.suffix_rfl fun _ inside => inside
  · exact .refl

theorem allowKey_steps (allowed : Bool) : Steps lexer (.ok (lexer.allowKey allowed)) :=
  .ok List.suffix_rfl fun _ inside => inside

theorem boundary_steps : Steps lexer lexer.boundary :=
  (unwind_steps _).trans (forgetKey_steps.bind fun _ => allowKey_steps false)

theorem content_steps (readable : ∀ error, token ≠ .unreadable error) (behind : List Char) :
    Steps lexer (lexer.content token behind) :=
  noteKey_steps.bind fun _ => (allowKey_steps false).trans (emitTo_steps readable behind)

theorem startBlock_steps (readable : ∀ error, token ≠ .unreadable error) (column place : Nat) :
    Steps lexer (.ok (lexer.startBlock column token place)) := by
  unfold startBlock
  split
  · refine .ok List.suffix_rfl fun error inside => ?_
    rcases List.eq_or_mem_of_mem_insertIdx inside with new | old
    · exact absurd new.symm (readable error)
    · exact old
  · exact .refl

theorem blockIndicator_steps {start : Token} (starts : ∀ error, start ≠ .unreadable error)
    (readable : ∀ error, token ≠ .unreadable error) (allowsKey : Bool) (behind : List Char) :
    Steps lexer (lexer.blockIndicator start token allowsKey behind) := by
  have rest (lexer : Lexer) : Steps lexer
      ((lexer.allowKey allowsKey).forgetKey >>= fun lexer => .ok (lexer.emitTo token behind)) :=
    (allowKey_steps allowsKey).trans
      (forgetKey_steps.bind fun _ => emitTo_steps readable behind)
  unfold blockIndicator
  split
  · exact .malformed
  · split
    · exact rest lexer
    · exact (startBlock_steps starts _ _).trans (rest _)

theorem valueIndicator_steps (behind : List Char) : Steps lexer (lexer.valueIndicator behind) := by
  have rest (lexer : Lexer) :
      Steps lexer (.ok ((lexer.allowKey false).emitTo .value behind)) :=
    (allowKey_steps false).trans (emitTo_steps (by simp) behind)
  unfold valueIndicator
  split
  · next key _ =>
    have noted : Steps lexer (.ok { lexer with
        keys := lexer.keys.filter fun entry => entry.1 != lexer.flowDepth
        tokens := lexer.tokens.insertIdx key.place .key }) := by
      refine .ok List.suffix_rfl fun error inside => ?_
      rcases List.eq_or_mem_of_mem_insertIdx inside with new | old
      · cases new
      · exact old
    refine noted.trans ?_
    dsimp only
    split
    · exact rest _
    · exact (startBlock_steps (by simp) _ _).trans (rest _)
  · exact blockIndicator_steps (by simp) (by simp) _ _

theorem openFlow_steps (readable : ∀ error, token ≠ .unreadable error) (behind : List Char) :
    Steps lexer (lexer.openFlow token behind) := by
  refine noteKey_steps.bind fun lexer => ?_
  have opened : Steps lexer
      (.ok { lexer with flowDepth := lexer.flowDepth + 1, keyAllowed := true }) :=
    .ok List.suffix_rfl fun _ inside => inside
  exact opened.trans (emitTo_steps readable behind)

theorem closeFlow_steps (readable : ∀ error, token ≠ .unreadable error) (behind : List Char) :
    Steps lexer (lexer.closeFlow token behind) := by
  unfold closeFlow
  split
  · refine forgetKey_steps.bind fun lexer => ?_
    have closed : Steps lexer
        (.ok { lexer with flowDepth := lexer.flowDepth - 1, keyAllowed := false }) :=
      .ok List.suffix_rfl fun _ inside => inside
    exact closed.trans (emitTo_steps readable behind)
  · exact .malformed

theorem require_scans {α : Type} (found : Option α) (text : List Char) :
    Scans text (fun _ => []) (require found) := by
  cases found with
  | none => exact .malformed
  | some a => exact .ok List.nil_suffix

theorem require_eq_ok {α : Type} {found : Option α} {a : α} (h : require found = .ok a) :
    found = some a := by
  cases found with
  | none => cases h
  | some a' => rw [Except.ok.inj h]

theorem quoted_steps (quote : Char) {text : List Char} (ahead : text <:+ lexer.cursor.rest) :
    Steps lexer (lexer.quoted quote text) :=
  .after ((quotedPieces_scans quote _ text).mono ahead) fun _ _ => content_steps (by simp) _

theorem block_steps (folded : Bool) (text : List Char) :
    Steps lexer (lexer.block folded text) :=
  (allowKey_steps true).trans <| forgetKey_steps.bind fun _ =>
    .after (require_scans _ _) fun _ _ => emitTo_steps (by simp) _

theorem plain_steps : Steps lexer lexer.plain :=
  (content_steps (by simp) _).bind fun _ => allowKey_steps _

/-! ### Steps -/

theorem directiveBody_readable {name : String} {text : List Char}
    (found : directiveBody name text = some (token, behind)) (error : ReadError) :
    token ≠ .unreadable error := by
  rintro rfl
  unfold directiveBody at found
  split at found
  · obtain ⟨⟨major, rest⟩, -, found⟩ := Option.bind_eq_some_iff.mp found
    dsimp only at found
    split at found
    · obtain ⟨⟨minor, rest⟩, -, found⟩ := Option.bind_eq_some_iff.mp found
      simp at found
    · cases found
  · split at found
    · obtain ⟨⟨handle, rest⟩, -, found⟩ := Option.bind_eq_some_iff.mp found
      dsimp only at found
      split at found
      · cases found
      · obtain ⟨⟨stem, rest⟩, -, found⟩ := Option.bind_eq_some_iff.mp found
        simp at found
    · simp at found

theorem directive_readable {text : List Char} (found : directive text = some (token, behind))
    (error : ReadError) : token ≠ .unreadable error := by
  unfold directive at found
  dsimp only at found
  split at found
  · cases found
  · obtain ⟨⟨token, rest⟩, body, found⟩ := Option.bind_eq_some_iff.mp found
    obtain ⟨behind, -, found⟩ := Option.bind_eq_some_iff.mp found
    cases found
    exact directiveBody_readable body error

theorem tagToken_readable {text : List Char} (found : tagToken text = some (token, behind))
    (error : ReadError) : token ≠ .unreadable error := by
  rintro rfl
  have ended {handle : Option String} {name : String} {rest : List Char}
      (made : (if endsField rest then some (Token.tag handle name, rest) else none) =
        some (.unreadable error, behind)) : False := by
    split at made <;> cases made
  unfold tagToken at found
  dsimp only at found
  split at found
  · obtain ⟨⟨name, rest⟩, -, found⟩ := Option.bind_eq_some_iff.mp found
    dsimp only at found
    split at found
    · exact ended found
    · cases found
  · split at found
    · exact ended found
    · split at found
      · obtain ⟨⟨handle, rest⟩, -, found⟩ := Option.bind_eq_some_iff.mp found
        obtain ⟨⟨name, rest⟩, -, found⟩ := Option.bind_eq_some_iff.mp found
        exact ended found
      · obtain ⟨⟨name, rest⟩, -, found⟩ := Option.bind_eq_some_iff.mp found
        exact ended found

theorem named_steps {make : String → Token} (readable : ∀ name error, make name ≠ .unreadable error)
    (text : List Char) : Steps lexer (do
      let (name, behind) ← require (anchorName text)
      lexer.content (make name) behind) :=
  .after (require_scans _ _) fun _ _ => content_steps (readable _) _

theorem readToken_steps {c : Char} {behind : List Char} (here : lexer.cursor.rest = c :: behind) :
    Steps lexer (lexer.readToken c behind) := by
  have ahead : behind <:+ lexer.cursor.rest := here ▸ List.suffix_cons c behind
  unfold readToken
  dsimp only
  split
  · exact boundary_steps.bind fun _ => .after (require_scans _ _) fun _ found =>
      emitTo_steps (directive_readable (require_eq_ok found)) _
  split
  · exact boundary_steps.bind fun _ => emitTo_steps (by simp) _
  split
  · exact boundary_steps.bind fun _ => emitTo_steps (by simp) _
  split
  · exact openFlow_steps (by simp) _
  · exact openFlow_steps (by simp) _
  · exact closeFlow_steps (by simp) _
  · exact closeFlow_steps (by simp) _
  · exact (allowKey_steps true).trans (forgetKey_steps.bind fun _ => emitTo_steps (by simp) _)
  · exact named_steps (by simp) _
  · exact named_steps (by simp) _
  · exact .after (require_scans _ _) fun _ found =>
      content_steps (tagToken_readable (require_eq_ok found)) _
  · exact quoted_steps '\'' ahead
  · exact quoted_steps '"' ahead
  split
  · exact blockIndicator_steps (by simp) (by simp) _ _
  split
  · exact blockIndicator_steps (by simp) (by simp) _ _
  split
  · exact valueIndicator_steps _
  split
  · exact block_steps false _
  split
  · exact block_steps true _
  split
  · exact plain_steps
  · exact .malformed

theorem end_steps : Steps lexer (lexer.boundary >>= fun next => .ok (next.emit .streamEnd)) := by
  refine boundary_steps.bind fun next => .ok List.suffix_rfl fun error inside => ?_
  rcases List.mem_append.mp inside with old | new
  · exact old
  · cases List.mem_singleton.mp new

theorem step_steps : Steps lexer (lexer.step.map Prod.fst) := by
  have noted {lexer : Lexer} {outcome : Except ReadError Lexer} {make : Lexer → Lexer}
      {isLast : Bool} (h : Steps lexer (outcome >>= fun next => .ok (make next))) :
      Steps lexer ((outcome >>= fun next => pure (make next, isLast)).map Prod.fst) := by
    cases outcome <;> exact h
  have start : Steps lexer lexer.skip.forgetStale := skip_steps.trans forgetStale_steps
  unfold step
  cases done : lexer.skip.forgetStale with
  | error error =>
    rw [done] at start
    exact start.bind fun _ => .refl
  | ok middle =>
    rw [done] at start
    refine start.trans ((unwind_steps fun column => middle.cursor.column < column).trans ?_)
    change Steps _ (Except.map Prod.fst (Except.bind _ _))
    dsimp only [Except.bind]
    split
    · exact noted end_steps
    · next c behind here => exact noted ((readToken_steps here).bind fun _ => .refl)

theorem run_raises {raised : Raised} (fuel : Nat) (lexer : Lexer)
    (inside : .unreadable (.exception raised) ∈ lexer.run fuel) :
    .unreadable (.exception raised) ∈ lexer.tokens ∨
      ∃ part, part <:+: lexer.cursor.rest ∧ IsVoidEscape raised part := by
  induction fuel generalizing lexer with
  | zero => exact .inl inside
  | succ fuel ih =>
    have stepped := lexer.step_steps
    rw [run] at inside
    split at inside
    · next error failed =>
      -- only a failed step adds what cannot be read, and it is the last one
      rw [failed] at stepped
      rcases List.mem_append.mp inside with old | new
      · exact .inl (List.mem_of_mem_take old)
      · obtain rfl : ReadError.exception raised = error := by simpa using new
        exact .inr (stepped.scans.raises raised rfl)
    · next next done =>
      rw [done] at stepped
      exact .inl (stepped.tokens next rfl _ inside)
    · next next done =>
      rw [done] at stepped
      rcases ih next inside with old | ⟨part, ahead, void⟩
      · exact .inl (stepped.tokens next rfl _ old)
      · exact .inr ⟨part, ahead.trans (stepped.scans.suffix next rfl).isInfix, void⟩

end Lexer

theorem Token.ofText_raises {raised : Raised} {text : List Char}
    (inside : .unreadable (.exception raised) ∈ Token.ofText text) :
    ∃ part, part <:+: text ∧ IsVoidEscape raised part := by
  unfold ofText at inside
  split at inside
  · rcases Lexer.run_raises _ _ inside with old | ⟨part, ahead, void⟩
    · cases old
    · refine ⟨part, ahead.trans (List.IsSuffix.isInfix ?_), void⟩
      unfold Lexer.start
      dsimp only
      split
      · exact Lexer.advance_suffix _ _
      · exact List.suffix_rfl
  · simp at inside

end EnumTables.Yaml
