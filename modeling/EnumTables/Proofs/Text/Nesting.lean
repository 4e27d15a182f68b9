import EnumTables.Proofs.Text.Marks

/-!
# Text in brackets and quotes

A text is read from left to right, keeping how many brackets are open and whether a quote is. It is
*enclosed* if it ends where it began and has no comma outside of its brackets and quotes. Enclosed
texts that are joined by commas are found again by cutting at the commas outside
(`pieces?_intercalate`), whatever brackets, quotes and commas stand in them.
-/

namespace EnumTables.Text

/-- How many brackets are open at a place of a text, and whether it is inside quotes. -/
structure Nesting where
  depth : Nat
  quoted : Bool
  deriving DecidableEq, Repr

namespace Nesting

def outside : Nesting := ⟨0, false⟩

def within (depth : Nat) : Nesting := ⟨depth, false⟩

def openings : List Char := ['(', '[', '\x7b']

def closings : List Char := [')', ']', '\x7d']

def signs : List Char := ['"', ','] ++ openings ++ closings

/-- Goes past a character. There is no way past a comma outside, nor past a bracket that closes
nothing. -/
def step (nesting : Nesting) (c : Char) : Option Nesting :=
  if nesting.quoted then some ⟨nesting.depth, c != '"'⟩
  else if c = '"' then some ⟨nesting.depth, true⟩
  else if c ∈ openings then some (within (nesting.depth + 1))
  else if c ∈ closings then
    if nesting.depth = 0 then none else some (within (nesting.depth - 1))
  else if c = ',' ∧ nesting.depth = 0 then none
  else some nesting

def run (nesting : Nesting) (text : List Char) : Option Nesting :=
  text.foldlM step nesting

def deeper (nesting : Nesting) (more : Nat) : Nesting :=
  ⟨nesting.depth + more, nesting.quoted⟩

@[simp] theorem run_nil (nesting : Nesting) : run nesting [] = some nesting := rfl

@[simp] theorem run_cons (nesting : Nesting) (c : Char) (rest : List Char) :
    run nesting (c :: rest) = (nesting.step c).bind fun next => run next rest := rfl

@[simp] theorem run_append (nesting : Nesting) (left right : List Char) :
    run nesting (left ++ right) = (run nesting left).bind fun next => run next right :=
  List.foldlM_append

theorem step_deeper {nesting next : Nesting} {c : Char} (more : Nat)
    (h : nesting.step c = some next) : (nesting.deeper more).step c = some (next.deeper more) := by
  obtain ⟨depth, quoted⟩ := nesting
  cases quoted with
  | true =>
    obtain rfl : ⟨depth, c != '"'⟩ = next := by simpa [step] using h
    simp [step, deeper]
  | false =>
    by_cases quote : c = '"'
    · obtain rfl : ⟨depth, true⟩ = next := by simpa [step, quote] using h
      simp [step, deeper, quote]
    · by_cases opening : c ∈ openings
      · obtain rfl : within (depth + 1) = next := by simpa [step, quote, opening] using h
        simp [step, deeper, within, quote, opening, Nat.add_right_comm]
      · by_cases closing : c ∈ closings
        · -- a bracket that closes something closes the same one with more around it
          have some_open : depth ≠ 0 := by
            rintro rfl
            simp [step, quote, opening, closing] at h
          obtain rfl : within (depth - 1) = next := by
            simpa [step, quote, opening, closing, some_open] using h
          simp [step, deeper, within, quote, opening, closing, some_open]
          omega
        · have not_cut : ¬(c = ',' ∧ depth = 0) := by
            rintro ⟨rfl, rfl⟩
            simp [step, openings, closings] at h
          obtain rfl : ⟨depth, false⟩ = next := by
            simpa [step, quote, opening, closing, not_cut] using h
          simp only [step, deeper, Bool.false_eq_true, quote, opening, closing, if_false]
          exact if_neg fun cut => not_cut ⟨cut.1, by omega⟩

theorem run_deeper {nesting next : Nesting} {text : List Char} (more : Nat)
    (h : run nesting text = some next) :
    run (nesting.deeper more) text = some (next.deeper more) := by
  induction text generalizing nesting with
  | nil =>
    obtain rfl := Option.some.inj h
    rfl
  | cons c rest ih =>
    rw [run_cons, Option.bind_eq_some_iff] at h
    obtain ⟨middle, first, others⟩ := h
    rw [run_cons, step_deeper more first, Option.bind_some, ih others]

theorem run_plain {text : List Char} (plain : ∀ c ∈ text, c ∉ signs) (depth : Nat) :
    run (within depth) text = some (within depth) := by
  induction text with
  | nil => rfl
  | cons c rest ih =>
    have sign := plain c List.mem_cons_self
    simp only [signs, List.mem_append, List.mem_cons, List.not_mem_nil, or_false, not_or] at sign
    have first : (within depth).step c = some (within depth) := by
      simp [step, within, sign]
    rw [run_cons, first, Option.bind_some, ih fun c h => plain c (List.mem_cons_of_mem _ h)]

theorem run_quoted {text : List Char} (unquoted : '"' ∉ text) (depth : Nat) :
    run ⟨depth, true⟩ text = some ⟨depth, true⟩ := by
  induction text with
  | nil => rfl
  | cons c rest ih =>
    rw [List.mem_cons, not_or] at unquoted
    have first : step ⟨depth, true⟩ c = some ⟨depth, true⟩ := by
      simp [step, Ne.symm unquoted.1]
    rw [run_cons, first, Option.bind_some, ih unquoted.2]

/-- The text ends where it began and has no comma outside of its brackets and quotes. -/
def IsEnclosed (text : List Char) : Prop :=
  run outside text = some outside

instance : DecidablePred IsEnclosed := fun text =>
  inferInstanceAs (Decidable (run outside text = some outside))

namespace IsEnclosed

theorem run_within {text : List Char} (h : IsEnclosed text) (depth : Nat) :
    run (within depth) text = some (within depth) := by
  simpa [deeper, outside, within] using run_deeper depth h

theorem of_plain {text : List Char} (plain : ∀ c ∈ text, c ∉ signs) : IsEnclosed text :=
  run_plain plain 0

theorem append {left right : List Char} (hl : IsEnclosed left) (hr : IsEnclosed right) :
    IsEnclosed (left ++ right) := by
  unfold IsEnclosed at *
  rw [run_append, hl, Option.bind_some, hr]

theorem quotes {text : List Char} (unquoted : '"' ∉ text) :
    IsEnclosed ('"' :: text ++ ['"']) := by
  have first : step outside '"' = some ⟨0, true⟩ := rfl
  have last : step ⟨0, true⟩ '"' = some outside := rfl
  unfold IsEnclosed
  simp [first, last, run_quoted unquoted]

theorem brackets {opening closing : Char} {text : List Char} (ho : opening ∈ openings)
    (hc : closing ∈ closings) (inner : run (within 1) text = some (within 1)) :
    IsEnclosed (opening :: text ++ [closing]) := by
  have first : ∀ c ∈ openings, step outside c = some (within 1) := by decide
  have last : ∀ c ∈ closings, step (within 1) c = some outside := by decide
  unfold IsEnclosed
  simp [first opening ho, inner, last closing hc]

end IsEnclosed

theorem run_comma (depth : Nat) :
    run (within (depth + 1)) [',', ' '] = some (within (depth + 1)) := by
  simp [step, within, openings, closings]

theorem run_intercalate {texts : List (List Char)} (enclosed : ∀ text ∈ texts, IsEnclosed text)
    (depth : Nat) :
    run (within (depth + 1)) ([',', ' '].intercalate texts) = some (within (depth + 1)) := by
  induction texts with
  | nil => rfl
  | cons text rest ih =>
    have first := (enclosed text List.mem_cons_self).run_within (depth + 1)
    cases rest with
    | nil => simpa using first
    | cons next rest =>
      have others := ih fun text h => enclosed text (List.mem_cons_of_mem _ h)
      rw [List.intercalate_cons_cons, run_append, run_append, first, Option.bind_some, run_comma,
        Option.bind_some, others]

end Nesting

/-! ## Pieces -/

open Nesting

/-- Cuts what follows a place at the commas outside of brackets and quotes, each with the blank
behind it. Brackets and quotes must close. -/
def piecesFrom? : Nesting → List Char → Option (List (List Char))
  | nesting, [] => if nesting = outside then some [[]] else none
  | nesting, c :: rest =>
    if c = ',' ∧ nesting = outside then match rest with
      | ' ' :: rest => (piecesFrom? outside rest).map ([] :: ·)
      | _ => none
    else do
      let next ← nesting.step c
      (piecesFrom? next rest).map (List.modifyHead (c :: ·))

def pieces? (text : List Char) : Option (List (List Char)) :=
  piecesFrom? outside text

theorem piecesFrom?_append {nesting next : Nesting} {text : List Char}
    (h : run nesting text = some next) (rest : List Char) :
    piecesFrom? nesting (text ++ rest) =
      (piecesFrom? next rest).map (List.modifyHead (text ++ ·)) := by
  induction text generalizing nesting with
  | nil =>
    obtain rfl := Option.some.inj h
    have unchanged : List.modifyHead (([] : List Char) ++ ·) = id := by
      funext pieces
      cases pieces <;> rfl
    rw [List.nil_append, unchanged, Option.map_id, id]
  | cons c text ih =>
    rw [run_cons, Option.bind_eq_some_iff] at h
    obtain ⟨middle, first, others⟩ := h
    have noCut : ¬(c = ',' ∧ nesting = outside) := by
      rintro ⟨rfl, rfl⟩
      exact Option.some_ne_none middle first.symm
    rw [List.cons_append, piecesFrom?.eq_def]
    simp [noCut, first, ih others, Function.comp_def]

theorem pieces?_singleton {text : List Char} (enclosed : IsEnclosed text) :
    pieces? text = some [text] := by
  have := piecesFrom?_append enclosed []
  simpa [pieces?, piecesFrom?] using this

theorem pieces?_cons {text : List Char} (enclosed : IsEnclosed text) (rest : List Char) :
    pieces? (text ++ [',', ' '] ++ rest) = (pieces? rest).map (text :: ·) := by
  rw [List.append_assoc, pieces?, piecesFrom?_append enclosed]
  simp [piecesFrom?, pieces?, Function.comp_def]

theorem pieces?_intercalate {texts : List (List Char)} (nonempty : texts ≠ [])
    (enclosed : ∀ text ∈ texts, IsEnclosed text) :
    pieces? ([',', ' '].intercalate texts) = some texts := by
  induction texts with
  | nil => exact absurd rfl nonempty
  | cons text rest ih =>
    have first := enclosed text List.mem_cons_self
    cases rest with
    | nil => simpa using pieces?_singleton first
    | cons next rest =>
      have others := ih (List.cons_ne_nil _ _) fun text h =>
        enclosed text (List.mem_cons_of_mem _ h)
      rw [List.intercalate_cons_cons, pieces?_cons first, others, Option.map_some]

/-- Enclosed texts can be told apart after they were joined by commas. None of them is empty, so
that no text is not one empty text. -/
theorem intercalate_inj {lefts rights : List (List Char)}
    (hl : ∀ text ∈ lefts, IsEnclosed text ∧ text ≠ [])
    (hr : ∀ text ∈ rights, IsEnclosed text ∧ text ≠ [])
    (same : [',', ' '].intercalate lefts = [',', ' '].intercalate rights) : lefts = rights := by
  have nonempty {texts : List (List Char)} (full : ∀ text ∈ texts, IsEnclosed text ∧ text ≠ [])
      (h : [',', ' '].intercalate texts = []) : texts = [] := by
    cases texts with
    | nil => rfl
    | cons text rest =>
      have := (full text List.mem_cons_self).2
      cases rest <;> simp_all
  by_cases left : lefts = []
  · subst left
    exact (nonempty hr same.symm).symm
  · have right : rights ≠ [] := by
      rintro rfl
      exact left (nonempty hl same)
    have pieces := pieces?_intercalate left fun text h => (hl text h).1
    rw [same, pieces?_intercalate right fun text h => (hr text h).1] at pieces
    exact (Option.some.inj pieces).symm

end EnumTables.Text
