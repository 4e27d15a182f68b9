import EnumTables.Proofs.Outcome
import EnumTables.Yaml.Node

/-!
# What can fail in reading a document from its tokens

Tokens are read from the front, and what is left of them is their end. An exception comes out only
if it stands among the tokens as text that cannot be read, or if there is no room for what begins at
one of the tokens (`Node.ofTokens?_follows`); whatever else is wrong with a document makes it
malformed.
-/

namespace EnumTables.Yaml

/-- What is read of an input, with what is left of it: a fault of the input comes out as an
exception only if it is there, and what is left is the end of the input. -/
structure Follows {τ α : Type} (fault : Raised → List τ → Prop) (input : List τ) (left : α → List τ)
    (outcome : Except ReadError α) : Prop where
  raises : ∀ raised, outcome = .error (.exception raised) →
    ∃ part, part <:+: input ∧ fault raised part
  suffix : ∀ a, outcome = .ok a → left a <:+ input

namespace Follows

variable {τ α β : Type} {fault : Raised → List τ → Prop} {input rest : List τ} {left : α → List τ}
  {later : β → List τ}

theorem malformed : Follows fault input left (.error .malformed) :=
  ⟨fun _ failed => (by cases failed), fun _ done => (by cases done)⟩

theorem ok {a : α} (suffix : left a <:+ input) : Follows fault input left (.ok a) :=
  ⟨fun _ failed => (by cases failed), fun _ done => by cases done; exact suffix⟩

theorem error {raised : Raised} {part : List τ} (inside : part <:+: input)
    (isFault : fault raised part) : Follows fault input left (.error (.exception raised)) :=
  ⟨fun _ failed => by cases failed; exact ⟨part, inside, isFault⟩, fun _ done => (by cases done)⟩

theorem mono {outcome : Except ReadError α} (h : Follows fault rest left outcome)
    (suffix : rest <:+ input) : Follows fault input left outcome where
  raises raised failed := by
    obtain ⟨part, inside, isFault⟩ := h.raises raised failed
    exact ⟨part, inside.trans suffix.isInfix, isFault⟩
  suffix a done := (h.suffix a done).trans suffix

theorem bind {outcome : Except ReadError α} {next : α → Except ReadError β}
    (first : Follows fault input left outcome)
    (second : ∀ a, left a <:+ input → Follows fault input later (next a)) :
    Follows fault input later (outcome >>= next) where
  raises raised failed := by
    rcases bind_eq_error.mp failed with failed | ⟨a, done, failed⟩
    · exact first.raises raised failed
    · exact (second a (first.suffix a done)).raises raised failed
  suffix b done := by
    obtain ⟨a, reached, done⟩ := bind_eq_ok.mp done
    exact (second a (first.suffix a reached)).suffix b done

end Follows

/-! ## Documents -/

/-- Why reading some tokens raises: they are text that cannot be read, or stand too deep. -/
def Token.Raises (runtime : Runtime) (raised : Raised) (part : List Token) : Prop :=
  part = [.unreadable (.exception raised)] ∨
    raised = Runtime.overflow ∧ ∃ depth, runtime.hasRoom depth part = false

abbrev Reads {α : Type} (runtime : Runtime) (tokens : List Token) (left : α → List Token)
    (outcome : Except ReadError α) : Prop :=
  Follows (Token.Raises runtime) tokens left outcome

namespace Node

variable {runtime : Runtime} {tokens : List Token}

abbrev leftBy {α : Type} (read : α × TokenStream) : List Token :=
  read.2.tokens

theorem unreadable_reads {α : Type} (error : ReadError) (rest : List Token)
    (left : α → List Token) : Reads runtime (.unreadable error :: rest) left (.error error) := by
  cases error with
  | malformed => exact .malformed
  | exception raised => exact .error (List.prefix_append [_] rest).isInfix (.inl rfl)

theorem unexpected_follows {α : Type} (tokens : List Token) (left : α → List Token) :
    Reads runtime tokens left (unexpected tokens) := by
  unfold unexpected
  split
  · next error rest => exact unreadable_reads error rest _
  · exact .malformed

theorem readable_follows (tokens : List Token) :
    Reads runtime tokens (fun _ => []) (readable tokens) := by
  unfold readable
  split
  · next error rest => exact unreadable_reads error rest _
  · exact .ok List.nil_suffix

theorem tagName_follows (handles : List (String × String)) (handle : Option String)
    (rest : String) (tokens : List Token) :
    Reads runtime tokens (fun _ => []) (tagName handles handle rest) := by
  unfold tagName
  split
  · exact .ok List.nil_suffix
  · split
    · exact .ok List.nil_suffix
    · exact .malformed

theorem readHead_follows (handles : List (String × String)) (tokens : List Token) :
    Reads runtime tokens Prod.snd (readHead handles tokens) := by
  have two {a b : Token} {rest : List Token} : rest <:+ a :: b :: rest :=
    (List.suffix_cons _ _).trans (List.suffix_cons _ _)
  unfold readHead
  split
  · exact (tagName_follows _ _ _ _).bind fun _ _ => .ok two
  · exact .ok (List.suffix_cons _ _)
  · exact (tagName_follows _ _ _ _).bind fun _ _ => .ok two
  · exact ((readable_follows _).mono (List.suffix_cons _ _)).bind fun _ _ =>
      (tagName_follows _ _ _ _).bind fun _ _ => .ok (List.suffix_cons _ _)
  · exact .ok List.suffix_rfl

theorem note_tokens (anchor : Option String) (node : Node) (stream : TokenStream) :
    (note anchor node stream).tokens = stream.tokens := by
  cases anchor <;> rfl

theorem finish_follows {α : Type} {anchor : Option String} {make : List α → Node}
    {parsed : Except ReadError (List α × TokenStream)} (h : Reads runtime tokens leftBy parsed) :
    Reads runtime tokens leftBy (finish anchor make parsed) := by
  refine h.bind fun read suffix => .ok ?_
  rwa [leftBy, note_tokens]

theorem empty_follows (stream : TokenStream) :
    Reads runtime stream.tokens leftBy (.ok (empty, stream)) :=
  .ok List.suffix_rfl

-- The readers call each other with less fuel, so they are followed in one induction. Each case goes
-- along the tokens: what one reader leaves is the input of the next.
mutual

theorem read_follows (context : Context) (place : NodePlace) (depth : Nat) :
    ∀ (fuel : Nat) (stream : TokenStream),
      Reads context.runtime stream.tokens leftBy (read context place depth fuel stream)
  | 0, _ => .malformed
  | fuel + 1, stream => by
    rw [read.eq_def]
    dsimp only
    split
    · next noRoom =>
      exact .error List.infix_rfl (.inr ⟨rfl, depth, by simpa using noRoom⟩)
    split
    · next name rest same =>
      rw [same]
      split
      · exact .ok (List.suffix_cons _ _)
      · exact .malformed
    · refine (readHead_follows _ _).bind fun read suffix => ?_
      obtain ⟨head, tokens⟩ := read
      refine ((readable_follows tokens).mono suffix).bind fun _ _ => ?_
      split
      · exact .malformed
      · exact (readContent_follows context place depth head fuel _).mono suffix
termination_by structural fuel => fuel

theorem readContent_follows (context : Context) (place : NodePlace) (depth : Nat)
    (head : NodeHead) : ∀ (fuel : Nat) (stream : TokenStream),
      Reads context.runtime stream.tokens leftBy (readContent context place depth head fuel stream)
  | 0, _ => .malformed
  | fuel + 1, stream => by
    rw [readContent.eq_def]
    have inside {rest : List Token} {make : Node} (suffix : rest <:+ stream.tokens) :
        (note head.anchor make { stream with tokens := rest }).tokens <:+ stream.tokens := by
      rwa [note_tokens]
    have leaf {rest : List Token} {node : Node} (suffix : rest <:+ stream.tokens) :
        Reads context.runtime stream.tokens leftBy
          (.ok (node, note head.anchor node { stream with tokens := rest })) :=
      .ok (inside suffix)
    dsimp only
    split
    · next text isPlain rest same =>
      exact leaf (same ▸ List.suffix_cons _ _)
    · next rest same =>
      exact finish_follows ((readFlowItems_follows context _ true fuel _).mono
        (inside (same ▸ List.suffix_cons _ _)))
    · next rest same =>
      exact finish_follows ((readFlowEntries_follows context _ true fuel _).mono
        (inside (same ▸ List.suffix_cons _ _)))
    · next rest same =>
      split
      · exact finish_follows ((readItems_follows context _ fuel _).mono
          (inside (same ▸ List.suffix_cons _ _)))
      · split
        · exact leaf List.suffix_rfl
        · exact .malformed
    · next rest same =>
      split
      · exact finish_follows ((readEntries_follows context _ fuel _).mono
          (inside (same ▸ List.suffix_cons _ _)))
      · split
        · exact leaf List.suffix_rfl
        · exact .malformed
    · split
      · exact finish_follows ((readOpenItems_follows context _ fuel _).mono
          (inside List.suffix_rfl))
      · split
        · exact leaf List.suffix_rfl
        · exact .malformed
    · split
      · exact leaf List.suffix_rfl
      · exact .malformed
termination_by structural fuel => fuel

theorem readItems_follows (context : Context) (depth : Nat) : ∀ (fuel : Nat)
    (stream : TokenStream),
      Reads context.runtime stream.tokens leftBy (readItems context depth fuel stream)
  | 0, _ => .malformed
  | fuel + 1, stream => by
    rw [readItems.eq_def]
    dsimp only
    split
    · next rest same =>
      rw [same]
      have item {first : Except ReadError (Node × TokenStream)}
          (h : Reads context.runtime rest leftBy first) :
          Reads context.runtime (.blockEntry :: rest) leftBy (first >>= fun item =>
            readItems context depth fuel item.2 >>= fun others =>
              pure (item.1 :: others.1, others.2)) :=
        (h.bind fun _ suffix => ((readItems_follows context _ fuel _).mono suffix).bind
          fun _ left => by exact .ok left).mono (List.suffix_cons _ _)
      split
      · exact item (empty_follows ⟨_, _⟩)
      · exact item (empty_follows ⟨_, _⟩)
      · exact item (read_follows context .block _ fuel ⟨rest, _⟩)
    · next rest same => exact .ok (same ▸ List.suffix_cons _ _)
    · exact unexpected_follows _ _
termination_by structural fuel => fuel

theorem readOpenItems_follows (context : Context) (depth : Nat) : ∀ (fuel : Nat)
    (stream : TokenStream),
      Reads context.runtime stream.tokens leftBy (readOpenItems context depth fuel stream)
  | 0, _ => .malformed
  | fuel + 1, stream => by
    rw [readOpenItems.eq_def]
    dsimp only
    split
    · next rest same =>
      rw [same]
      have item {first : Except ReadError (Node × TokenStream)}
          (h : Reads context.runtime rest leftBy first) :
          Reads context.runtime (.blockEntry :: rest) leftBy (first >>= fun item =>
            readOpenItems context depth fuel item.2 >>= fun others =>
              pure (item.1 :: others.1, others.2)) :=
        (h.bind fun _ suffix => ((readOpenItems_follows context _ fuel _).mono suffix).bind
          fun _ left => by exact .ok left).mono (List.suffix_cons _ _)
      split
      · exact item (empty_follows ⟨_, _⟩)
      · exact item (empty_follows ⟨_, _⟩)
      · exact item (empty_follows ⟨_, _⟩)
      · exact item (empty_follows ⟨_, _⟩)
      · exact item (read_follows context .block _ fuel ⟨rest, _⟩)
    · exact .ok List.suffix_rfl
termination_by structural fuel => fuel

theorem readEntries_follows (context : Context) (depth : Nat) : ∀ (fuel : Nat)
    (stream : TokenStream),
      Reads context.runtime stream.tokens leftBy (readEntries context depth fuel stream)
  | 0, _ => .malformed
  | fuel + 1, stream => by
    rw [readEntries.eq_def]
    dsimp only
    split
    · next rest same =>
      rw [same]
      have value (key : Node) {tokens : List Token} {second : Except ReadError (Node × TokenStream)}
          (h : Reads context.runtime tokens leftBy second) :
          Reads context.runtime tokens leftBy (second >>= fun value =>
            readEntries context depth fuel value.2 >>= fun others =>
              pure ((key, value.1) :: others.1, others.2)) :=
        h.bind fun _ suffix => ((readEntries_follows context _ fuel _).mono suffix).bind
          fun _ left => by exact .ok left
      split
      all_goals
        refine Follows.mono ?_ (List.suffix_cons _ _)
        first
        | refine (empty_follows ⟨_, _⟩).bind fun key suffix => ?_
        | refine (read_follows context .blockValue _ fuel ⟨_, _⟩).bind fun key suffix => ?_
        refine Follows.mono ?_ suffix
        split
        · next behind found =>
          refine Follows.mono ?_ (found ▸ List.suffix_cons _ behind)
          split
          · exact value _ (empty_follows ⟨_, _⟩)
          · exact value _ (empty_follows ⟨_, _⟩)
          · exact value _ (empty_follows ⟨_, _⟩)
          · exact value _ (read_follows context .blockValue _ fuel ⟨_, _⟩)
        · exact value _ (empty_follows _)
    · next rest same => exact .ok (same ▸ List.suffix_cons _ _)
    · exact unexpected_follows _ _
termination_by structural fuel => fuel

theorem readFlowItems_follows (context : Context) (depth : Nat) (isFirst : Bool) : ∀ (fuel : Nat)
    (stream : TokenStream),
      Reads context.runtime stream.tokens leftBy (readFlowItems context depth isFirst fuel stream)
  | 0, _ => .malformed
  | fuel + 1, stream => by
    rw [readFlowItems.eq_def]
    dsimp only
    have item {tokens : List Token} {first : Except ReadError (Node × TokenStream)}
        (h : Reads context.runtime tokens leftBy first) :
        Reads context.runtime tokens leftBy (first >>= fun item =>
          readFlowItems context depth false fuel item.2 >>= fun others =>
            pure (item.1 :: others.1, others.2)) :=
      h.bind fun _ suffix => ((readFlowItems_follows context _ false fuel _).mono suffix).bind
        fun _ left => by exact .ok left
    have pair (tokens : List Token) : Reads context.runtime (.key :: tokens) leftBy
        (readFlowEntry context (depth + 1) true fuel { stream with tokens := tokens } >>=
          fun entry =>
          pure (mapping .mapping [entry.1], entry.2) >>= fun item =>
            readFlowItems context depth false fuel item.2 >>= fun others =>
              pure (item.1 :: others.1, others.2)) :=
      ((readFlowEntry_follows context _ true fuel _).bind fun _ suffix =>
        (item (.ok List.suffix_rfl)).mono suffix).mono (List.suffix_cons _ _)
    split
    · next rest same => exact .ok (same ▸ List.suffix_cons _ _)
    · next rest same =>
      split
      · exact .malformed
      · refine Follows.mono ?_ (same ▸ List.suffix_cons _ rest)
        split
        · exact .ok (List.suffix_cons _ _)
        · split
          · exact pair _
          · exact item (read_follows context .flow _ fuel ⟨_, _⟩)
    · split
      · split
        · next rest same =>
          rw [same]
          exact pair _
        · exact item (read_follows context .flow _ fuel ⟨_, _⟩)
      · exact unexpected_follows _ _
termination_by structural fuel => fuel

theorem readFlowEntry_follows (context : Context) (depth : Nat) (inSequence : Bool) :
    ∀ (fuel : Nat) (stream : TokenStream),
      Reads context.runtime stream.tokens leftBy
        (readFlowEntry context depth inSequence fuel stream)
  | 0, _ => .malformed
  | fuel + 1, stream => by
    rw [readFlowEntry.eq_def]
    dsimp only
    generalize (if inSequence = true then Token.flowSequenceEnd else .flowMappingEnd) = last
    split
    all_goals
      first
      | refine (empty_follows stream).bind fun key suffix => ?_
      | refine (read_follows context .flow _ fuel stream).bind fun key suffix => ?_
      refine Follows.mono ?_ suffix
      split
      · next behind found =>
        refine Follows.mono ?_ (found ▸ List.suffix_cons _ behind)
        split
        · exact (empty_follows ⟨behind, _⟩).bind fun _ left => by exact .ok left
        · exact (read_follows context .flow _ fuel ⟨behind, _⟩).bind fun _ left => by exact .ok left
      · exact (empty_follows _).bind fun _ left => by exact .ok left
termination_by structural fuel => fuel

theorem readFlowEntries_follows (context : Context) (depth : Nat) (isFirst : Bool) :
    ∀ (fuel : Nat) (stream : TokenStream),
      Reads context.runtime stream.tokens leftBy (readFlowEntries context depth isFirst fuel stream)
  | 0, _ => .malformed
  | fuel + 1, stream => by
    rw [readFlowEntries.eq_def]
    dsimp only
    have entry {tokens : List Token} {first : Except ReadError ((Node × Node) × TokenStream)}
        (h : Reads context.runtime tokens leftBy first) :
        Reads context.runtime tokens leftBy (first >>= fun entry =>
          readFlowEntries context depth false fuel entry.2 >>= fun others =>
            pure (entry.1 :: others.1, others.2)) :=
      h.bind fun _ suffix => ((readFlowEntries_follows context _ false fuel _).mono suffix).bind
        fun _ left => by exact .ok left
    have pair (tokens : List Token) : Reads context.runtime (.key :: tokens) leftBy
        (readFlowEntry context depth false fuel { stream with tokens := tokens } >>= fun entry =>
          readFlowEntries context depth false fuel entry.2 >>= fun others =>
            pure (entry.1 :: others.1, others.2)) :=
      (entry (readFlowEntry_follows context _ false fuel ⟨tokens, _⟩)).mono (List.suffix_cons _ _)
    have single (tokens : List Token) : Reads context.runtime tokens leftBy
        (read context .flow depth fuel { stream with tokens := tokens } >>= fun key =>
          pure ((key.1, empty), key.2) >>= fun entry =>
            readFlowEntries context depth false fuel entry.2 >>= fun others =>
              pure (entry.1 :: others.1, others.2)) :=
      (read_follows context .flow _ fuel ⟨tokens, _⟩).bind fun _ suffix =>
        (entry (.ok List.suffix_rfl)).mono suffix
    split
    · next rest same => exact .ok (same ▸ List.suffix_cons _ _)
    · next rest same =>
      split
      · exact .malformed
      · refine Follows.mono ?_ (same ▸ List.suffix_cons _ rest)
        split
        · exact .ok (List.suffix_cons _ _)
        · split
          · exact pair _
          · exact single _
    · split
      · split
        · next rest same =>
          rw [same]
          exact pair rest
        · exact single _
      · exact unexpected_follows _ _
termination_by structural fuel => fuel

end

theorem readDirectives_follows (directives : Directives) (tokens : List Token) :
    Reads runtime tokens Prod.snd (readDirectives directives tokens) := by
  induction tokens generalizing directives with
  | nil => exact .ok List.suffix_rfl
  | cons token rest ih =>
    rw [readDirectives.eq_def]
    split
    · next same =>
      obtain ⟨rfl, rfl⟩ := List.cons.inj same
      split
      · exact .malformed
      · exact (ih _).mono (List.suffix_cons _ _)
    · next same =>
      obtain ⟨rfl, rfl⟩ := List.cons.inj same
      split
      · exact .malformed
      · exact (ih _).mono (List.suffix_cons _ _)
    · next same =>
      obtain ⟨rfl, rfl⟩ := List.cons.inj same
      exact (ih _).mono (List.suffix_cons _ _)
    · exact .ok List.suffix_rfl

theorem readEnd_follows (tokens : List Token) :
    Reads runtime tokens (fun _ => []) (readEnd tokens) := by
  induction tokens with
  | nil => exact .malformed
  | cons token rest ih =>
    rw [readEnd.eq_def]
    split
    · next same =>
      obtain ⟨rfl, rfl⟩ := List.cons.inj same
      exact ih.mono (List.suffix_cons _ _)
    · exact .ok List.nil_suffix
    · exact (readDirectives_follows _ _).bind fun _ suffix =>
        (unexpected_follows _ _).mono suffix

theorem readOnly_follows (context : Context) (tokens : List Token) :
    Reads context.runtime tokens (fun _ => []) (readOnly context tokens) :=
  (read_follows context .block 0 _ ⟨tokens, []⟩).bind fun _ suffix =>
    ((readEnd_follows _).mono suffix).bind fun _ _ => by exact .ok List.nil_suffix

theorem ofTokens?_follows (runtime : Runtime) (tokens : List Token) :
    Reads runtime tokens (fun _ => []) (ofTokens? runtime tokens) := by
  unfold ofTokens?
  split
  · exact .ok List.nil_suffix
  · next first rest only =>
    split
    · refine (readDirectives_follows _ _).bind fun read suffix => ?_
      obtain ⟨directives, rest⟩ := read
      refine Follows.mono ?_ suffix
      dsimp only
      split
      · next behind =>
        refine Follows.mono ?_ (List.suffix_cons _ behind)
        split
        · exact (readEnd_follows _).bind fun _ _ => by exact .ok List.nil_suffix
        · exact (readOnly_follows ⟨runtime, _⟩ _).bind fun _ _ => by exact .ok List.nil_suffix
      · exact unexpected_follows _ _
    · exact (readOnly_follows ⟨runtime, _⟩ _).bind fun _ _ => by exact .ok List.nil_suffix
  · exact .malformed

end Node

end EnumTables.Yaml
