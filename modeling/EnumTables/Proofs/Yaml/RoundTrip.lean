import EnumTables.Proofs.Yaml.Written
import EnumTables.Yaml.Document

/-!
# A written mapping is read again

The tokens of a written mapping are those of a document with one mapping (`ofTokens?_mapping`), and
the data of this document are the texts and the lists of texts that were written
(`read_mapping`), whatever they contain.
-/

namespace EnumTables.Yaml

variable {context : Context} {place : NodePlace} {depth : Nat} {anchors : List (String × Node)}
  {rest : List Token} {fuel : Nat}

/-! ## Nodes -/

namespace Node

def ofText (content : String) : Node :=
  .scalar .text content

def ofEntry : Writer.Entry → Node
  | .text content => ofText content
  | .list items => .sequence .sequence (items.map ofText)

theorem read_text {content : String} {isPlain : Bool} (shallow : depth < 3)
    (isText : scalarTag none isPlain content = .text) :
    read context place depth (fuel + 2) ⟨.scalar content isPlain :: rest, anchors⟩ =
      .ok (ofText content, ⟨rest, anchors⟩) := by
  simp [read, context.runtime.hasRoom_shallow depth _ shallow, readHead, readable, readContent,
    note, bind, Except.bind, pure, Except.pure, isText, Tag.anchored, ofText]

theorem scalarTag_written (content : String) :
    scalarTag none (ScalarStyle.ofText content.toList == .plain) content = .text := by
  cases style : ScalarStyle.ofText content.toList with
  | plain =>
    have looks := (ScalarStyle.of_plain style).1
    rwa [String.ofList_toList] at looks
  | single => rfl
  | double => rfl

theorem read_written (context : Context) (place : NodePlace) (shallow : depth < 3) (fuel : Nat)
    (anchors : List (String × Node)) (content : String) (rest : List Token) :
    read context place depth (fuel + 2) ⟨writtenToken content :: rest, anchors⟩ =
      .ok (ofText content, ⟨rest, anchors⟩) :=
  read_text shallow (scalarTag_written content)

theorem readOpenItems_written (shallow : depth < 3) (items : List String)
    (ends : rest.head? ≠ some .blockEntry) (enough : items.length + 3 ≤ fuel) :
    readOpenItems context depth fuel
      ⟨(items.flatMap fun item => [.blockEntry, writtenToken item]) ++ rest, anchors⟩ =
      .ok (items.map ofText, ⟨rest, anchors⟩) := by
  induction items generalizing fuel with
  | nil =>
    cases fuel with
    | zero => exact absurd enough (by simp)
    | succ fuel =>
      rw [List.flatMap_nil, List.nil_append, readOpenItems.eq_def]
      dsimp only
      split
      · exact absurd rfl ends
      · rfl
  | cons item items ih =>
    obtain ⟨fuel, rfl⟩ : ∃ more, fuel = more + 2 + 1 := ⟨fuel - 3, by simp at enough; omega⟩
    have others := ih (show items.length + 3 ≤ fuel + 2 by simp at enough; omega)
    have first := read_written context .block shallow fuel anchors item
    obtain ⟨isPlain, token⟩ : ∃ isPlain, writtenToken item = .scalar item isPlain := ⟨_, rfl⟩
    rw [List.flatMap_cons, List.cons_append, List.cons_append, readOpenItems.eq_def]
    simp only [token] at first ⊢
    simp only [List.cons_append, List.nil_append, first, others, bind, Except.bind, pure,
      Except.pure, List.map_cons]

theorem read_value (value : Writer.Entry) (shallow : depth < 2)
    (ends : rest.head? ≠ some .blockEntry) (enough : value.tokens.length + 5 ≤ fuel) :
    read context .blockValue depth fuel ⟨value.tokens ++ rest, anchors⟩ =
      .ok (ofEntry value, ⟨rest, anchors⟩) := by
  obtain ⟨fuel, rfl⟩ : ∃ more, fuel = more + 3 := ⟨fuel - 3, by omega⟩
  have shallow' : depth < 3 := by omega
  have room := fun ahead => context.runtime.hasRoom_shallow depth ahead shallow'
  cases value with
  | text content => exact read_written context .blockValue shallow' (fuel + 1) anchors content rest
  | list items =>
    cases items with
    | nil =>
      simp [Writer.Entry.tokens, read, room, readHead, readable, readContent, readFlowItems, finish,
        note, bind, Except.bind, pure, Except.pure, collectionTag, Tag.anchored, ofEntry]
    | cons item items =>
      have many : (item :: items).length + 3 ≤ fuel + 1 := by
        simp [Writer.Entry.tokens, List.length_flatMap] at enough ⊢
        omega
      have items : readOpenItems context (depth + 1) (fuel + 1)
          ⟨(Writer.Entry.list (item :: items)).tokens ++ rest, anchors⟩ = _ :=
        readOpenItems_written (by omega) (item :: items) ends many
      simp only [Writer.Entry.tokens, List.flatMap_cons, List.cons_append, List.nil_append]
        at items ⊢
      simp [read, room, readHead, readable, readContent, items, finish, note, bind, Except.bind, pure,
        Except.pure, collectionTag, Tag.anchored, ofEntry]

theorem head?_entryTokens (entries : List (String × Writer.Entry)) (rest : List Token) :
    (entries.flatMap entryTokens ++ .blockEnd :: rest).head? ≠ some .blockEntry := by
  cases entries with
  | nil => simp
  | cons entry entries => simp [entryTokens]

def ofEntries (entries : List (String × Writer.Entry)) : List (Node × Node) :=
  entries.map fun entry => (ofText entry.1, ofEntry entry.2)

theorem readEntries_written (entries : List (String × Writer.Entry))
    (keys : ∀ entry ∈ entries, Tag.ofPlain entry.1 = .text)
    (enough : (entries.flatMap entryTokens).length + 6 ≤ fuel) :
    readEntries context 1 fuel ⟨entries.flatMap entryTokens ++ .blockEnd :: rest, anchors⟩ =
      .ok (ofEntries entries, ⟨rest, anchors⟩) := by
  induction entries generalizing fuel with
  | nil =>
    obtain ⟨fuel, rfl⟩ : ∃ more, fuel = more + 1 := ⟨fuel - 1, by omega⟩
    rfl
  | cons entry entries ih =>
    obtain ⟨fuel, rfl⟩ : ∃ more, fuel = more + 2 + 1 := ⟨fuel - 3, by omega⟩
    obtain ⟨name, value⟩ := entry
    rw [List.flatMap_cons, List.length_append] at enough
    simp only [entryTokens, List.length_cons] at enough
    obtain ⟨isText, others⟩ := List.forall_mem_cons.mp keys
    have later := ih others (show _ ≤ fuel + 2 by omega)
    have ends := head?_entryTokens entries rest
    rw [List.flatMap_cons, entryTokens, List.append_assoc]
    generalize entries.flatMap entryTokens ++ .blockEnd :: rest = behind at ends later ⊢
    have key : read context .blockValue 1 (fuel + 2)
        ⟨.scalar name true :: .value :: (value.tokens ++ behind), anchors⟩ =
          .ok (ofText name, ⟨.value :: (value.tokens ++ behind), anchors⟩) :=
      read_text (by decide) isText
    have content : read context .blockValue 1 (fuel + 2) ⟨value.tokens ++ behind, anchors⟩ =
        .ok (ofEntry value, ⟨behind, anchors⟩) := 
      read_value value (by decide) ends (by omega)
    obtain ⟨first, more, starts, noKey, noValue, noEnd⟩ : ∃ first more,
        value.tokens = first :: more ∧ first ≠ .key ∧ first ≠ .value ∧ first ≠ .blockEnd := by
      cases value with
      | text content => exact ⟨_, _, rfl, by simp [writtenToken]⟩
      | list items => cases items <;> exact ⟨_, _, rfl, by simp⟩
    rw [starts] at key content ⊢
    simp only [List.cons_append] at key content ⊢
    rw [readEntries.eq_def]
    simp only [bind, Except.bind, key, pure, Except.pure]
    split
    · next same => exact absurd (List.cons.inj same).1 noKey
    · next same => exact absurd (List.cons.inj same).1 noValue
    · next same => exact absurd (List.cons.inj same).1 noEnd
    · simp only [content, later]
      rfl

def ofMapping (entries : List (String × Writer.Entry)) : Node :=
  .mapping .mapping (ofEntries entries)

theorem ofTokens?_written (runtime : Runtime) (entries : List (String × Writer.Entry))
    (keys : ∀ entry ∈ entries, Tag.ofPlain entry.1 = .text) :
    ofTokens? runtime (mappingTokens entries) = .ok (some (ofMapping entries)) := by
  obtain ⟨fuel, turns⟩ : ∃ fuel, enough (mappingTokens entries) = fuel + 2 :=
    ⟨4 * (mappingTokens entries).length + 2, rfl⟩
  have room := fun ahead => runtime.hasRoom_shallow 0 ahead (by decide)
  have parts : readEntries ⟨runtime, knownHandles⟩ 1 fuel
      ⟨entries.flatMap entryTokens ++ [.blockEnd, .streamEnd], []⟩ =
        .ok (ofEntries entries, ⟨[.streamEnd], []⟩) := by
    refine readEntries_written entries keys ?_
    simp [enough, mappingTokens] at turns ⊢
    omega
  have document : readOnly ⟨runtime, knownHandles⟩ (mappingTokens entries) =
      .ok (ofMapping entries) := by
    rw [readOnly, turns]
    simp [mappingTokens, read, room, readHead, readable, readContent, NodePlace.allowsBlocks, parts,
      finish, note, bind, Except.bind, pure, Except.pure, readEnd, collectionTag, Tag.anchored,
      ofMapping]
  rw [mappingTokens, List.cons_append] at document ⊢
  rw [ofTokens?]
  · simp [isBetween, document, bind, Except.bind, pure, Except.pure]
  · simp

end Node

/-! ## Data -/

def Writer.Entry.value : Writer.Entry → Value
  | .text content => .text content
  | .list items => .list (items.map .text)

namespace Node

variable {builder : Builder} {spot : Spot}

theorem build_text (content : String) :
    build builder (fuel + 1) spot (ofText content) = .ok (.text content) :=
  rfl

theorem buildItems_texts (items : List String) (index : Nat) (enough : items.length + 1 ≤ fuel) :
    buildItems builder fuel spot index (items.map ofText) = .ok (items.map .text) := by
  induction items generalizing fuel index with
  | nil =>
    obtain ⟨fuel, rfl⟩ : ∃ more, fuel = more + 1 := ⟨fuel - 1, by omega⟩
    rfl
  | cons item items ih =>
    obtain ⟨fuel, rfl⟩ : ∃ more, fuel = more + 1 + 1 := ⟨fuel - 2, by simp at enough; omega⟩
    rw [List.map_cons, buildItems, build_text, ih (index + 1) (by simp at enough; omega)]
    rfl

theorem sizeItems_texts (items : List String) : sizeItems (items.map ofText) = items.length := by
  induction items with
  | nil => rfl
  | cons item items ih =>
    rw [List.map_cons, sizeItems, ih, ofText, size, List.length_cons, Nat.add_comm]

theorem build_value (value : Writer.Entry) (enough : (ofEntry value).size + 1 ≤ fuel) :
    build builder fuel spot (ofEntry value) = .ok value.value := by
  obtain ⟨fuel, rfl⟩ : ∃ more, fuel = more + 1 := ⟨fuel - 1, by omega⟩
  cases value with
  | text content => exact build_text content
  | list items =>
    rw [ofEntry, size, sizeItems_texts] at enough
    have parts : buildItems builder fuel spot 0 (items.map ofText) = .ok (items.map .text) :=
      buildItems_texts items 0 (by omega)
    simp [ofEntry, build, settled, tag, Tag.isScalar, parts, Except.map, Writer.Entry.value]

theorem buildEntries_written (entries : List (String × Writer.Entry)) (index : Nat)
    (enough : sizeEntries (ofEntries entries) + 2 ≤ fuel) :
    buildEntries builder fuel spot index (ofEntries entries) =
      .ok (entries.map fun entry => (.text entry.1, entry.2.value)) := by
  induction entries generalizing fuel index with
  | nil =>
    obtain ⟨fuel, rfl⟩ : ∃ more, fuel = more + 1 := ⟨fuel - 1, by omega⟩
    rfl
  | cons entry entries ih =>
    obtain ⟨name, value⟩ := entry
    rw [ofEntries, List.map_cons, sizeEntries, ← ofEntries, ofText, size] at enough
    dsimp only at enough
    obtain ⟨fuel, rfl⟩ : ∃ more, fuel = more + 2 + 1 := ⟨fuel - 3, by omega⟩
    have key : buildKey builder (fuel + 2) (index :: spot) (ofText name) = .ok (.text name) := rfl
    rw [ofEntries, List.map_cons, ← ofEntries, buildEntries, key,
      build_value value (by omega), ih (index + 1) (by omega)]
    rfl

theorem sameKey_text (name other : String) :
    sameKey (.text name) (.text other) = (name == other) := by
  simp [sameKey, Value.same, Value.number?, Value.asInteger?, Value.asFloat?, Value.asText?,
    Value.asData]

theorem insertBy_new {name : String} (value : Value) (entries : List (String × Value))
    (new : name ∉ entries.map Prod.fst) :
    Value.insertBy sameKey (entries.map fun entry => (.text entry.1, entry.2)) (.text name) value =
      (entries ++ [(name, value)]).map fun entry => (.text entry.1, entry.2) := by
  induction entries with
  | nil => rfl
  | cons entry entries ih =>
    rw [List.map_cons, List.mem_cons, not_or] at new
    rw [List.map_cons, Value.insertBy, sameKey_text, if_neg (by simp [Ne.symm new.1]), ih new.2]
    rfl

theorem foldl_insertBy (before entries : List (String × Value))
    (distinct : ((before ++ entries).map Prod.fst).Nodup) :
    (entries.map fun entry => (Value.text entry.1, entry.2)).foldl
      (fun all entry => Value.insertBy sameKey all entry.1 entry.2)
      (before.map fun entry => (.text entry.1, entry.2)) =
        (before ++ entries).map fun entry => (.text entry.1, entry.2) := by
  induction entries generalizing before with
  | nil => simp
  | cons entry entries ih =>
    have new : entry.1 ∉ before.map Prod.fst := by
      rw [List.map_append, List.map_cons, List.nodup_append] at distinct
      exact fun inside => distinct.2.2 entry.1 inside entry.1 List.mem_cons_self rfl
    rw [List.map_cons, List.foldl_cons, insertBy_new _ _ new, ih]
    · simp
    · simpa using distinct

theorem mergedEntries_written (entries : List (String × Writer.Entry)) :
    mergedEntries (ofEntries entries) = some ([], ofEntries entries) := by
  induction entries with
  | nil => rfl
  | cons entry entries ih =>
    rw [ofEntries, List.map_cons, ← ofEntries, mergedEntries, ih]
    rfl

theorem hasMerge_written (entries : List (String × Writer.Entry)) :
    (mapping .mapping (ofEntries entries)).hasMerge = false := by
  simp [hasMerge, ofEntries, isMergeKey, ofText, tag]

theorem toValue_written (runtime : Runtime) (entries : List (String × Writer.Entry))
    (distinct : (entries.map Prod.fst).Nodup) :
    toValue runtime (ofMapping entries) =
      .ok (.dict (entries.map fun entry => (.text entry.1, entry.2.value))) := by
  have whole (builder : Builder) (fuel : Nat) (enough : (ofMapping entries).size + 3 ≤ fuel) :
      build builder fuel [] (ofMapping entries) =
        .ok (.dict (entries.map fun entry => (.text entry.1, entry.2.value))) := by
    rw [ofMapping, size] at enough
    obtain ⟨fuel, rfl⟩ : ∃ more, fuel = more + 2 := ⟨fuel - 2, by omega⟩
    have parts : buildEntries builder fuel [] 0 (ofEntries entries) = _ :=
      buildEntries_written entries 0 (by omega)
    have put := foldl_insertBy [] (entries.map fun entry => (entry.1, entry.2.value))
      (by simpa [Function.comp_def] using distinct)
    simp only [List.map_nil, List.nil_append, List.map_map, Function.comp_def] at put
    have merged : (Node.mapping .mapping (ofEntries entries)).merged =
        some (ofEntries entries) := by
      rw [Node.merged, mergedEntries_written]
      rfl
    simp [ofMapping, build, settled, tag, Tag.isScalar, buildMapping,
      hasMerge_written, merged, parts, Except.map, put]
  rw [toValue, whole _ _ (by omega)]
  rfl

end Node

structure IsKey (key : String) : Prop extends IsKeyWord key.toList where
  isText : Tag.ofPlain key = .text

instance : DecidablePred IsKey := fun key =>
  have := List.decidableBAll
    (fun c => (isGap c = false ∧ isBreak c = false) ∧ c ≠ ':') key.toList
  decidable_of_iff (key.toList.head?.any Char.isAlpha = true ∧
      (∀ c ∈ key.toList, (isGap c = false ∧ isBreak c = false) ∧ c ≠ ':') ∧
      IsPrintable key.toList ∧ key.toList.length ≤ 1024 ∧ Tag.ofPlain key = .text)
    ⟨fun ⟨letter, solid, printable, short, isText⟩ => ⟨⟨letter, solid, printable, short⟩, isText⟩,
      fun isKey => ⟨isKey.letter, isKey.solid, isKey.printable, isKey.short, isKey.isText⟩⟩

theorem read_mapping (runtime : Runtime) {head : List Char} (comment : IsComment head)
    (printable : IsPrintable head) {entries : List (String × Writer.Entry)} (nonempty : entries ≠ [])
    (keys : ∀ entry ∈ entries, IsKey entry.1) (distinct : (entries.map Prod.fst).Nodup) :
    read runtime (String.ofList (head ++ ['\n']) ++ Writer.mapping entries) =
      .ok (.dict (entries.map fun entry => (.text entry.1, entry.2.value))) := by
  have words (entry) (inside : entry ∈ entries) : IsKeyWord entry.1.toList :=
    (keys entry inside).toIsKeyWord
  have lines : (Writer.mapping entries).toList = entryLines entries := by
    simp [Writer.mapping, entryLines]
  have allowed : (head ++ '\n' :: entryLines entries).all isAllowed = true := by
    rw [← lines]
    exact (printable.append (.cons rfl
      (.mapping fun entry inside => (words entry inside).printable))).allowed
  have text : (String.ofList (head ++ ['\n']) ++ Writer.mapping entries).toList =
      head ++ '\n' :: entryLines entries := by simp [lines]
  rw [read, text, ofText_mapping comment nonempty words allowed,
    Node.ofTokens?_written runtime entries fun entry inside => (keys entry inside).isText]
  exact Node.toValue_written runtime entries distinct

end EnumTables.Yaml
