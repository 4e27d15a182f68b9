import EnumTables.Proofs.Yaml.Scanning
import EnumTables.Yaml.Document

/-!
# What can fail in reading YAML

Reading YAML fails with an exception of its own in few cases only (`read_raises`): an escape stands
for no character, a scalar of the document is said to be a truth value, a number or a time, or looks
like one, and is none, or calls nest too deep for the runtime.
-/

namespace EnumTables.Yaml

/-- A text is not of the kind it is said to be, and an exception says so. -/
inductive Tag.Rejects : Tag → String → Raised → Prop where
  | bool {text raised} (h : Node.readBool text = .error raised) : Rejects .bool text raised
  | int {text raised} (h : Number.readInteger text.toList = .error raised) :
      Rejects .int text raised
  | float {text raised} (h : Number.readFloat text.toList = .error raised) :
      Rejects .float text raised
  | timestamp {text raised} (h : Node.readTimestamp text = .error raised) :
      Rejects .timestamp text raised

/-- The classes of the exceptions of conversions and escapes. -/
def exceptionKinds : List String :=
  ["AttributeError", "IndexError", "KeyError", "OverflowError", "RecursionError", "TypeError",
    "ValueError"]

theorem valueError_mem : "ValueError" ∈ exceptionKinds := by
  decide

theorem IsVoidEscape.kind_mem {raised : Raised} {part : List Char} (h : IsVoidEscape raised part) :
    raised.kind ∈ exceptionKinds := by
  obtain ⟨_, _, code, -, -, -, failed⟩ := h
  unfold characterOf at failed
  split at failed
  · split at failed <;> cases failed <;> decide
  · cases failed

namespace Number

open Decimal

variable {raised : Raised} {text : List Char}

theorem spelled_integer_kind {base : Nat} (h : Spelling.readInteger base text = .error raised) :
    raised.kind ∈ exceptionKinds := by
  unfold Spelling.readInteger Spelling.readShown at h
  split at h
  · cases h
    exact valueError_mem
  · cases h
  · cases h
    exact valueError_mem

theorem spelled_float_kind (h : Spelling.readFloat text = .error raised) :
    raised.kind ∈ exceptionKinds := by
  unfold Spelling.readFloat at h
  split at h
  · cases h
  · cases h
    exact valueError_mem

theorem parts_kind {α β : Type} {read : List Char → Except Raised α}
    {next : List α → Except Raised β}
    (each : ∀ part, read part = .error raised → raised.kind ∈ exceptionKinds)
    (whole : ∀ digits, next digits = .error raised → raised.kind ∈ exceptionKinds)
    (h : (text.splitOn ':').mapM read >>= next = .error raised) :
    raised.kind ∈ exceptionKinds := by
  rcases bind_eq_error.mp h with failed | ⟨digits, _, failed⟩
  · obtain ⟨part, -, failed⟩ := exists_of_mapM_eq_error failed
    exact each part failed
  · exact whole digits failed

theorem readMagnitude_kind (h : readMagnitude text = .error raised) :
    raised.kind ∈ exceptionKinds := by
  unfold readMagnitude at h
  split at h
  · cases h
    decide
  · cases h
  · exact spelled_integer_kind h
  · exact spelled_integer_kind h
  · exact spelled_integer_kind h
  · split at h
    · exact parts_kind (fun _ => spelled_integer_kind) (fun _ failed => by cases failed) h
    · exact spelled_integer_kind h

theorem readInteger_kind (h : readInteger text = .error raised) :
    raised.kind ∈ exceptionKinds := by
  unfold readInteger at h
  dsimp only at h
  split at h
  · cases h
    decide
  · exact readMagnitude_kind (map_eq_error.mp h)

theorem ofFloatSixtieths_kind {digits : List Float} (h : ofFloatSixtieths digits = .error raised) :
    raised.kind ∈ exceptionKinds := by
  unfold ofFloatSixtieths at h
  split at h
  · cases h
    decide
  · cases h

theorem readFloatMagnitude_kind (h : readFloatMagnitude text = .error raised) :
    raised.kind ∈ exceptionKinds := by
  unfold readFloatMagnitude at h
  split at h
  · cases h
  · split at h
    · exact parts_kind (fun _ => spelled_float_kind) (fun _ => ofFloatSixtieths_kind) h
    · exact spelled_float_kind h

theorem readFloat_kind (h : readFloat text = .error raised) : raised.kind ∈ exceptionKinds := by
  unfold readFloat at h
  dsimp only at h
  split at h
  · cases h
    decide
  · split at h
    · cases h
    · rcases bind_eq_error.mp h with failed | ⟨_, _, failed⟩
      · exact readFloatMagnitude_kind failed
      · cases failed

end Number

theorem Tag.Rejects.kind_mem {tag : Tag} {text : String} {raised : Raised}
    (h : tag.Rejects text raised) : raised.kind ∈ exceptionKinds := by
  cases h with
  | bool h =>
    unfold Node.readBool at h
    dsimp only at h
    split at h
    · cases h
    · cases h
      exact show "KeyError" ∈ exceptionKinds by decide
  | int h => exact Number.readInteger_kind h
  | float h => exact Number.readFloat_kind h
  | timestamp h =>
    unfold Node.readTimestamp at h
    split at h
    · cases h
      decide
    · split at h
      · cases h
        exact valueError_mem
      · cases h

namespace Built

variable {α β γ : Type} {causes others : Raised → Prop}

def RaisesOnly (causes : Raised → Prop) (built : Built α) : Prop :=
  ∀ round raised, built = .error ⟨round, .exception raised⟩ → causes raised

theorem raisesOnly_ok (a : α) : RaisesOnly causes (.ok a) :=
  fun _ _ failed => (by cases failed)

theorem raisesOnly_fail (spot : Spot) : RaisesOnly causes (fail spot .malformed : Built α) :=
  fun _ _ failed => (by cases failed)

theorem raisesOnly_raised {spot : Spot} {raised : Raised} (cause : causes raised) :
    RaisesOnly causes (fail spot (.exception raised) : Built α) :=
  fun _ _ failed => by cases failed; exact cause

theorem raisesOnly_raisedInside {spot : Spot} {raised : Raised} (cause : causes raised) :
    RaisesOnly causes (failInside spot (.exception raised) : Built α) :=
  fun _ _ failed => by cases failed; exact cause

theorem raisesOnly_failInside (spot : Spot) :
    RaisesOnly causes (failInside spot .malformed : Built α) :=
  fun _ _ failed => (by cases failed)

theorem RaisesOnly.mono {built : Built α} (h : RaisesOnly causes built)
    (more : ∀ raised, causes raised → others raised) : RaisesOnly others built :=
  fun round raised failed => more raised (h round raised failed)

theorem RaisesOnly.map {built : Built α} (h : RaisesOnly causes built) (f : α → β) :
    RaisesOnly causes (built.map f) :=
  fun round raised failed => h round raised (map_eq_error.mp failed)

theorem RaisesOnly.both {left : Built α} {right : Built β} (first : RaisesOnly causes left)
    (second : RaisesOnly causes right) (combine : α → β → γ) :
    RaisesOnly causes (Built.both combine left right) := by
  cases left with
  | ok a =>
    cases right with
    | ok b => exact raisesOnly_ok _
    | error error =>
      exact fun round raised failed => second round raised (congrArg _ (Except.error.inj failed))
  | error error =>
    have first : RaisesOnly causes (.error error : Built γ) :=
      fun round raised failed => first round raised (congrArg _ (Except.error.inj failed))
    cases right with
    | ok b => exact first
    | error error' =>
      have second : RaisesOnly causes (.error error' : Built γ) :=
        fun round raised failed => second round raised (congrArg _ (Except.error.inj failed))
      change RaisesOnly causes (.error (if error'.round < error.round then error' else error))
      split
      · exact second
      · exact first

theorem raisesOnly_ofRaised {spot : Spot} {result : Except Raised α}
    (h : ∀ raised, result = .error raised → causes raised) :
    RaisesOnly causes (ofRaised spot result) := by
  cases result with
  | ok a => exact raisesOnly_ok a
  | error raised =>
    intro round raised' failed
    cases failed
    exact h raised rfl

end Built

namespace Node

open Built (RaisesOnly raisesOnly_ok raisesOnly_fail raisesOnly_failInside raisesOnly_ofRaised
  raisesOnly_raised raisesOnly_raisedInside)

variable {node part : Node} {raised : Raised} {keys : Restyled} {builder : Builder}
  {causes : Raised → Prop}

inductive Inside (part : Node) : Node → Prop where
  | here : Inside part part
  | item {tag items item} (among : item ∈ items) (h : Inside part item) :
      Inside part (.sequence tag items)
  | key {tag entries entry} (among : entry ∈ entries) (h : Inside part entry.1) :
      Inside part (.mapping tag entries)
  | value {tag entries entry} (among : entry ∈ entries) (h : Inside part entry.2) :
      Inside part (.mapping tag entries)

inductive Raises (hasRoomFor : Spot → Bool) (node : Node) : Raised → Prop where
  | rejected {part : Node} {text : String} {raised : Raised} (inside : Inside part node)
      (is : part.scalarText = .ok text) (rejects : part.tag.Rejects text raised) :
      Raises hasRoomFor node raised
  /-- A time is not taken from the default of a mapping. -/
  | unmatched {entries : List (Node × Node)} {text : String}
      (inside : Inside (.mapping .timestamp entries) node)
      (is : (mapping .timestamp entries).scalarText = .ok text) :
      Raises hasRoomFor node unmatched
  | looped {part : Node} (inside : Inside part node)
      (loops : part.scalarText = .error (.exception Runtime.overflow)) :
      Raises hasRoomFor node Runtime.overflow
  | deep {spot : Spot} (noRoom : hasRoomFor spot = false) : Raises hasRoomFor node Runtime.overflow

theorem Inside.trans {whole : Node} (inner : Inside part node) (outer : Inside node whole) :
    Inside part whole := by
  induction outer with
  | here => exact inner
  | item among _ ih => exact .item among ih
  | key among _ ih => exact .key among ih
  | value among _ ih => exact .value among ih

theorem Raises.mono {hasRoomFor : Spot → Bool} (h : part.Raises hasRoomFor raised)
    (inside : Inside part node) : node.Raises hasRoomFor raised := by
  cases h with
  | rejected deeper is rejects => exact .rejected (deeper.trans inside) is rejects
  | unmatched deeper is => exact .unmatched (deeper.trans inside) is
  | looped deeper loops => exact .looped (deeper.trans inside) loops
  | deep noRoom => exact .deep noRoom

theorem Raises.kind_mem {hasRoomFor : Spot → Bool} (h : node.Raises hasRoomFor raised) :
    raised.kind ∈ exceptionKinds := by
  cases h with
  | rejected _ _ rejects => exact rejects.kind_mem
  | unmatched => decide
  | looped => decide
  | deep => decide

/-! ## Scalars -/

theorem scalarValue_raises (spot : Spot) (tag : Tag) (text : String) :
    RaisesOnly (tag.Rejects text) (scalarValue spot tag text) := by
  have mapped {α : Type} {f : α → Value} {result : Except Raised α}
      (h : ∀ raised, result = .error raised → tag.Rejects text raised) :
      RaisesOnly (tag.Rejects text) (Built.ofRaised spot (result.map f)) :=
    raisesOnly_ofRaised fun raised failed => h raised (map_eq_error.mp failed)
  unfold scalarValue
  dsimp only
  split
  · exact raisesOnly_ok _
  · exact raisesOnly_ok _
  · exact mapped fun _ => .bool
  · exact mapped fun _ => .int
  · exact mapped fun _ => .float
  · exact raisesOnly_ofRaised fun _ => .timestamp
  · split
    · exact raisesOnly_ok _
    · exact raisesOnly_fail spot
  · exact raisesOnly_fail spot

theorem tag_retag (tag : Tag) (node : Node) : (node.retag tag).tag = tag := by
  cases node <;> rfl

theorem settled_eq (keys : Restyled) (spot : Spot) (node : Node) :
    node.settled keys spot = node ∨
      node.tag.isDefault = true ∧ node.settled keys spot = node.retag .text := by
  unfold settled
  split
  · next anchor same =>
    split
    · exact .inr ⟨by rw [same]; rfl, rfl⟩
    · exact .inl rfl
  · exact .inl rfl

theorem plainKey_eq (key : Node) :
    key.plainKey = key ∨ key.tag.isDefault = true ∧ key.plainKey = key.retag .text := by
  unfold plainKey
  split
  · next isDefault => exact .inr ⟨isDefault, rfl⟩
  · exact .inl rfl

theorem settled_text {spot : Spot} (isText : node.tag = .text) :
    node.settled keys spot = node := by
  unfold settled
  rw [isText]

mutual

theorem scalarText_raises : ∀ (node : Node), node.scalarText = .error (.exception raised) →
    raised = Runtime.overflow
  | .scalar _ _, failed => by cases failed
  | .sequence _ _, failed => by cases failed
  | .mapping tag entries, failed => by
    rw [scalarText.eq_def] at failed
    split at failed
    · cases failed
    · cases failed
    · cases failed
      rfl
    · next same =>
      cases same
      exact defaultText_raises entries failed

theorem defaultText_raises : ∀ (entries : List (Node × Node)),
    scalarText.defaultText entries = .error (.exception raised) → raised = Runtime.overflow
  | [], failed => by cases failed
  | (key, value) :: rest, failed => by
    rw [scalarText.defaultText] at failed
    split at failed
    · exact scalarText_raises value failed
    · exact defaultText_raises rest failed

end

theorem scalar_raises (builder : Builder) (spot : Spot) (node : Node) :
    RaisesOnly (node.Raises builder.hasRoomFor) (builder.scalar spot node) := by
  cases node with
  | scalar tag text =>
    have is : scalarText (.scalar tag text) = .ok text := by rw [scalarText]
    exact (scalarValue_raises spot tag text).mono fun _ => .rejected .here is
  | sequence tag items => exact raisesOnly_fail spot
  | mapping tag entries =>
    rw [Builder.scalar]
    split
    · next noRoom =>
      exact raisesOnly_raised (.deep (by simpa using noRoom))
    · cases is : (mapping tag entries).scalarText with
      | error cause =>
        cases cause with
        | malformed => exact raisesOnly_fail spot
        | exception raised =>
          obtain rfl := scalarText_raises _ is
          exact raisesOnly_raised (.looped .here is)
      | ok text =>
        dsimp only
        split
        · next isTime =>
          obtain rfl : tag = .timestamp := by simpa using isTime
          exact raisesOnly_raised (.unmatched .here is)
        · exact (scalarValue_raises spot tag text).mono fun _ => .rejected .here is

theorem scalar_retag_raises (spot : Spot) (isDefault : node.tag.isDefault = true) :
    RaisesOnly (node.Raises builder.hasRoomFor) (builder.scalar spot (node.retag .text)) := by
  cases node with
  | scalar tag text => exact raisesOnly_ok _
  | sequence tag items => exact raisesOnly_fail spot
  | mapping tag entries =>
    have known : tag ≠ .looped := by
      rintro rfl
      cases isDefault
    have same : scalarText (.mapping .text entries) = scalarText (.mapping tag entries) := by
      rw [scalarText, scalarText] <;> simp [known]
    rw [retag, Builder.scalar]
    split
    · next noRoom => exact raisesOnly_raised (.deep (by simpa using noRoom))
    · rw [same]
      cases is : scalarText (.mapping tag entries) with
      | error cause =>
        cases cause with
        | malformed => exact raisesOnly_fail spot
        | exception raised =>
          obtain rfl := scalarText_raises _ is
          exact raisesOnly_raised (.looped .here is)
      | ok text => exact raisesOnly_ok _

theorem build_retag_raises (fuel : Nat) (spot : Spot) (isDefault : node.tag.isDefault = true) :
    RaisesOnly (node.Raises builder.hasRoomFor) (build builder fuel spot (node.retag .text)) := by
  cases fuel with
  | zero => exact raisesOnly_fail spot
  | succ fuel =>
    have isText := tag_retag .text node
    rw [build, settled_text isText, isText]
    exact scalar_retag_raises spot isDefault

/-! ## Merged entries -/

def EntriesInside (entries : List (Node × Node)) (whole : Node) : Prop :=
  ∀ entry ∈ entries, Inside entry.1 whole ∧ Inside entry.2 whole

theorem EntriesInside.of_cons {entry : Node × Node} {rest : List (Node × Node)} {whole : Node}
    (h : EntriesInside (entry :: rest) whole) :
    (Inside entry.1 whole ∧ Inside entry.2 whole) ∧ EntriesInside rest whole :=
  ⟨h entry List.mem_cons_self, fun other among => h other (List.mem_cons_of_mem _ among)⟩

theorem EntriesInside.append {first second : List (Node × Node)} {whole : Node}
    (h : EntriesInside first whole) (h' : EntriesInside second whole) :
    EntriesInside (first ++ second) whole := by
  intro entry among
  rcases List.mem_append.mp among with left | right
  · exact h entry left
  · exact h' entry right

theorem entriesInside_mapping {tag : Tag} {entries : List (Node × Node)} {whole : Node}
    (inside : Inside (.mapping tag entries) whole) : EntriesInside entries whole :=
  fun _ among => ⟨Inside.trans (.key among .here) inside, Inside.trans (.value among .here) inside⟩

mutual

theorem merged_inside {whole : Node} {entries : List (Node × Node)} : ∀ (node : Node),
    Inside node whole → node.merged = some entries → EntriesInside entries whole
  | .scalar _ _, _, found => by cases found
  | .sequence _ _, _, found => by cases found
  | .mapping tag own, inside, found => by
    rw [merged] at found
    obtain ⟨⟨inherited, kept⟩, parts, same⟩ := Option.bind_eq_some_iff.mp found
    cases same
    obtain ⟨first, second⟩ := mergedEntries_inside own (entriesInside_mapping inside) parts
    exact first.append second

theorem mergedEntries_inside {whole : Node} {inherited kept : List (Node × Node)} :
    ∀ (entries : List (Node × Node)), EntriesInside entries whole →
      mergedEntries entries = some (inherited, kept) →
        EntriesInside inherited whole ∧ EntriesInside kept whole
  | [], inside, found => by
    cases found
    exact ⟨inside, inside⟩
  | (key, value) :: rest, inside, found => by
    obtain ⟨⟨keyInside, valueInside⟩, restInside⟩ := inside.of_cons
    rw [mergedEntries.eq_def] at found
    dsimp only at found
    split at found
    · split at found
      · next tag items =>
        obtain ⟨parts, here, found⟩ := Option.bind_eq_some_iff.mp found
        rw [pure_bind] at found
        obtain ⟨⟨others, own⟩, behind, same⟩ := Option.bind_eq_some_iff.mp found
        cases same
        obtain ⟨first, second⟩ := mergedEntries_inside rest restInside behind
        have each := mergedItems_inside items
          (fun item among => Inside.trans (.item among .here) valueInside) here
        refine ⟨EntriesInside.append (fun entry among => ?_) first, second⟩
        obtain ⟨part, inParts, inPart⟩ := List.mem_flatten.mp among
        exact each part (List.mem_reverse.mp inParts) entry inPart
      · obtain ⟨parts, here, found⟩ := Option.bind_eq_some_iff.mp found
        obtain ⟨⟨others, own⟩, behind, same⟩ := Option.bind_eq_some_iff.mp found
        cases same
        obtain ⟨first, second⟩ := mergedEntries_inside rest restInside behind
        exact ⟨(merged_inside value valueInside here).append first, second⟩
    · obtain ⟨⟨others, own⟩, behind, same⟩ := Option.bind_eq_some_iff.mp found
      cases same
      obtain ⟨first, second⟩ := mergedEntries_inside rest restInside behind
      refine ⟨first, fun entry among => ?_⟩
      rcases List.mem_cons.mp among with rfl | among
      · exact ⟨keyInside, valueInside⟩
      · exact second entry among

theorem mergedItems_inside {whole : Node} {parts : List (List (Node × Node))} :
    ∀ (items : List Node), (∀ item ∈ items, Inside item whole) →
      mergedItems items = some parts → ∀ part ∈ parts, EntriesInside part whole
  | [], _, found => by
    cases found
    exact fun _ among => (by cases among)
  | item :: rest, inside, found => by
    rw [mergedItems] at found
    obtain ⟨first, here, found⟩ := Option.bind_eq_some_iff.mp found
    obtain ⟨others, behind, same⟩ := Option.bind_eq_some_iff.mp found
    cases same
    intro part among
    rcases List.mem_cons.mp among with rfl | among
    · exact merged_inside item (inside item List.mem_cons_self) here
    · exact mergedItems_inside rest (fun item among => inside item (List.mem_cons_of_mem _ among))
        behind part among

end

/-! ## Building -/

mutual

theorem build_raises (builder : Builder) : ∀ (fuel : Nat) (spot : Spot) (node : Node),
    RaisesOnly (node.Raises builder.hasRoomFor) (build builder fuel spot node)
  | 0, spot, _ => raisesOnly_fail spot
  | fuel + 1, spot, node => by
    rw [build.eq_def]
    dsimp only
    rcases settled_eq builder.keys spot node with same | ⟨isDefault, isText⟩
    · rw [same]
      split
      · exact scalar_raises builder spot node
      · split
        · split
          · exact (buildItems_raises builder fuel spot 0 _ fun _ among => .item among .here).map _
          · exact raisesOnly_failInside spot
        · exact (buildMapping_raises builder fuel spot node).map _
        · exact (buildMapping_raises builder fuel spot node).map _
        · split
          · exact (buildPairs_raises builder fuel spot 0 _ fun _ among => .item among .here).map _
          · exact raisesOnly_failInside spot
        · split
          · exact (buildPairs_raises builder fuel spot 0 _ fun _ among => .item among .here).map _
          · exact raisesOnly_failInside spot
        · exact raisesOnly_fail spot
    · -- the key of a mapping that was built before made this node a text
      rw [isText, tag_retag]
      exact scalar_retag_raises spot isDefault

theorem buildItems_raises {whole : Node} (builder : Builder) : ∀ (fuel : Nat) (spot : Spot)
    (index : Nat) (items : List Node), (∀ item ∈ items, Inside item whole) →
      RaisesOnly (whole.Raises builder.hasRoomFor) (buildItems builder fuel spot index items)
  | 0, spot, _, _, _ => raisesOnly_failInside spot
  | _ + 1, _, _, [], _ => raisesOnly_ok []
  | fuel + 1, spot, index, item :: rest, inside =>
    ((build_raises builder fuel (index :: spot) item).mono fun _ has =>
      has.mono (inside item List.mem_cons_self)).both
        (buildItems_raises builder fuel spot (index + 1) rest fun other among =>
          inside other (List.mem_cons_of_mem _ among)) List.cons

theorem buildMapping_raises (builder : Builder) : ∀ (fuel : Nat) (spot : Spot) (node : Node),
    RaisesOnly (node.Raises builder.hasRoomFor) (buildMapping builder fuel spot node)
  | 0, spot, _ => raisesOnly_failInside spot
  | fuel + 1, spot, node => by
    rw [buildMapping]
    split
    · next noRoom =>
      exact raisesOnly_raisedInside (.deep (by simpa using (Bool.and_eq_true_iff.mp noRoom).2))
    split
    · exact raisesOnly_failInside spot
    · next entries found =>
      exact (buildEntries_raises builder fuel spot 0 entries (merged_inside node .here found)).map _

theorem buildKey_raises (builder : Builder) : ∀ (fuel : Nat) (spot : Spot) (key : Node),
    RaisesOnly (key.Raises builder.hasRoomFor) (buildKey builder fuel spot key)
  | 0, spot, _ => raisesOnly_fail spot
  | fuel + 1, spot, key => by
    rw [buildKey]
    split
    · exact raisesOnly_fail spot
    · rcases plainKey_eq key with same | ⟨isDefault, isText⟩
      · rw [same]
        exact build_raises builder fuel spot key
      · rw [isText]
        exact build_retag_raises fuel spot isDefault

theorem buildEntries_raises {whole : Node} (builder : Builder) : ∀ (fuel : Nat) (spot : Spot)
    (index : Nat) (entries : List (Node × Node)), EntriesInside entries whole →
      RaisesOnly (whole.Raises builder.hasRoomFor) (buildEntries builder fuel spot index entries)
  | 0, spot, _, _, _ => raisesOnly_failInside spot
  | _ + 1, _, _, [], _ => raisesOnly_ok []
  | fuel + 1, spot, index, (key, value) :: rest, inside => by
    obtain ⟨⟨keyInside, valueInside⟩, restInside⟩ := inside.of_cons
    have first := (buildKey_raises builder fuel (index :: spot) key).mono fun _ has =>
      has.mono keyInside
    have second := (build_raises builder fuel (index :: spot) value).mono fun _ has =>
      has.mono valueInside
    exact (first.both second Prod.mk).both
      (buildEntries_raises builder fuel spot (index + 1) rest restInside) List.cons

theorem buildPairs_raises {whole : Node} (builder : Builder) : ∀ (fuel : Nat) (spot : Spot)
    (index : Nat) (items : List Node), (∀ item ∈ items, Inside item whole) →
      RaisesOnly (whole.Raises builder.hasRoomFor) (buildPairs builder fuel spot index items)
  | 0, spot, _, _, _ => raisesOnly_failInside spot
  | _ + 1, _, _, [], _ => raisesOnly_ok []
  | fuel + 1, spot, index, item :: rest, inside => by
    have others := buildPairs_raises builder fuel spot (index + 1) rest fun other among =>
      inside other (List.mem_cons_of_mem _ among)
    have whole := inside item List.mem_cons_self
    rw [buildPairs.eq_def]
    dsimp only
    refine RaisesOnly.both ?_ others List.cons
    split
    · next tag key value =>
      obtain ⟨keyInside, valueInside⟩ := (entriesInside_mapping whole).of_cons.1
      exact RaisesOnly.both ((build_raises builder fuel _ key).mono fun _ has => has.mono keyInside)
        ((build_raises builder fuel _ value).mono fun _ has => has.mono valueInside) _
    · exact raisesOnly_failInside spot

end

theorem toValue_raises {runtime : Runtime}
    (failed : node.toValue runtime = .error (.exception raised)) :
    node.Raises (runtime.hasRoomFor node) raised := by
  unfold toValue at failed
  dsimp only at failed
  generalize 5 * node.size + 5 = fuel at failed
  generalize built : build ⟨runtime, node, restyled fuel [] node⟩ fuel [] node = outcome at failed
  cases outcome with
  | ok value => cases failed
  | error error =>
    obtain ⟨round, cause⟩ := error
    obtain rfl : cause = .exception raised := Except.error.inj failed
    exact build_raises _ _ _ _ round raised built

end Node

/-- Why reading raises: an escape stands for no character, there is no room for a node, or building
the document raises. -/
inductive IsCause (runtime : Runtime) (text : String) (raised : Raised) : Prop where
  | escape {part : List Char} (inside : part <:+: text.toList) (void : IsVoidEscape raised part)
  | deep {depth : Nat} {ahead : List Token} (inside : ahead <:+: Token.ofText text.toList)
      (noRoom : runtime.hasRoom depth ahead = false) (is : raised = Runtime.overflow)
  | node {document : Node}
      (found : Node.ofTokens? runtime (Token.ofText text.toList) = .ok (some document))
      (raises : document.Raises (runtime.hasRoomFor document) raised)

theorem IsCause.kind_mem {runtime : Runtime} {text : String} {raised : Raised}
    (h : IsCause runtime text raised) : raised.kind ∈ exceptionKinds := by
  cases h with
  | escape _ void => exact void.kind_mem
  | deep _ _ is =>
    subst is
    decide
  | node _ raises => exact raises.kind_mem

theorem read_raises {runtime : Runtime} {text : String} {raised : Raised}
    (failed : read runtime text = .error (.exception raised)) : IsCause runtime text raised := by
  unfold read at failed
  rcases bind_eq_error.mp failed with unread | ⟨document, found, unbuilt⟩
  · obtain ⟨part, inside, unreadable | ⟨is, depth, noRoom⟩⟩ :=
      (Node.ofTokens?_follows runtime _).raises raised unread
    · subst unreadable
      obtain ⟨part, inside, void⟩ :=
        Token.ofText_raises (inside.subset (List.mem_singleton_self _))
      exact .escape inside void
    · exact .deep inside noRoom is
  · cases document with
    | none => cases unbuilt
    | some node => exact .node found (Node.toValue_raises unbuilt)

end EnumTables.Yaml
