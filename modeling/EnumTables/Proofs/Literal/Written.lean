import EnumTables.Literal
import EnumTables.Proofs.Decimal.Numeral
import EnumTables.Proofs.Outcome

/-!
# Literals as texts

Under a representation that writes variants with the names of their enumerations, every literal is
a text (`literal_eq_written`). The equations of this module say what the text of a slice and of a
pair is made of (`written_slice`, `written_pair`), and what a value is that a leaf takes
(`written_scalar_eq_ok` and those after it).
-/

namespace EnumTables

open Decimal Literal

namespace Literal

def sliceText (elements : List String) : String :=
  "&[" ++ String.intercalate ", " elements ++ "]"

def pairText (left right : String) : String :=
  "(" ++ left ++ ", " ++ right ++ ")"

def coordinatesText (name x y : String) : String :=
  name ++ " \x7b x: " ++ x ++ ", y: " ++ y ++ " \x7d"

theorem joinFrom_labels (index : Nat) (texts : List String) :
    joinFrom index (texts.map label) = .ok texts := by
  induction texts generalizing index with
  | nil => rfl
  | cons text rest ih =>
    simp only [List.map_cons, joinFrom, label]
    exact congrArg (· >>= fun others => pure (text :: others)) (ih (index + 1))

theorem joinElements_labels (texts : List String) :
    joinElements (texts.map label) = .ok (label (sliceText texts)) := by
  simp only [joinElements, joinFrom_labels]
  rfl

/-! ## Scalars -/

def float64? (value : Value) : Option Binary64 :=
  match value.asInteger?, value.asFloat? with
  | some n, _ => match Binary64.ofInt n with
    | .exact x => some x
    | .inexact | .overflow => none
  | none, other => other

theorem ofInteger_int32 {n : Int} (range : int32Min ≤ n ∧ n ≤ int32Max) :
    Spoken.ofInteger n = .ok (numeral n) := by
  have small : n.natAbs < 10 ^ 10 := by
    simp only [int32Min, int32Max] at range
    omega
  exact Spoken.ofInteger_of_le ((digitCount_le (by decide) small).trans (by decide))

theorem ofScalar_bool_eq_ok {value : Value} {spoken : Spoken} :
    ofScalar .bool value = .ok spoken ↔
      ∃ b, value = .bool b ∧ spoken = .ok (if b then "true" else "false") := by
  cases value <;> simp [ofScalar, eq_comm]

theorem ofScalar_int32_eq_ok {value : Value} {spoken : Spoken} :
    ofScalar .int32 value = .ok spoken ↔
      ∃ n, value.asInteger? = some n ∧ (int32Min ≤ n ∧ n ≤ int32Max) ∧ spoken = value.shown := by
  unfold ofScalar
  cases value.asInteger? with
  | none => cases value.asFloat? <;> simp
  | some n => by_cases range : int32Min ≤ n ∧ n ≤ int32Max <;> simp [range, eq_comm]

theorem ofScalar_float64_eq_ok {value : Value} {spoken : Spoken} :
    ofScalar .float64 value = .ok spoken ↔
      ∃ x, float64? value = some x ∧ spoken = .ok (floatLayout.write x) := by
  unfold ofScalar float64?
  cases value.asInteger? with
  | none => cases value.asFloat? <;> simp [eq_comm]
  | some n => cases h : Binary64.ofInt n <;> simp [h, eq_comm]

end Literal

namespace Representation

/-- Variants are written with the names of their enumerations everywhere. -/
def IsQualified : Representation → Prop
  | .enumeration _ qualified => qualified = true
  | .slice element => IsQualified element
  | .pair first second => IsQualified first ∧ IsQualified second
  | .scalar _ | .text | .position _ => True

def written (representation : Representation) (value : Value) : Except LiteralError String := do
  Spoken.asLiteral (← representation.literal value).text

theorem reject_ne_ok {α : Type} {representation : Representation} {value : Value} {reason : Reason}
    {a : α} : representation.reject value reason ≠ .ok a := by
  unfold reject
  split <;> simp

theorem reject_bind {α β : Type} (representation : Representation) (value : Value)
    (reason : Reason) (next : α → Except LiteralError β) :
    (representation.reject value reason >>= next) = representation.reject value reason := by
  unfold reject
  split <;> rfl

theorem exists_label_of_return {α : Type} {outcome : Except LiteralError α} {f : α → String}
    {found : Label} (h : (do return label (f (← outcome))) = .ok found) :
    ∃ text, found = label text := by
  obtain ⟨a, -, returned⟩ := bind_eq_ok.mp h
  exact ⟨f a, (Except.ok.inj returned).symm⟩

theorem exists_label_of_ne {representation : Representation}
    (ne : ∀ name, representation ≠ .enumeration name false) {value : Value} {found : Label}
    (h : representation.literal value = .ok found) : ∃ text, found = label text := by
  cases representation with
  | scalar kind =>
    simp only [literal] at h
    split at h
    · exact exists_label_of_return h
    · exact absurd h reject_ne_ok
  | enumeration name isQualified =>
    obtain rfl : isQualified = true := by simpa using ne name
    simp only [literal] at h
    split at h
    · exact absurd h reject_ne_ok
    · cases h
    · exact exists_label_of_return h
  | text =>
    simp only [literal] at h
    split at h
    · exact exists_label_of_return h
    · exact absurd h reject_ne_ok
  | position name =>
    simp only [literal] at h
    split at h
    · cases h
    · cases h
    · obtain ⟨x, -, h⟩ := bind_eq_ok.mp h
      exact exists_label_of_return h
    · exact absurd h reject_ne_ok
  | slice element =>
    simp only [literal] at h
    split at h
    · obtain ⟨elements, -, h⟩ := bind_eq_ok.mp h
      exact exists_label_of_return h
    · cases h
    · exact absurd h reject_ne_ok
  | pair first second =>
    simp only [literal] at h
    split at h
    · obtain ⟨left, -, h⟩ := bind_eq_ok.mp h
      obtain ⟨leftText, -, h⟩ := bind_eq_ok.mp h
      obtain ⟨right, -, h⟩ := bind_eq_ok.mp h
      exact exists_label_of_return h
    · exact absurd h reject_ne_ok

theorem exists_label {representation : Representation} (qualified : representation.IsQualified)
    {value : Value} {found : Label} (h : representation.literal value = .ok found) :
    ∃ text, found = label text := by
  refine exists_label_of_ne ?_ h
  rintro name rfl
  exact absurd qualified (by simp [IsQualified])

theorem literal_eq_written {representation : Representation}
    (qualified : representation.IsQualified) (value : Value) :
    representation.literal value = (representation.written value).map label := by
  unfold written
  cases h : representation.literal value with
  | error error => rfl
  | ok found =>
    obtain ⟨text, rfl⟩ := exists_label qualified h
    rfl

theorem written_eq_ok {representation : Representation} (qualified : representation.IsQualified)
    {value : Value} {text : String} :
    representation.written value = .ok text ↔ representation.literal value = .ok (label text) := by
  rw [literal_eq_written qualified]
  cases representation.written value <;> simp [Except.map, label]

/-! ## Slices and pairs -/

theorem mapM_labels {element : Representation} (qualified : element.IsQualified)
    (items : List Value) :
    (items.mapM fun item => element.literal item) =
      (items.mapM element.written).map (List.map label) := by
  induction items with
  | nil => rfl
  | cons item rest ih =>
    rw [List.mapM_cons, List.mapM_cons, ih, literal_eq_written qualified]
    cases element.written item with
    | error error => rfl
    | ok text => cases rest.mapM element.written <;> rfl

theorem written_slice {element : Representation} (qualified : element.IsQualified)
    (value : Value) :
    written (.slice element) value = match value.elements? with
      | none => reject (.slice element) value .notCollection
      | some (.error raised) => .error (.raised raised)
      | some (.ok items) => (items.mapM element.written).map sliceText := by
  simp only [written, literal]
  rcases value.elements? with _ | raised | items
  · exact reject_bind _ _ _ _
  · rfl
  · simp only [mapM_labels qualified]
    cases items.mapM element.written with
    | error error => rfl
    | ok texts =>
      change (joinElements (texts.map label) >>= fun found => Spoken.asLiteral found.text) = _
      rw [joinElements_labels]
      rfl

theorem written_pair (first second : Representation) (value : Value) :
    written (.pair first second) value = match value.components? with
      | none => reject (.pair first second) value .notPair
      | some (left, right) => do
        let left ← first.written left
        return pairText left (← second.written right) := by
  simp only [written, literal]
  cases value.components? with
  | none => exact reject_bind _ _ _ _
  | some components =>
    obtain ⟨left, right⟩ := components
    cases hl : first.literal left with
    | error error => simp [hl, bind, Except.bind]
    | ok leftLabel =>
      cases hr : second.literal right with
      | error error => cases leftLabel.text <;> simp [hl, hr] <;> rfl
      | ok rightLabel =>
        cases leftLabel.text <;> cases rightLabel.text <;> simp [hl, hr] <;> rfl

theorem written_slice_eq_ok {element : Representation} (qualified : element.IsQualified)
    {value : Value} {text : String} :
    written (.slice element) value = .ok text ↔
      ∃ items texts, value.elements? = some (.ok items) ∧
        List.Forall₂ (fun item text => element.written item = .ok text) items texts ∧
        text = sliceText texts := by
  rw [written_slice qualified]
  rcases value.elements? with _ | raised | items
  · simp [reject_ne_ok]
  · simp
  · simp only [Option.some.injEq, Except.ok.injEq, exists_and_left, exists_eq_left',
      ← mapM_eq_ok_iff]
    cases items.mapM element.written <;> simp [Except.map, eq_comm]

theorem written_pair_eq_ok {first second : Representation} {value : Value} {text : String} :
    written (.pair first second) value = .ok text ↔
      ∃ left right leftText rightText, value.components? = some (left, right) ∧
        first.written left = .ok leftText ∧ second.written right = .ok rightText ∧
        text = pairText leftText rightText := by
  rw [written_pair]
  cases value.components? with
  | none => simp [reject_ne_ok]
  | some components =>
    obtain ⟨left, right⟩ := components
    simp only [bind_eq_ok, pure, Except.pure, Except.ok.injEq, Option.some.injEq, Prod.mk.injEq]
    constructor
    · rintro ⟨leftText, hl, rightText, hr, rfl⟩
      exact ⟨left, right, leftText, rightText, ⟨rfl, rfl⟩, hl, hr, rfl⟩
    · rintro ⟨_, _, leftText, rightText, ⟨rfl, rfl⟩, hl, hr, rfl⟩
      exact ⟨leftText, hl, rightText, hr, rfl⟩

/-! ## Leaves -/

theorem literal_scalar (kind : Scalar) (value : Value) :
    literal (.scalar kind) value = match ofScalar kind value with
      | .ok written => do return label (← Spoken.asLiteral written)
      | .error reason => reject (.scalar kind) value reason :=
  rfl

theorem literal_qualified (name : String) (value : Value) :
    literal (.enumeration name true) value = match variantLabel value with
      | .error reason => reject (.enumeration name true) value reason
      | .ok (.error raised) => .error (.raised raised)
      | .ok (.ok found) => do return label (name ++ "::" ++ (← Spoken.asLiteral found.text)) :=
  rfl

theorem literal_text (value : Value) :
    literal .text value = match value.asText? with
      | some _ => do return label ("\"" ++ (← Spoken.asLiteral value.inline) ++ "\"")
      | none => reject .text value .notText :=
  rfl

theorem written_scalar_eq_ok {kind : Scalar} {value : Value} {text : String} :
    written (.scalar kind) value = .ok text ↔ ofScalar kind value = .ok (.ok text) := by
  rw [written, literal_scalar]
  cases ofScalar kind value with
  | error reason => simp [reject_bind, reject_ne_ok]
  | ok spoken => cases spoken <;> simp [Spoken.asLiteral, Except.mapError, label, bind, Except.bind,
      pure, Except.pure]

theorem written_int {n : Int} (range : int32Min ≤ n ∧ n ≤ int32Max) :
    (Representation.scalar .int32).written (.int n) = .ok (numeral n) :=
  written_scalar_eq_ok.mpr
    (ofScalar_int32_eq_ok.mpr ⟨n, rfl, range, (ofInteger_int32 range).symm⟩)

theorem written_enumeration_eq_ok {name : String} {value : Value} {text : String} :
    written (.enumeration name true) value = .ok text ↔
      ∃ found variant, variantLabel value = .ok (.ok found) ∧ found.text = .ok variant ∧
        text = name ++ "::" ++ variant := by
  rw [written, literal_qualified]
  cases variantLabel value with
  | error reason => simp [reject_bind, reject_ne_ok]
  | ok outcome =>
    cases outcome with
    | error raised => simp [bind, Except.bind]
    | ok found =>
      cases spoken : found.text <;> simp [spoken, Spoken.asLiteral, Except.mapError, label, bind,
        Except.bind, pure, Except.pure, eq_comm]

theorem written_text_eq_ok {value : Value} {text : String} :
    written .text value = .ok text ↔
      ∃ inner, value.asText?.isSome ∧ value.inline = .ok inner ∧
        text = "\"" ++ inner ++ "\"" := by
  rw [written, literal_text]
  cases value.asText? with
  | none => simp [reject_bind, reject_ne_ok]
  | some _ =>
    cases value.inline <;> simp [Spoken.asLiteral, Except.mapError, label, bind, Except.bind, pure,
      Except.pure, eq_comm]

theorem written_position_eq_ok {name : String} {value : Value} {text : String} :
    written (.position name) value = .ok text ↔
      ∃ x y, value.coordinate true = .integer (.ok x) ∧ value.coordinate false = .integer (.ok y) ∧
        text = coordinatesText name x y := by
  simp only [written, literal]
  cases value.coordinate true with
  | raised cause => simp [bind, Except.bind]
  | other =>
    cases value.coordinate false with
    | raised cause => simp [bind, Except.bind]
    | other | integer => simp [reject_bind, reject_ne_ok]
  | integer x =>
    cases value.coordinate false with
    | raised cause => simp [bind, Except.bind]
    | other => simp [reject_bind, reject_ne_ok]
    | integer y =>
      cases x <;> cases y <;> simp [ofCoordinates, Spoken.asLiteral, Except.mapError, label,
        coordinatesText, bind, Except.bind, pure, Except.pure, eq_comm]

end Representation

end EnumTables
