import EnumTables.ClassObject.Looks
import EnumTables.Proofs.Literal.NormalForm

/-!
# What leaves denote

A leaf is written by what its value shows. For a number, a coordinate and a text that is the numeral
of the integer and the characters of the text, if the value shows what it is: any value that is no
member of an enumeration does, and a member whose class shows its data (`Value.showsData`). A member
of another class is taken for the number or the text that it is, and written by its label, which is
never the numeral (`leaves_denote`, `leaves_labeled`).
-/

namespace EnumTables

open Decimal Literal

namespace Value

/-- The value shows what it is. Members do if their class says so and has no looks of its own. -/
def showsData : Value → Bool
  | .member cls _ _ data looks => looks.isNone && cls.showsData && !data.isMember
  | _ => true

/-! ## Numbers and texts that show what they are -/

theorem eq_int_of_asInteger? {value : Value} {n : Int} (plain : value.isMember = false)
    (h : value.asInteger? = some n) : value = .int n := by
  cases value <;> simp_all [asInteger?, isMember]

theorem eq_text_of_asText? {value : Value} {s : String} (plain : value.isMember = false)
    (h : value.asText? = some s) : value = .text s := by
  cases value <;> simp_all [asText?, isMember]

/-- The value is a member that has looks of its own, or builds on one, or an object with
coordinates. -/
def hasOwnLooks : Value → Bool
  | .member _ _ _ data looks => looks.isSome || hasOwnLooks data
  | .object traits _ => !(traits.x matches .other && traits.y matches .other)
  | _ => false

theorem data_hasOwnLooks {cls : MemberClass} {name : Option String} {held data : Value}
    {looks : Option Looks} (h : (Value.member cls name held data looks).hasOwnLooks = false) :
    looks = none ∧ data.hasOwnLooks = false := by
  simpa [hasOwnLooks] using h

theorem inline_eq_shown {value : Value}
    (h : value.showsData = true ∨ value.hasOwnLooks = false) : value.inline = value.shown := by
  cases value with
  | member cls name held data looks =>
    have unadorned : looks = none := by
      rcases h with shows | plain
      · simp_all [showsData]
      · exact (data_hasOwnLooks plain).1
    subst unadorned
    simp only [inline, shown]
  | _ => rfl

theorem shown_numeral {value : Value} {n : Int} (shows : value.showsData = true)
    (number : value.asInteger? = some n) : value.shown = .ofInteger n := by
  cases value with
  | member cls name held data looks =>
    simp only [showsData, Bool.and_eq_true, Option.isNone_iff_eq_none, Bool.not_eq_true'] at shows
    obtain ⟨⟨rfl, ofClass⟩, plain⟩ := shows
    obtain rfl := eq_int_of_asInteger? plain number
    simp [shown, memberText, ofClass, display]
  | int m =>
    obtain rfl := Option.some.inj number
    rfl
  | _ => cases number

theorem inline_text {value : Value} {s : String} (shows : value.showsData = true)
    (isText : value.asText? = some s) : value.inline = .ok s := by
  cases value with
  | member cls name held data looks =>
    simp only [showsData, Bool.and_eq_true, Option.isNone_iff_eq_none, Bool.not_eq_true'] at shows
    obtain ⟨⟨rfl, ofClass⟩, plain⟩ := shows
    obtain rfl := eq_text_of_asText? plain isText
    simp [inline, memberText, ofClass]
  | text t =>
    obtain rfl := Option.some.inj isText
    rfl
  | _ => cases isText

/-! ## Labels are no numerals -/

theorem numeral_forall (holds : Char → Prop) (digits : ∀ digit < 10, holds (digitChar digit))
    (sign : holds '-') (n : Int) : ∀ c ∈ (numeral n).toList, holds c := by
  rw [numeral, String.toList_ofList]
  exact (intDigits_digitsAnd n).forall digits (by simpa using sign)

theorem memberText_ne_numeral {cls : MemberClass} {name : Option String} {held data : Value}
    (h : cls.showsData = false) (n : Int) : memberText cls name held data ≠ .ok (numeral n) := by
  intro same
  have noPoint := numeral_forall (· ≠ '.') (by decide) (by decide) n
  have noBracket := numeral_forall (· ≠ '(') (by decide) (by decide) n
  simp only [memberText, h] at same
  split at same
  · obtain ⟨text, -, returned⟩ := bind_eq_ok.mp same
    obtain same := Except.ok.inj returned
    exact noBracket '(' (by simp [← same]) rfl
  · obtain same := Except.ok.inj same
    exact noPoint '.' (by simp [← same, memberLabel]) rfl

theorem display_ne_numeral {member : Value} (isMember : member.isMember = true)
    (h : member.hasOwnLooks = false) (n : Int) : member.display ≠ .ok (numeral n) := by
  intro same
  have noBracket := numeral_forall (· ≠ '<') (by decide) (by decide) n
  cases member with
  | member cls name held data looks =>
    obtain ⟨rfl, -⟩ := data_hasOwnLooks h
    obtain ⟨text, -, returned⟩ := bind_eq_ok.mp same
    obtain same := Except.ok.inj returned
    exact noBracket '<' (by simp [← same]) rfl
  | _ => cases isMember

theorem showsData_of_shown {value : Value} {n : Int} (h : value.hasOwnLooks = false)
    (number : value.asInteger? = some n) (spoken : value.shown = .ok (numeral n)) :
    value.showsData = true := by
  cases value with
  | member cls name held data looks =>
    obtain ⟨rfl, inner⟩ := data_hasOwnLooks h
    have text : memberText cls name held data = .ok (numeral n) := spoken
    cases ofClass : cls.showsData with
    | false => exact absurd text (memberText_ne_numeral ofClass n)
    | true =>
      cases isMember : data.isMember with
      | false => simp [showsData, ofClass, isMember]
      | true =>
        refine absurd ?_ (display_ne_numeral isMember inner n)
        cases data with
        | member => simpa [memberText, ofClass] using text
        | _ => cases isMember
  | _ => rfl

/-- A text by which a value is written where an integer is expected. It is the numeral if the value
shows what it is, and if the value has no looks of its own, only then. -/
structure Spells (value : Value) (n : Int) (text : String) : Prop where
  numeral : value.showsData = true → text = Decimal.numeral n ∧ readNumeral? text.toList = some n
  label : value.hasOwnLooks = false → text = Decimal.numeral n → value.showsData = true

theorem spells_of_shown {value : Value} {n : Int} {text : String}
    (number : value.asInteger? = some n) (spoken : value.shown = .ok text) :
    value.Spells n text where
  numeral shows := by
    obtain rfl := Spoken.eq_numeral_of_ofInteger ((shown_numeral shows number).symm.trans spoken)
    refine ⟨rfl, ?_⟩
    rw [Decimal.numeral, String.toList_ofList, readNumeral?_intDigits]
  label plain same := showsData_of_shown plain number (same ▸ spoken)

theorem spells_of_inline {value : Value} {n : Int} {text : String}
    (number : value.asInteger? = some n) (spoken : value.inline = .ok text) :
    value.Spells n text where
  numeral shows :=
    (spells_of_shown number ((inline_eq_shown (Or.inl shows)).symm.trans spoken)).numeral shows
  label plain :=
    (spells_of_shown number ((inline_eq_shown (Or.inr plain)).symm.trans spoken)).label plain

/-! ## Components -/

def axis (isX : Bool) : String :=
  if isX then "x" else "y"

inductive IsComponent (scope : Scope) (isX : Bool) : Value → Value → Prop
  | position {x y : Value} : IsComponent scope isX (.position x y) (if isX then x else y)
  | record {attributes : List (String × Value)} {value : Value} :
      attributes.lookup (axis isX) = some value → IsComponent scope isX (.record attributes) value
  | itself {cls : MemberClass} {held data : Value} :
      IsComponent scope isX (.member cls (some (axis isX)) held data none)
        (.member cls (some (axis isX)) held data none)
  | sibling {cls : MemberClass} {name : Option String} {held data : Value} {bits : Int} :
      name ≠ some (axis isX) → cls.bits.lookup (axis isX) = some bits →
      IsComponent scope isX (.member cls name held data none)
        (cls.bitMember data.asInteger?.isSome (axis isX) bits)
  | data {cls : MemberClass} {name : Option String} {held data value : Value} :
      name ≠ some (axis isX) → cls.bits.lookup (axis isX) = none →
      IsComponent scope isX data value →
      IsComponent scope isX (.member cls name held data none) value
  | computed {cls : MemberClass} {name : Option String} {held data bare : Value}
      {found : ClassObject} {entity : Entity} :
      scope.read (.value bare) (axis isX) = .ok entity →
      IsComponent scope isX (.member cls name held data (some (scope.looksOf found bare)))
        (scope.voiced (entity.toValue scope))
  /-- A class itself can be taken for a position. -/
  | ofClass {traits : Traits} {items : List Value} {cls : ClassObject} {entity : Entity} :
      scope.read (.cls cls.name) (axis isX) = .ok entity →
      IsComponent scope isX (.object { traits with
          x := scope.coordinateOf (.cls cls.name) "x"
          y := scope.coordinateOf (.cls cls.name) "y" } items)
        (scope.voiced (entity.toValue scope))

theorem IsComponent.coordinate_eq {scope : Scope} {isX : Bool} {value component : Value}
    (h : IsComponent scope isX value component) :
    value.coordinate isX = component.asCoordinate := by
  induction h with
  | position => cases isX <;> rfl
  | record found =>
    unfold axis at found
    rw [coordinate, found]
  | itself =>
    unfold axis
    rw [coordinate, if_pos rfl]
  | sibling other found =>
    unfold axis at *
    rw [coordinate, if_neg other, found]
  | data other missing _ ih =>
    unfold axis at *
    rw [coordinate, if_neg other, missing]
    exact ih
  | computed read | ofClass read =>
    cases isX <;> simp_all [coordinate, Scope.looksOf, Scope.coordinateOf, axis]

theorem exists_component_of_unadorned {scope : Scope} {isX : Bool} {cls : MemberClass}
    {name : Option String} {held data : Value} {spoken : Spoken}
    (inner : data.coordinate isX = .integer spoken → ∃ component,
      IsComponent scope isX data component)
    (h : (Value.member cls name held data none).coordinate isX = .integer spoken) :
    ∃ component, IsComponent scope isX (.member cls name held data none) component := by
  by_cases own : name = some (axis isX)
  · subst own
    exact ⟨_, .itself⟩
  · cases found : cls.bits.lookup (axis isX) with
    | some bits => exact ⟨_, .sibling own found⟩
    | none =>
      have ofData : data.coordinate isX = .integer spoken := by
        unfold axis at own found
        rwa [coordinate, if_neg own, found] at h
      obtain ⟨component, isComponent⟩ := inner ofData
      exact ⟨component, .data own found isComponent⟩

theorem exists_read_of_coordinateOf {scope : Scope} {owner : Entity} {name : String}
    {spoken : Spoken} (h : scope.coordinateOf owner name = .integer spoken) :
    ∃ entity, scope.read owner name = .ok entity := by
  unfold Scope.coordinateOf at h
  split at h
  · next entity read => exact ⟨entity, read⟩
  · split at h <;> cases h

theorem exists_component_of_looks {scope : Scope} {isX : Bool} {cls : MemberClass}
    {name : Option String} {held data bare : Value} {found : ClassObject} {spoken : Spoken}
    (h : (Value.member cls name held data (some (scope.looksOf found bare))).coordinate isX =
      .integer spoken) :
    ∃ component, IsComponent scope isX
      (.member cls name held data (some (scope.looksOf found bare))) component := by
  have computed : scope.coordinateOf (.value bare) (axis isX) = .integer spoken := by
    cases isX <;> exact h
  obtain ⟨entity, read⟩ := exists_read_of_coordinateOf computed
  exact ⟨_, .computed read⟩

theorem dressed_member (scope : Scope) (cls : MemberClass) (name : Option String)
    (held data : Value) : ∃ ofClass looks, scope.dressed (.member cls name held data none) =
        .member ofClass name (scope.dressed held) (scope.dressed data) looks ∧
      (looks = none ∨ ∃ found bare, looks = some (scope.looksOf found bare)) := by
  let bare : Value := .member cls name (scope.dressed held) (scope.dressed data) none
  cases known : scope.memberClass? cls with
  | none => exact ⟨cls, none, by simp [Scope.dressed, Scope.withLooks, known], Or.inl rfl⟩
  | some found =>
    cases unadorned : scope.isUnadorned found with
    | true =>
      exact ⟨cls, none, by simp [Scope.dressed, Scope.withLooks, known, unadorned], Or.inl rfl⟩
    | false =>
      refine ⟨Scope.classWithLooks scope.looksOf cls found, some (scope.looksOf found bare), ?_,
        Or.inr ⟨found, bare, rfl⟩⟩
      simp [Scope.dressed, Scope.withLooks, known, unadorned, bare]

theorem exists_component_of_exposed {scope : Scope} {isX : Bool} {spoken : Spoken}
    {traits : Traits} {items : List Value}
    (plain : (Value.object traits items).hasOwnLooks = false)
    (h : (Value.object (scope.exposed traits) items).coordinate isX = .integer spoken) :
    ∃ component, IsComponent scope isX (.object (scope.exposed traits) items) component := by
  unfold Scope.exposed at h ⊢
  split at h
  · next cls _ =>
    have ofClass : scope.coordinateOf (.cls cls.name) (axis isX) = .integer spoken := by
      cases isX <;> exact h
    obtain ⟨entity, read⟩ := exists_read_of_coordinateOf ofClass
    exact ⟨_, .ofClass read⟩
  · cases isX <;> simp_all [coordinate, hasOwnLooks]

theorem exists_component {scope : Scope} {isX : Bool} {spoken : Spoken} : ∀ {raw : Value},
    raw.hasOwnLooks = false → (scope.dressed raw).coordinate isX = .integer spoken →
    ∃ component, IsComponent scope isX (scope.dressed raw) component
  | .member cls name held data none, plain, h => by
    have inner : (scope.dressed data).coordinate isX = .integer spoken → _ :=
      exists_component (data_hasOwnLooks plain).2
    obtain ⟨_, _, same, rfl | ⟨found, bare, rfl⟩⟩ := dressed_member scope cls name held data
    · rw [same] at h ⊢
      exact exists_component_of_unadorned inner h
    · rw [same] at h ⊢
      exact exists_component_of_looks h
  | .member _ _ _ _ (some _), plain, _ => by simp [hasOwnLooks] at plain
  | .position x y, _, _ => by
    rw [Scope.dressed, Scope.withLooks]
    exact ⟨_, .position⟩
  | .record attributes, _, h => by
    rw [Scope.dressed, Scope.withLooks] at h ⊢
    rw [coordinate] at h
    split at h
    · next value found => exact ⟨value, .record found⟩
    · cases h
  | .object traits items, plain, h => by
    rw [Scope.dressed, Scope.withLooks] at h ⊢
    exact exists_component_of_exposed plain h
  | .collection .., _, h | .mapping .., _, h => by
    rw [Scope.dressed, Scope.withLooks] at h
    cases h
  | .null, _, h | .bool _, _, h | .int _, _, h | .float _, _, h | .text _, _, h
  | .bytes _ _, _, h | .range _ _ _, _, h => by cases h

theorem spells_of_asCoordinate {component : Value} {text : String}
    (h : component.asCoordinate = .integer (.ok text)) :
    ∃ n, component.asInteger? = some n ∧ component.Spells n text := by
  unfold asCoordinate at h
  split at h
  · next number =>
    obtain ⟨n, number⟩ := Option.isSome_iff_exists.mp number
    exact ⟨n, number, spells_of_inline number (Coordinate.integer.inj h)⟩
  · cases h

end Value

/-! ## Leaves -/

namespace Representation

open Value

/-- The text of a number lies in its range and spells it, so do the texts of coordinates, and
between the quotes of a text stands what it shows, for values that show what they are. -/
theorem leaves_denote (value : Value) :
    (∀ text, written (.scalar .int32) value = .ok text → ∃ n, value.asInteger? = some n ∧
      (int32Min ≤ n ∧ n ≤ int32Max) ∧ value.Spells n text) ∧
    (∀ name text, written (.position name) value = .ok text → ∃ shown : Bool → String,
      text = coordinatesText name (shown true) (shown false) ∧
      (∀ scope isX component, IsComponent scope isX value component →
        ∃ n, component.asInteger? = some n ∧ component.Spells n (shown isX)) ∧
      ∀ (scope : Scope) raw, raw.hasOwnLooks = false → value = scope.dressed raw → ∀ isX,
        ∃ component, IsComponent scope isX value component) ∧
    (∀ text, written .text value = .ok text → ∃ s inner, value.asText? = some s ∧
      value.inline = .ok inner ∧ text = "\"" ++ inner ++ "\"" ∧
      (value.showsData = true → inner = s)) := by
  refine ⟨fun text h => ?_, fun name text h => ?_, fun text h => ?_⟩
  · obtain ⟨n, number, range, spoken⟩ := ofScalar_int32_eq_ok.mp (written_scalar_eq_ok.mp h)
    exact ⟨n, number, range, spells_of_shown number spoken.symm⟩
  · obtain ⟨x, y, foundX, foundY, rfl⟩ := written_position_eq_ok.mp h
    have found : ∀ isX, value.coordinate isX = .integer (.ok (if isX then x else y)) := by
      intro isX
      cases isX
      · exact foundY
      · exact foundX
    refine ⟨fun isX => if isX then x else y, rfl, fun scope isX component isComponent => ?_, ?_⟩
    · exact spells_of_asCoordinate (isComponent.coordinate_eq.symm.trans (found isX))
    · rintro scope raw plain rfl isX
      exact exists_component plain (found isX)
  · obtain ⟨inner, isText, spoken, rfl⟩ := written_text_eq_ok.mp h
    obtain ⟨s, isText⟩ := Option.isSome_iff_exists.mp isText
    refine ⟨s, inner, isText, spoken, rfl, fun shows => ?_⟩
    exact Except.ok.inj (spoken.symm.trans (inline_text shows isText))

def labeledNumber : Value :=
  .member ⟨"P", "P", 0, false, false, [], 0, []⟩ (some "HIGH") (.int 1) (.int 1) none

def labeledText : Value :=
  .member ⟨"S", "S", 0, false, false, [], 0, []⟩ (some "A") (.text "x") (.text "x") none

/-- Members that are numbers and texts are written by their labels. -/
theorem leaves_labeled :
    (labeledNumber.asInteger? = some 1 ∧
      written (.scalar .int32) labeledNumber = .ok "P.HIGH" ∧ "P.HIGH" ≠ numeral 1 ∧
      readNumeral? "P.HIGH".toList = none) ∧
    written (.position "TilePosition") (.position labeledNumber (.int 2)) =
      .ok (coordinatesText "TilePosition" "P.HIGH" (numeral 2)) ∧
    labeledText.asText? = some "x" ∧ written .text labeledText = .ok "\"S.A\"" := by
  have y : (Value.int 2).inline = .ok (numeral 2) := ofInteger_int32 (by decide)
  refine ⟨⟨rfl, rfl, by decide +kernel, by decide⟩, ?_, rfl, rfl⟩
  exact written_position_eq_ok.mpr ⟨_, _, rfl, congrArg Coordinate.integer y, rfl⟩

end Representation

end EnumTables
