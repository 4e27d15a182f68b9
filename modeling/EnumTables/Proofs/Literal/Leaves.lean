import EnumTables.Proofs.Decimal.Layout
import EnumTables.Proofs.Literal.Written
import EnumTables.Proofs.Text.Nesting

/-!
# From leaves to literals

A value has leaves under a representation: the parts that are neither slices nor pairs. A property
of texts that is kept by plain characters, commas and brackets (`IsKept`) holds of the literal of a
value once it holds of what the leaves show (`written_kept`). Being enclosed is such a property,
and so is being one line.
-/

namespace EnumTables

open Decimal Literal Text Text.Nesting

/-! ## Properties of texts -/

namespace Text

def IsPlain (c : Char) : Prop := c ∉ signs ∧ c ≠ '\n'

instance : DecidablePred IsPlain := fun c =>
  inferInstanceAs (Decidable (c ∉ signs ∧ c ≠ '\n'))

theorem IsWord.plain {text : String} (word : IsWord text) : ∀ c ∈ text.toList, IsPlain c := by
  have signs_marks : ∀ c ∈ signs, c ∈ marks := by decide
  exact fun c inside => ⟨fun sign => word.2 c inside (signs_marks c sign),
    fun lineBreak => word.2 c inside (by rw [lineBreak]; decide)⟩

/-- The property is one of plain texts, and is kept where texts stand behind each other or between
brackets. -/
structure IsKept (holds : List Char → Prop) : Prop where
  plain {text : List Char} : (∀ c ∈ text, IsPlain c) → holds text
  append {left right : List Char} : holds left → holds right → holds (left ++ right)
  brackets {opening closing : Char} {texts : List (List Char)} : opening ∈ openings →
    closing ∈ closings → (∀ text ∈ texts, holds text) →
    holds (opening :: [',', ' '].intercalate texts ++ [closing])

theorem isKept_isEnclosed : IsKept IsEnclosed where
  plain plain := .of_plain fun c inside => (plain c inside).1
  append := .append
  brackets opening closing enclosed := .brackets opening closing (run_intercalate enclosed 0)

theorem notMem_intercalate {c : Char} {separator : List Char} {texts : List (List Char)}
    (outside : c ∉ separator) (each : ∀ text ∈ texts, c ∉ text) :
    c ∉ separator.intercalate texts := by
  induction texts with
  | nil => exact List.not_mem_nil
  | cons text rest ih =>
    have first := each text List.mem_cons_self
    have others := ih fun text h => each text (List.mem_cons_of_mem _ h)
    cases rest <;> simp_all

theorem isKept_oneLine : IsKept ('\n' ∉ ·) where
  plain plain inside := (plain _ inside).2 rfl
  append hl hr inside := (List.mem_append.mp inside).elim hl hr
  brackets {opening closing texts} ho hc lines inside := by
    have not_opening : '\n' ∉ openings := by decide
    have not_closing : '\n' ∉ closings := by decide
    have not_separator : '\n' ∉ [',', ' '] := by decide
    have not_between := notMem_intercalate not_separator lines
    simp only [List.cons_append, List.mem_cons, List.mem_append, List.not_mem_nil,
      or_false] at inside
    rcases inside with rfl | between | rfl
    · exact not_opening ho
    · exact not_between between
    · exact not_closing hc

theorem IsKept.and {left right : List Char → Prop} (hl : IsKept left) (hr : IsKept right) :
    IsKept fun text => left text ∧ right text where
  plain plain := ⟨hl.plain plain, hr.plain plain⟩
  append h h' := ⟨hl.append h.1 h'.1, hr.append h.2 h'.2⟩
  brackets ho hc inner :=
    ⟨hl.brackets ho hc fun text h => (inner text h).1,
      hr.brackets ho hc fun text h => (inner text h).2⟩

end Text

/-! ## Texts of literals -/

namespace Literal

theorem toList_sliceText (texts : List String) :
    (sliceText texts).toList =
      ['&'] ++ ('[' :: [',', ' '].intercalate (texts.map String.toList) ++ [']']) := by
  simp [sliceText]

theorem toList_pairText (left right : String) :
    (pairText left right).toList =
      '(' :: [',', ' '].intercalate [left.toList, right.toList] ++ [')'] := by
  simp [pairText, List.intercalate]

theorem toList_coordinatesText (name x y : String) :
    (coordinatesText name x y).toList = name.toList ++ [' '] ++ ('\x7b' ::
      [',', ' '].intercalate [" x: ".toList ++ x.toList, "y: ".toList ++ y.toList ++ [' ']] ++
      ['\x7d']) := by
  simp [coordinatesText, List.intercalate]

variable {holds : List Char → Prop}

theorem sliceText_kept (kept : IsKept holds) {texts : List String}
    (inner : ∀ text ∈ texts, holds text.toList) : holds (sliceText texts).toList := by
  have opening : '[' ∈ openings := by decide
  have closing : ']' ∈ closings := by decide
  have elements : ∀ text ∈ texts.map String.toList, holds text := by simpa using inner
  rw [toList_sliceText]
  exact kept.append (kept.plain (by decide)) (kept.brackets opening closing elements)

theorem pairText_kept (kept : IsKept holds) {left right : String} (hl : holds left.toList)
    (hr : holds right.toList) : holds (pairText left right).toList := by
  have opening : '(' ∈ openings := by decide
  have closing : ')' ∈ closings := by decide
  rw [toList_pairText]
  exact kept.brackets opening closing (by simp [hl, hr])

theorem coordinatesText_kept (kept : IsKept holds) {name x y : String} (word : IsWord name)
    (hx : holds x.toList) (hy : holds y.toList) : holds (coordinatesText name x y).toList := by
  have opening : '\x7b' ∈ openings := by decide
  have closing : '\x7d' ∈ closings := by decide
  have blank : holds [' '] := kept.plain (by decide)
  have first : holds (" x: ".toList ++ x.toList) := kept.append (kept.plain (by decide)) hx
  have second : holds ("y: ".toList ++ y.toList ++ [' ']) :=
    kept.append (kept.append (kept.plain (by decide)) hy) blank
  rw [toList_coordinatesText]
  refine kept.append (kept.append (kept.plain word.plain) blank) ?_
  refine kept.brackets opening closing fun text inside => ?_
  rcases List.mem_pair.mp inside with rfl | rfl
  · exact first
  · exact second

end Literal

/-! ## Leaves -/

namespace Representation

def HasWordNames : Representation → Prop
  | .enumeration name _ | .position name => IsWord name
  | .slice element => HasWordNames element
  | .pair first second => HasWordNames first ∧ HasWordNames second
  | .scalar _ | .text => True

def Leaves (holds : Representation → Value → Prop) : Representation → Value → Prop
  | .slice element, value => ∀ items, value.elements? = some (.ok items) →
      ∀ item ∈ items, Leaves holds element item
  | .pair first second, value => ∀ left right, value.components? = some (left, right) →
      Leaves holds first left ∧ Leaves holds second right
  | leaf, value => holds leaf value

theorem Leaves.mono {weaker stronger : Representation → Value → Prop}
    (weaken : ∀ leaf value, stronger leaf value → weaker leaf value)
    {representation : Representation} {value : Value} (h : representation.Leaves stronger value) :
    representation.Leaves weaker value := by
  induction representation generalizing value with
  | scalar | enumeration | text | position => exact weaken _ _ h
  | slice element ih => exact fun items found item inside => ih (h items found item inside)
  | pair first second ihl ihr =>
    exact fun left right found => ⟨ihl (h left right found).1, ihr (h left right found).2⟩

/-- What a leaf shows: the text of a number, the name of a variant, a text in quotes, or two
coordinates. The name is a word, and the rest has the property. -/
def ShowsIn (holds : List Char → Prop) : Representation → Value → Prop
  | .scalar .int32, value => value.asInteger?.isSome → ∀ text, value.shown = .ok text →
      holds text.toList
  | .enumeration _ _, value => ∀ found variant, variantLabel value = .ok (.ok found) →
      found.text = .ok variant → IsWord variant
  | .text, value => value.asText?.isSome → ∀ text, value.inline = .ok text →
      holds ('"' :: text.toList ++ ['"'])
  | .position _, value => ∀ isX text, value.coordinate isX = .integer (.ok text) →
      holds text.toList
  | _, _ => True

variable {holds : List Char → Prop}

theorem scalar_kept (kept : IsKept holds) {kind : Scalar} {value : Value} {text : String}
    (shows : ShowsIn holds (.scalar kind) value) (h : written (.scalar kind) value = .ok text) :
    holds text.toList := by
  rw [written_scalar_eq_ok] at h
  cases kind with
  | bool =>
    obtain ⟨b, rfl, spoken⟩ := ofScalar_bool_eq_ok.mp h
    obtain rfl := Except.ok.inj spoken
    cases b <;> exact kept.plain (by decide)
  | int32 =>
    obtain ⟨n, number, range, spoken⟩ := ofScalar_int32_eq_ok.mp h
    exact shows (by simp [number]) text spoken.symm
  | float64 =>
    obtain ⟨x, number, spoken⟩ := ofScalar_float64_eq_ok.mp h
    obtain rfl := Except.ok.inj spoken
    exact kept.plain (floatLayout.write_forall (by decide) (by decide) (by decide) x)

theorem enumeration_kept (kept : IsKept holds) {name : String} (named : IsWord name)
    {value : Value} {text : String} (shows : ShowsIn holds (.enumeration name true) value)
    (h : written (.enumeration name true) value = .ok text) : holds text.toList := by
  obtain ⟨found, variant, label, spoken, rfl⟩ := written_enumeration_eq_ok.mp h
  have word : IsWord variant := shows found variant label spoken
  have separator : holds "::".toList := kept.plain (by decide)
  rw [String.toList_append, String.toList_append]
  exact kept.append (kept.append (kept.plain named.plain) separator) (kept.plain word.plain)

theorem text_kept {value : Value} {text : String} (shows : ShowsIn holds .text value)
    (h : written .text value = .ok text) : holds text.toList := by
  obtain ⟨inner, isText, spoken, rfl⟩ := written_text_eq_ok.mp h
  simpa using shows isText inner spoken

theorem position_kept (kept : IsKept holds) {name : String} (named : IsWord name)
    {value : Value} {text : String} (shows : ShowsIn holds (.position name) value)
    (h : written (.position name) value = .ok text) : holds text.toList := by
  obtain ⟨x, y, foundX, foundY, rfl⟩ := written_position_eq_ok.mp h
  exact coordinatesText_kept kept named (shows true x foundX) (shows false y foundY)

theorem written_kept (kept : IsKept holds) {representation : Representation}
    (qualified : representation.IsQualified) (named : representation.HasWordNames)
    {value : Value} {text : String} (shows : representation.Leaves (ShowsIn holds) value)
    (h : representation.written value = .ok text) : holds text.toList := by
  induction representation generalizing value text with
  | scalar kind => exact scalar_kept kept shows h
  | enumeration name isQualified =>
    obtain rfl : isQualified = true := qualified
    exact enumeration_kept kept named shows h
  | text => exact text_kept shows h
  | position name => exact position_kept kept named shows h
  | slice element ih =>
    have inner : element.IsQualified := qualified
    obtain ⟨items, texts, found, each, rfl⟩ := (written_slice_eq_ok inner).mp h
    refine sliceText_kept kept fun text inside => ?_
    obtain ⟨item, member, literal⟩ := exists_mem_of_forall₂ each inside
    exact ih inner named (shows items found item member) literal
  | pair first second ihl ihr =>
    obtain ⟨left, right, leftText, rightText, found, hl, hr, rfl⟩ := written_pair_eq_ok.mp h
    have leaves := shows left right found
    exact pairText_kept kept (ihl qualified.1 named.1 leaves.1 hl)
      (ihr qualified.2 named.2 leaves.2 hr)

end Representation

end EnumTables
