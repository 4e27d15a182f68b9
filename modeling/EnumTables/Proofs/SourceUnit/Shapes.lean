import EnumTables.Proofs.Literal.NormalForm
import EnumTables.Proofs.SourceUnit.Rows

/-!
# Types and shapes

The type of a field says how its literals are laid out: as slices, pairs, quoted texts, numbers, or
what has a name. A variant of an enumeration and a position of one name have one type, so a shape
does not tell them apart. Types of different shapes are different texts however deep they are nested
(`Shape.typeText_inj`), so that the type of a field gives the shape of every literal under it
(`typeText_shape`).
-/

namespace EnumTables

open Decimal Literal Text Text.Nesting

/-! ## Shapes -/

inductive Shape where
  | scalar (kind : Scalar)
  /-- A variant of the enumeration with the name, or a position with it. -/
  | named (name : String)
  | text
  | slice (element : Shape)
  | pair (first second : Shape)
  deriving DecidableEq, Repr

namespace Shape

def typeText : Shape → String
  | .scalar kind => kind.name
  | .named name => name
  | .text => "&'static str"
  | .slice element => "&'static [" ++ typeText element ++ "]"
  | .pair first second => pairText (typeText first) (typeText second)

/-- The names in the shape are words, as identifiers are, and none of them is that of a scalar. -/
def HasTypeNames : Shape → Prop
  | .named name => IsWord name ∧ ∀ kind : Scalar, name ≠ kind.name
  | .slice element => HasTypeNames element
  | .pair first second => HasTypeNames first ∧ HasTypeNames second
  | .scalar _ | .text => True

def Matches : Shape → String → Prop
  | .scalar kind, literal => ∃ value, ofScalar kind value = .ok (.ok literal)
  | .named name, literal => (∃ variant, literal = name ++ "::" ++ variant) ∨
      ∃ x y, literal = coordinatesText name x y
  | .text, literal => ∃ inner, literal = "\"" ++ inner ++ "\""
  | .slice element, literal => ∃ parts, literal = sliceText parts ∧
      ∀ part ∈ parts, Matches element part
  | .pair first second, literal => ∃ left right, literal = pairText left right ∧
      Matches first left ∧ Matches second right

/-! ## Types -/

theorem name_isWord (kind : Scalar) : IsWord kind.name := by
  cases kind <;> decide

theorem toList_slice (element : Shape) : (typeText (.slice element)).toList =
    "&'static ".toList ++ ('[' :: element.typeText.toList ++ [']']) := by
  simp [typeText]

theorem typeText_isEnclosed {shape : Shape} (named : shape.HasTypeNames) :
    IsEnclosed shape.typeText.toList := by
  induction shape with
  | scalar kind => exact isKept_isEnclosed.plain (name_isWord kind).plain
  | named name => exact isKept_isEnclosed.plain named.1.plain
  | text => decide
  | slice element ih =>
    have front : IsEnclosed "&'static ".toList := by decide
    have inner : run (within 1) element.typeText.toList = some (within 1) := (ih named).run_within 1
    rw [toList_slice]
    exact front.append (.brackets (by decide) (by decide) inner)
  | pair first second ihl ihr => exact pairText_kept isKept_isEnclosed (ihl named.1) (ihr named.2)

theorem not_isWord_slice (element : Shape) : ¬IsWord (typeText (.slice element)) := by
  intro word
  exact word.notMem (by decide : ' ' ∈ marks) (by simp [typeText])

theorem not_isWord_pair (first second : Shape) : ¬IsWord (typeText (.pair first second)) := by
  intro word
  exact word.notMem (by decide : ' ' ∈ marks) (by simp [typeText, pairText])

inductive IsAtom : Shape → Prop
  | scalar (kind : Scalar) : IsAtom (.scalar kind)
  | named (name : String) : IsAtom (.named name)

theorem isWord_iff_isAtom {shape : Shape} (named : shape.HasTypeNames) :
    IsWord shape.typeText ↔ shape.IsAtom := by
  cases shape with
  | scalar kind => exact iff_of_true (name_isWord kind) (.scalar kind)
  | named name => exact iff_of_true named.1 (.named name)
  | text => exact iff_of_false (by decide) nofun
  | slice element => exact iff_of_false (not_isWord_slice element) nofun
  | pair first second => exact iff_of_false (not_isWord_pair first second) nofun

theorem isAtom_iff_of_typeText {shape other : Shape} (named : shape.HasTypeNames)
    (named' : other.HasTypeNames) (same : shape.typeText = other.typeText) :
    shape.IsAtom ↔ other.IsAtom := by
  rw [← isWord_iff_isAtom named, ← isWord_iff_isAtom named', same]

theorem text_ne_slice (element : Shape) : typeText .text ≠ typeText (.slice element) := by
  intro same
  simpa [typeText] using congrArg String.toList same

theorem text_ne_pair (first second : Shape) : typeText .text ≠ typeText (.pair first second) := by
  intro same
  simpa [typeText, pairText] using congrArg String.toList same

theorem slice_ne_pair (element first second : Shape) :
    typeText (.slice element) ≠ typeText (.pair first second) := by
  intro same
  simpa [typeText, pairText] using congrArg String.toList same

theorem typeText_inj {shape other : Shape} (named : shape.HasTypeNames)
    (named' : other.HasTypeNames) (same : shape.typeText = other.typeText) : shape = other := by
  induction shape generalizing other with
  | scalar kind =>
    cases (isAtom_iff_of_typeText named named' same).mp (.scalar kind) with
    | scalar kind' => cases kind <;> cases kind' <;> simp_all [typeText, Scalar.name]
    | named name => exact absurd same.symm (named'.2 kind)
  | named name =>
    cases (isAtom_iff_of_typeText named named' same).mp (.named name) with
    | scalar kind => exact absurd same (named.2 kind)
    | named name' => exact congrArg Shape.named same
  | text =>
    cases other with
    | scalar kind => cases (isAtom_iff_of_typeText named named' same).mpr (.scalar kind)
    | named name => cases (isAtom_iff_of_typeText named named' same).mpr (.named name)
    | text => rfl
    | slice element => exact absurd same (text_ne_slice element)
    | pair first second => exact absurd same (text_ne_pair first second)
  | slice element ih =>
    cases other with
    | scalar kind => cases (isAtom_iff_of_typeText named named' same).mpr (.scalar kind)
    | named name => cases (isAtom_iff_of_typeText named named' same).mpr (.named name)
    | text => exact absurd same.symm (text_ne_slice element)
    | slice element' =>
      rw [typeText, typeText, String.append_left_inj, String.append_right_inj] at same
      exact congrArg Shape.slice (ih named named' same)
    | pair first second => exact absurd same (slice_ne_pair element first second)
  | pair first second ihl ihr =>
    cases other with
    | scalar kind => cases (isAtom_iff_of_typeText named named' same).mpr (.scalar kind)
    | named name => cases (isAtom_iff_of_typeText named named' same).mpr (.named name)
    | text => exact absurd same.symm (text_ne_pair first second)
    | slice element => exact absurd same.symm (slice_ne_pair element first second)
    | pair first' second' =>
      -- the one comma outside of brackets separates the parts
      obtain ⟨left, right⟩ := Representation.pairText_inj (typeText_isEnclosed named.1)
        (typeText_isEnclosed named.2) (typeText_isEnclosed named'.1)
        (typeText_isEnclosed named'.2) same
      rw [ihl named.1 named'.1 left, ihr named.2 named'.2 right]

end Shape

/-! ## Shapes of representations -/

namespace Representation

/-- The shape of literals. Whether variants are qualified, and whether a name is one of variants or
of positions, is forgotten. -/
def shape : Representation → Shape
  | .scalar kind => .scalar kind
  | .enumeration name _ | .position name => .named name
  | .text => .text
  | .slice element => .slice element.shape
  | .pair first second => .pair first.shape second.shape

theorem typeText_eq_shape (representation : Representation) :
    representation.typeText = representation.shape.typeText := by
  induction representation with
  | scalar | enumeration | text | position => rfl
  | slice element ih => simp [typeText, shape, Shape.typeText, ih]
  | pair first second ihl ihr => simp [typeText, shape, Shape.typeText, pairText, ihl, ihr]

theorem matches_of_written {representation : Representation}
    (qualified : representation.IsQualified) {value : Value} {literal : String}
    (h : representation.written value = .ok literal) : representation.shape.Matches literal := by
  induction representation generalizing value literal with
  | scalar kind => exact ⟨value, written_scalar_eq_ok.mp h⟩
  | enumeration name isQualified =>
    obtain rfl : isQualified = true := qualified
    obtain ⟨-, variant, -, -, rfl⟩ := written_enumeration_eq_ok.mp h
    exact .inl ⟨variant, rfl⟩
  | text =>
    obtain ⟨inner, -, -, rfl⟩ := written_text_eq_ok.mp h
    exact ⟨inner, rfl⟩
  | position name =>
    obtain ⟨x, y, -, -, rfl⟩ := written_position_eq_ok.mp h
    exact .inr ⟨x, y, rfl⟩
  | slice element ih =>
    have inner : element.IsQualified := qualified
    obtain ⟨items, parts, -, each, rfl⟩ := (written_slice_eq_ok inner).mp h
    refine ⟨parts, rfl, ?_⟩
    intro part inside
    obtain ⟨item, -, written⟩ := exists_mem_of_forall₂ each inside
    exact ih inner written
  | pair first second ihl ihr =>
    obtain ⟨_, _, left, right, -, hl, hr, rfl⟩ := written_pair_eq_ok.mp h
    exact ⟨left, right, rfl, ihl qualified.1 hl, ihr qualified.2 hr⟩

theorem typeText_eq_iff {representation other : Representation}
    (named : representation.shape.HasTypeNames) (named' : other.shape.HasTypeNames) :
    representation.typeText = other.typeText ↔ representation.shape = other.shape := by
  rw [typeText_eq_shape, typeText_eq_shape]
  exact ⟨Shape.typeText_inj named named', congrArg Shape.typeText⟩

end Representation

/-! ## Fields of emitted units -/

namespace SourceUnit

/-- Types are one text iff their shapes are one. So the type that stands behind a field in the
record and behind its accessor gives the shape of all literals of the field: whatever representation
has this type, its shape is theirs. -/
theorem typeText_shape :
    (∀ representation other : Representation, representation.shape.HasTypeNames →
      other.shape.HasTypeNames →
      (representation.typeText = other.typeText ↔ representation.shape = other.shape)) ∧
    ∀ (cls : DomainClass) (prelude unit : String), (emit cls prelude).result = .ok unit →
      ∃ schema rows, Schema.ofClass cls = .ok schema ∧ unit = text schema prelude rows ∧
        List.Forall₂ (fun variant row => ∃ literals,
          List.Forall₂ (IsLiteral variant) schema.fields literals ∧
          row = rowText schema literals ∧
          List.Forall₂ (fun field literal => field.representation.shape.HasTypeNames →
            ∀ other : Representation, other.shape.HasTypeNames →
              other.typeText = field.representation.typeText → other.shape.Matches literal)
            schema.fields literals) cls.variants rows := by
  refine ⟨fun _ _ => Representation.typeText_eq_iff, ?_⟩
  intro cls prelude unit emitted
  obtain ⟨schema, rows, made, -, each, rfl⟩ := emit_eq_ok.mp emitted
  obtain ⟨-, isField, -⟩ := Schema.ofClass_eq_ok.mp made
  have qualified : ∀ field ∈ schema.fields, field.representation.IsQualified := by
    intro field known
    obtain ⟨property, -, is⟩ := exists_mem_of_forall₂ isField known
    exact Descriptor.isQualified_of_resolve is.representation
  refine ⟨schema, rows, made, rfl, each.imp ?_⟩
  intro variant row written
  obtain ⟨literals, stored, rfl⟩ := row_eq_ok.mp written
  refine ⟨literals, stored, rfl, ?_⟩
  refine ((List.forall₂_and_left _ _).mpr ⟨qualified, stored⟩).imp ?_
  rintro field literal ⟨isQualified, value, -, written⟩ named other named' same
  rw [(Representation.typeText_eq_iff named' named).mp same]
  exact Representation.matches_of_written isQualified written

def kinds : Representation := .slice (.pair .text (.enumeration "Kind" true))

def places : Representation := .slice (.pair .text (.position "Kind"))

def sorted : Variant := ⟨"A", 0, [("kinds", .dict [(.text "], (", .text "X")])]⟩

def kindsField : Field := ⟨"kinds", "kinds", kinds⟩

def sortedClass : DomainClass where
  name := "Unit"
  properties := [⟨"kinds", .map (.primitive .text) (.enumeration "Kind")⟩]
  variants := [sorted]

theorem typeText_shape_kinds :
    kinds.shape.HasTypeNames ∧ places.shape.HasTypeNames ∧
    (kinds.typeText = places.typeText ↔ kinds.shape = places.shape) ∧
    ∃ unit literal, (emit sortedClass "use a;").result = .ok unit ∧
      IsLiteral sorted kindsField literal ∧ places.shape.Matches literal := by
  have named : IsWord "Kind" ∧ ∀ kind : Scalar, "Kind" ≠ kind.name := by
    refine ⟨by decide, ?_⟩
    rintro (_ | _ | _) <;> decide
  have namedKinds : kinds.shape.HasTypeNames := ⟨trivial, named⟩
  have namedPlaces : places.shape.HasTypeNames := ⟨trivial, named⟩
  have isField : Schema.IsField ⟨"kinds", .map (.primitive .text) (.enumeration "Kind")⟩
      kindsField := ⟨by decide +kernel, rfl, rfl⟩
  have made : Schema.ofClass sortedClass = .ok ⟨"Unit", [kindsField]⟩ :=
    Schema.ofClass_eq_ok.mpr ⟨rfl, .cons isField .nil, by decide⟩
  obtain ⟨unit, emitted⟩ : ∃ unit, (emit sortedClass "use a;").result = .ok unit :=
    exists_eq_ok (by decide +kernel)
  obtain ⟨types, fields⟩ := typeText_shape
  obtain ⟨schema, rows, found, -, each⟩ := fields sortedClass "use a;" unit emitted
  obtain rfl := Except.ok.inj (made.symm.trans found)
  obtain ⟨_, _, ⟨_, stored, -, shaped⟩, -, -⟩ := List.forall₂_cons_left_iff.mp each
  obtain ⟨literal, _, isLiteral, -, rfl⟩ := List.forall₂_cons_left_iff.mp stored
  have matching := (List.forall₂_cons.mp shaped).1 namedKinds places namedPlaces rfl
  exact ⟨namedKinds, namedPlaces, types kinds places namedKinds namedPlaces, unit, literal, emitted,
    isLiteral, matching⟩

end SourceUnit

end EnumTables
