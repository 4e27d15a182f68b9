import EnumTables.Proofs.Literal.Written

/-!
# Values without mappings

A mapping in a list, a tuple or a mapping gives way to the list of its entries. A slice has the same
elements then, a pair the same components, and a position the same coordinates, each of them as it
was or without mappings itself. So a value that has a literal keeps it (`literal_unfolded`). The
converse does not hold: a list of two entries is a pair, a mapping is none.
-/

namespace EnumTables

open Literal

namespace Value

mutual

/-- Every mapping becomes the list of its entries, at any depth of lists, tuples and mappings. -/
def unfolded : Value → Value
  | .collection .list items => .list (unfoldedItems items)
  | .collection .tuple items => .tuple (unfoldedItems items)
  | .mapping _ entries => .list (unfoldedEntries entries)
  | .position x y => .position (unfolded x) (unfolded y)
  | value => value

def unfoldedItems : List Value → List Value
  | [] => []
  | item :: rest => unfolded item :: unfoldedItems rest

def unfoldedEntries : List (Value × Value) → List Value
  | [] => []
  | (key, value) :: rest => .tuple [unfolded key, unfolded value] :: unfoldedEntries rest

end

theorem unfoldedItems_eq (items : List Value) : unfoldedItems items = items.map unfolded := by
  induction items with
  | nil => rfl
  | cons item rest ih => rw [unfoldedItems, ih, List.map_cons]

theorem unfolded_entry (pair : Value × Value) :
    (entry pair).unfolded = entry (pair.1.unfolded, pair.2.unfolded) := rfl

theorem unfoldedEntries_eq (entries : List (Value × Value)) :
    unfoldedEntries entries = (entries.map entry).map unfolded := by
  induction entries with
  | nil => rfl
  | cons pair rest ih =>
    rw [unfoldedEntries, ih, List.map_cons, List.map_cons, unfolded_entry]
    rfl

theorem unfolded_list (items : List Value) :
    (list items).unfolded = list (items.map unfolded) := by
  rw [unfolded, unfoldedItems_eq]

theorem unfolded_tuple (items : List Value) :
    (tuple items).unfolded = tuple (items.map unfolded) := by
  rw [unfolded, unfoldedItems_eq]

theorem unfolded_mapping (readOnly : Bool) (entries : List (Value × Value)) :
    (mapping readOnly entries).unfolded = list ((entries.map entry).map unfolded) := by
  rw [unfolded, unfoldedEntries_eq]

/-! ## Views of a value without mappings -/

/-- A part of a value and what stands in its place: itself, or itself without mappings. -/
def Unfolds (before after : Value) : Prop :=
  after = before ∨ after = before.unfolded

theorem forall₂_unfolds_map (items : List Value) :
    List.Forall₂ Unfolds items (items.map unfolded) := by
  rw [List.forall₂_map_right_iff]
  exact List.forall₂_same.mpr fun _ _ => Or.inr rfl

theorem forall₂_unfolds_refl (items : List Value) : List.Forall₂ Unfolds items items :=
  List.forall₂_same.mpr fun _ _ => Or.inl rfl

theorem elements?_unfolded {value : Value} {items : List Value}
    (h : value.elements? = some (.ok items)) :
    ∃ others, value.unfolded.elements? = some (.ok others) ∧
      List.Forall₂ Unfolds items others := by
  cases value with
  | collection kind parts =>
    obtain rfl : parts = items := Except.ok.inj (Option.some.inj h)
    cases kind with
    | list => exact ⟨_, by rw [unfolded_list, elements?], forall₂_unfolds_map parts⟩
    | tuple => exact ⟨_, by rw [unfolded_tuple, elements?], forall₂_unfolds_map parts⟩
    | set | frozenSet | stream => exact ⟨parts, rfl, forall₂_unfolds_refl parts⟩
  | mapping readOnly entries =>
    obtain rfl : entries.map entry = items := Except.ok.inj (Option.some.inj h)
    exact ⟨_, by rw [unfolded_mapping, elements?], forall₂_unfolds_map _⟩
  | position x y =>
    obtain rfl : [x, y] = items := Except.ok.inj (Option.some.inj h)
    exact ⟨[x, y].map unfolded, rfl, forall₂_unfolds_map [x, y]⟩
  | _ => exact ⟨items, h, forall₂_unfolds_refl items⟩

theorem components?_unfolded {value left right : Value}
    (h : value.components? = some (left, right)) :
    ∃ left' right', value.unfolded.components? = some (left', right') ∧
      Unfolds left left' ∧ Unfolds right right' := by
  induction value using components?.induct with
  | case1 x y | case2 x y | case3 x y =>
    obtain ⟨rfl, rfl⟩ : x = left ∧ y = right := by simpa [components?] using h
    exact ⟨x.unfolded, y.unfolded, rfl, Or.inr rfl, Or.inr rfl⟩
  | case4 cls name held data looks _ => exact ⟨left, right, h, Or.inl rfl, Or.inl rfl⟩
  | case5 value => simp_all [components?]

theorem asCoordinate_unfolded (value : Value) :
    value.unfolded.asCoordinate = value.asCoordinate := by
  cases value with
  | collection kind items => cases kind <;> rfl
  | _ => rfl

theorem coordinate_unfolded (isX : Bool) (value : Value) :
    value.unfolded.coordinate isX = value.coordinate isX := by
  cases value with
  | collection kind items => cases kind <;> rfl
  | position x y => simp only [unfolded, coordinate, asCoordinate_unfolded]
  | _ => rfl

/-! ## Leaves -/

def isContainer : Value → Bool
  | .collection .. | .mapping .. | .position .. => true
  | _ => false

theorem unfolded_of_leaf {value : Value} (leaf : value.isContainer = false) :
    value.unfolded = value := by
  cases value with
  | collection | mapping | position => cases leaf
  | _ => rfl

theorem asText?_of_container {value : Value} (container : value.isContainer = true) :
    value.asText? = none := by
  cases value with
  | collection | mapping | position => rfl
  | _ => cases container

end Value

namespace Literal

theorem ofScalar_of_container {value : Value} (container : value.isContainer = true)
    (kind : Scalar) : ∃ reason, ofScalar kind value = .error reason := by
  cases value with
  | collection | mapping | position => cases kind <;> exact ⟨_, rfl⟩
  | _ => cases container

theorem variantLabel_of_container {value : Value} (container : value.isContainer = true) :
    variantLabel value = .error .notMember := by
  cases value with
  | collection | mapping | position => rfl
  | _ => cases container

end Literal

namespace Representation

theorem isContainer_of_literal {representation : Representation} {value : Value} {found : Label}
    (leaf : representation matches .scalar _ | .enumeration .. | .text)
    (h : representation.literal value = .ok found) : value.isContainer = false := by
  by_contra container
  rw [Bool.not_eq_false] at container
  cases representation with
  | scalar kind =>
    obtain ⟨reason, refused⟩ := ofScalar_of_container container kind
    simp [literal, refused, reject_ne_ok] at h
  | enumeration name qualified =>
    simp [literal, variantLabel_of_container container, reject_ne_ok] at h
  | text => simp [literal, Value.asText?_of_container container, reject_ne_ok] at h
  | position | slice | pair => cases leaf

theorem literal_of_unfolds {representation : Representation} {before after : Value} {found : Label}
    (keeps : ∀ {value found}, representation.literal value = .ok found →
      representation.literal value.unfolded = .ok found)
    (unfolds : before.Unfolds after) (h : representation.literal before = .ok found) :
    representation.literal after = .ok found := by
  rcases unfolds with rfl | rfl
  · exact h
  · exact keeps h

theorem mapM_literal_of_unfolds {element : Representation} {items others : List Value}
    {labels : List Label}
    (keeps : ∀ {value found}, element.literal value = .ok found →
      element.literal value.unfolded = .ok found)
    (unfolds : List.Forall₂ Value.Unfolds items others)
    (h : (items.mapM fun item => element.literal item) = .ok labels) :
    (others.mapM fun item => element.literal item) = .ok labels := by
  induction unfolds generalizing labels with
  | nil => exact h
  | cons first _ ih =>
    rw [List.mapM_cons] at h ⊢
    obtain ⟨label, written, h⟩ := bind_eq_ok.mp h
    obtain ⟨rest, others, h⟩ := bind_eq_ok.mp h
    exact bind_eq_ok.mpr ⟨label, literal_of_unfolds keeps first written,
      bind_eq_ok.mpr ⟨rest, ih others, h⟩⟩

theorem literal_unfolded {representation : Representation} {value : Value} {found : Label}
    (h : representation.literal value = .ok found) :
    representation.literal value.unfolded = .ok found := by
  induction representation generalizing value found with
  | scalar | enumeration | text =>
    rw [Value.unfolded_of_leaf (isContainer_of_literal rfl h), h]
  | position name =>
    simp only [literal, Value.coordinate_unfolded] at h ⊢
    cases x : value.coordinate true with
    | raised cause => simp [x] at h
    | other => cases y : value.coordinate false <;> simp [x, y, reject_ne_ok] at h
    | integer => cases y : value.coordinate false <;> simp_all [reject_ne_ok]
  | slice element ih =>
    simp only [literal] at h ⊢
    rcases elements : value.elements? with _ | raised | items
    · simp [elements, reject_ne_ok] at h
    · simp [elements] at h
    · rw [elements] at h
      obtain ⟨labels, written, joined⟩ := bind_eq_ok.mp h
      obtain ⟨others, there, unfolds⟩ := Value.elements?_unfolded elements
      rw [there]
      exact bind_eq_ok.mpr ⟨labels, mapM_literal_of_unfolds ih unfolds written, joined⟩
  | pair first second ihl ihr =>
    simp only [literal] at h ⊢
    cases components : value.components? with
    | none => simp [components, reject_ne_ok] at h
    | some both =>
      obtain ⟨left, right⟩ := both
      rw [components] at h
      obtain ⟨leftLabel, writtenL, h⟩ := bind_eq_ok.mp h
      obtain ⟨leftText, spokenL, h⟩ := bind_eq_ok.mp h
      obtain ⟨rightLabel, writtenR, h⟩ := bind_eq_ok.mp h
      obtain ⟨left', right', there, unfoldsL, unfoldsR⟩ := Value.components?_unfolded components
      rw [there]
      exact bind_eq_ok.mpr ⟨leftLabel, literal_of_unfolds ihl unfoldsL writtenL,
        bind_eq_ok.mpr ⟨leftText, spokenL,
          bind_eq_ok.mpr ⟨rightLabel, literal_of_unfolds ihr unfoldsR writtenR, h⟩⟩⟩

theorem written_unfolded {representation : Representation} {value : Value} {text : String}
    (h : representation.written value = .ok text) :
    representation.written value.unfolded = .ok text := by
  obtain ⟨found, written, spoken⟩ := bind_eq_ok.mp h
  exact bind_eq_ok.mpr ⟨found, literal_unfolded written, spoken⟩

end Representation

end EnumTables
