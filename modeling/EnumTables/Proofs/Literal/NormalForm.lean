import EnumTables.Proofs.Literal.Leaves

/-!
# Literals tell normal forms apart

Literals have no lengths in them, and slices, pairs, coordinates and quoted texts stand in each
other separated by commas. Still two values with one literal have one normal form
(`form_eq_of_literal_eq`): slices have the same length and elements of one form in their order of
iteration, pairs have components of one form, and leaves are equal.
-/

namespace EnumTables

open Decimal Literal Text Text.Nesting

/-- What a literal says about a value. A floating-point number is told by its literal only. -/
inductive Form where
  | truth (b : Bool)
  | integer (n : Int)
  | number (text : String)
  | text (s : String)
  | variant (name : String)
  | coordinates (x y : Int)
  | sequence (elements : List Form)
  | pair (left right : Form)

def Coordinate.integer? : Coordinate → Option Int
  | .integer (.ok text) => readNumeral? text.toList
  | .integer (.error _) | .other | .raised _ => none

theorem Coordinate.integer?_numeral (n : Int) :
    Coordinate.integer? (.integer (.ok (numeral n))) = some n := by
  rw [integer?, numeral, String.toList_ofList, readNumeral?_intDigits]

def Value.isMember : Value → Bool
  | .member .. => true
  | _ => false

theorem Value.exists_numeral_of_asCoordinate {value : Value} (plain : value.isMember = false)
    {spoken : Spoken} (h : value.asCoordinate = .integer spoken) :
    ∃ n, spoken = .ofInteger n := by
  cases value with
  | int n => exact ⟨n, (Coordinate.integer.inj h).symm⟩
  | member => cases plain
  | _ => simp [asCoordinate, asInteger?] at h

namespace Representation

def form : Representation → Value → Option Form
  | .scalar .bool, value => match value with
    | .bool b => some (.truth b)
    | _ => none
  | .scalar .int32, value => value.asInteger?.map .integer
  | .scalar .float64, value => (float64? value).map fun x => .number (floatLayout.write x)
  | .enumeration _ _, value => match variantLabel value with
    | .ok (.ok found) => found.text.toOption.map .variant
    | _ => none
  | .text, value => value.asText?.map .text
  | .position _, value => do
    let x ← (value.coordinate true).integer?
    return .coordinates x (← (value.coordinate false).integer?)
  | .slice element, value => match value.elements? with
    | some (.ok items) => do return .sequence (← items.mapM element.form)
    | _ => none
  | .pair first second, value => do
    let (left, right) ← value.components?
    let left ← first.form left
    return .pair left (← second.form right)

/-- Names of variants are words, texts have no quotes in them, and numbers, texts and coordinates
are no members of enumerations, which might show themselves by anything. -/
def IsPlainAt : Representation → Value → Prop
  | .scalar .int32, .member .. | .text, .member .. => False
  | .text, .text s => '"' ∉ s.toList
  | .enumeration _ _, value =>
      ∃ variant, variantLabel value = .ok (.ok (label variant)) ∧ IsWord variant
  | .position _, value => ∀ isX spoken, value.coordinate isX = .integer spoken →
      ∃ n, spoken = .ofInteger n
  | _, _ => True

theorem isPlainAt_position (name : String) {x y : Value} (hx : x.isMember = false)
    (hy : y.isMember = false) : IsPlainAt (.position name) (.position x y) := by
  intro isX spoken found
  cases isX with
  | false => exact Value.exists_numeral_of_asCoordinate hy found
  | true => exact Value.exists_numeral_of_asCoordinate hx found

theorem isPlainAt_record (name : String) {attributes : List (String × Value)}
    (plain : ∀ named ∈ attributes, named.2.isMember = false) :
    IsPlainAt (.position name) (.record attributes) := by
  intro isX spoken found
  rw [Value.coordinate] at found
  split at found
  · next value held =>
    obtain ⟨before, after, split, -⟩ := List.lookup_eq_some_iff.mp held
    have inside : ((if isX = true then "x" else "y"), value) ∈ attributes := by simp [split]
    exact Value.exists_numeral_of_asCoordinate (plain _ inside) found
  · cases found

theorem isEnclosed_numeral (n : Int) : IsEnclosed (numeral n).toList := by
  rw [numeral, String.toList_ofList]
  exact .of_plain ((intDigits_digitsAnd n).forall (by decide) (by decide))

theorem IsPlainAt.showsIn {leaf : Representation} {value : Value} (plain : IsPlainAt leaf value) :
    ShowsIn IsEnclosed leaf value := by
  cases leaf with
  | scalar kind =>
    cases kind with
    | bool | float64 => exact trivial
    | int32 =>
      cases value with
      | int n =>
        intro isInteger text spoken
        obtain rfl := Spoken.eq_numeral_of_ofInteger spoken
        exact isEnclosed_numeral n
      | _ => simp_all [ShowsIn, Value.asInteger?, IsPlainAt]
  | enumeration name qualified =>
    obtain ⟨variant, named, variantWord⟩ := plain
    intro found text same spoken
    rw [named] at same
    obtain rfl := Except.ok.inj (Except.ok.inj same)
    obtain rfl := Except.ok.inj spoken
    exact variantWord
  | text =>
    cases value with
    | text s =>
      intro isText text spoken
      obtain rfl := Except.ok.inj spoken
      exact .quotes plain
    | _ => simp_all [ShowsIn, Value.asText?, IsPlainAt]
  | position name =>
    intro isX text found
    obtain ⟨n, spoken⟩ := plain isX _ found
    obtain rfl := Spoken.eq_numeral_of_ofInteger spoken.symm
    exact isEnclosed_numeral n
  | slice | pair => exact trivial

/-! ## Literals of plain leaves -/

theorem written_int32 {value : Value} {text : String} (plain : IsPlainAt (.scalar .int32) value)
    (h : written (.scalar .int32) value = .ok text) : ∃ n, value = .int n ∧ text = numeral n := by
  obtain ⟨n, number, -, spoken⟩ := ofScalar_int32_eq_ok.mp (written_scalar_eq_ok.mp h)
  cases value with
  | int m => exact ⟨m, rfl, Spoken.eq_numeral_of_ofInteger spoken.symm⟩
  | _ => simp_all [Value.asInteger?, IsPlainAt]

theorem written_variant {name text : String} {value : Value}
    (plain : IsPlainAt (.enumeration name true) value)
    (h : written (.enumeration name true) value = .ok text) :
    ∃ variant, variantLabel value = .ok (.ok (label variant)) ∧
      text = name ++ "::" ++ variant := by
  obtain ⟨found, spokenVariant, same, spoken, rfl⟩ := written_enumeration_eq_ok.mp h
  obtain ⟨variant, named, -⟩ := plain
  rw [named] at same
  obtain rfl := Except.ok.inj (Except.ok.inj same)
  obtain rfl := Except.ok.inj spoken
  exact ⟨variant, named, rfl⟩

theorem written_quoted {value : Value} {text : String} (plain : IsPlainAt .text value)
    (h : written .text value = .ok text) :
    ∃ s, value = .text s ∧ text = "\"" ++ s ++ "\"" := by
  obtain ⟨inner, isText, spoken, rfl⟩ := written_text_eq_ok.mp h
  cases value with
  | text s => exact ⟨s, rfl, by rw [Except.ok.inj spoken]⟩
  | _ => simp_all [Value.asText?, IsPlainAt]

theorem written_coordinates {name text : String} {value : Value}
    (plain : IsPlainAt (.position name) value) (h : written (.position name) value = .ok text) :
    ∃ x y, value.coordinate true = .integer (.ok (numeral x)) ∧
      value.coordinate false = .integer (.ok (numeral y)) ∧
      text = coordinatesText name (numeral x) (numeral y) := by
  obtain ⟨shownX, shownY, foundX, foundY, rfl⟩ := written_position_eq_ok.mp h
  obtain ⟨x, spokenX⟩ := plain true _ foundX
  obtain ⟨y, spokenY⟩ := plain false _ foundY
  obtain rfl := Spoken.eq_numeral_of_ofInteger spokenX.symm
  obtain rfl := Spoken.eq_numeral_of_ofInteger spokenY.symm
  exact ⟨x, y, foundX, foundY, rfl⟩

theorem written_ne_empty {representation : Representation}
    (qualified : representation.IsQualified) {value : Value} {text : String}
    (plain : representation.Leaves IsPlainAt value) (h : representation.written value = .ok text) :
    text ≠ "" := by
  cases representation with
  | scalar kind =>
    have spoken := written_scalar_eq_ok.mp h
    cases kind with
    | bool =>
      obtain ⟨b, -, same⟩ := ofScalar_bool_eq_ok.mp spoken
      obtain rfl := Except.ok.inj same
      cases b <;> decide
    | int32 =>
      obtain ⟨n, -, rfl⟩ := written_int32 plain h
      exact numeral_ne_empty n
    | float64 =>
      obtain ⟨x, -, same⟩ := ofScalar_float64_eq_ok.mp spoken
      obtain rfl := Except.ok.inj same
      exact floatLayout.write_ne_empty (by decide) x
  | enumeration name isQualified =>
    obtain rfl : isQualified = true := qualified
    obtain ⟨variant, -, rfl⟩ := written_variant plain h
    simp
  | text =>
    obtain ⟨s, -, rfl⟩ := written_quoted plain h
    simp
  | position name =>
    obtain ⟨x, y, -, -, rfl⟩ := written_coordinates plain h
    simp [coordinatesText]
  | slice element =>
    have inner : element.IsQualified := qualified
    obtain ⟨items, texts, -, -, rfl⟩ := (written_slice_eq_ok inner).mp h
    simp [sliceText]
  | pair first second =>
    obtain ⟨left, right, leftText, rightText, -, -, -, rfl⟩ := written_pair_eq_ok.mp h
    simp [pairText]

theorem written_isEnclosed {representation : Representation}
    (qualified : representation.IsQualified) (named : representation.HasWordNames) {value : Value}
    {text : String} (plain : representation.Leaves IsPlainAt value)
    (h : representation.written value = .ok text) : IsEnclosed text.toList :=
  written_kept isKept_isEnclosed qualified named (plain.mono fun _ _ => IsPlainAt.showsIn) h

theorem elements_isEnclosed {element : Representation} (qualified : element.IsQualified)
    (named : element.HasWordNames) {items : List Value} {texts : List String}
    (plain : ∀ item ∈ items, element.Leaves IsPlainAt item)
    (each : List.Forall₂ (fun item text => element.written item = .ok text) items texts) :
    ∀ text ∈ texts, IsEnclosed text.toList ∧ text ≠ "" := by
  intro text inside
  obtain ⟨item, member, literal⟩ := exists_mem_of_forall₂ each inside
  exact ⟨written_isEnclosed qualified named (plain item member) literal,
    written_ne_empty qualified (plain item member) literal⟩

/-! ## Texts of parts -/

theorem sliceText_inj {lefts rights : List String}
    (hl : ∀ text ∈ lefts, IsEnclosed text.toList ∧ text ≠ "")
    (hr : ∀ text ∈ rights, IsEnclosed text.toList ∧ text ≠ "")
    (same : sliceText lefts = sliceText rights) : lefts = rights := by
  have inner := congrArg String.toList same
  rw [toList_sliceText, toList_sliceText, List.append_right_inj, List.append_left_inj,
    List.cons.injEq] at inner
  have chars := intercalate_inj (by simpa using hl) (by simpa using hr) inner.2
  exact (List.map_inj_right fun _ _ => String.toList_injective).mp chars

theorem joined_pair_inj {left right left' right' : List Char} (hl : IsEnclosed left)
    (hr : IsEnclosed right) (hl' : IsEnclosed left') (hr' : IsEnclosed right')
    (same : [',', ' '].intercalate [left, right] = [',', ' '].intercalate [left', right']) :
    left = left' ∧ right = right' := by
  have pieces := pieces?_intercalate (List.cons_ne_nil left [right]) (by simp [hl, hr])
  rw [same, pieces?_intercalate (List.cons_ne_nil _ _) (by simp [hl', hr'])] at pieces
  simpa [eq_comm] using pieces

theorem pairText_inj {left right left' right' : String} (hl : IsEnclosed left.toList)
    (hr : IsEnclosed right.toList) (hl' : IsEnclosed left'.toList) (hr' : IsEnclosed right'.toList)
    (same : pairText left right = pairText left' right') : left = left' ∧ right = right' := by
  have inner := congrArg String.toList same
  rw [toList_pairText, toList_pairText, List.append_left_inj, List.cons.injEq] at inner
  have chars := joined_pair_inj hl hr hl' hr' inner.2
  exact ⟨String.toList_injective chars.1, String.toList_injective chars.2⟩

theorem coordinatesText_inj {name x y x' y' : String} (hx : IsEnclosed x.toList)
    (hy : IsEnclosed y.toList) (hx' : IsEnclosed x'.toList) (hy' : IsEnclosed y'.toList)
    (same : coordinatesText name x y = coordinatesText name x' y') : x = x' ∧ y = y' := by
  have front {text : String} (h : IsEnclosed text.toList) :
      IsEnclosed (" x: ".toList ++ text.toList) :=
    IsEnclosed.append (by decide) h
  have back {text : String} (h : IsEnclosed text.toList) :
      IsEnclosed ("y: ".toList ++ text.toList ++ [' ']) :=
    (IsEnclosed.append (by decide) h).append (by decide)
  have inner := congrArg String.toList same
  rw [toList_coordinatesText, toList_coordinatesText, List.append_right_inj, List.append_left_inj,
    List.cons.injEq] at inner
  have chars := joined_pair_inj (front hx) (back hy) (front hx') (back hy') inner.2
  rw [List.append_right_inj, List.append_left_inj, List.append_right_inj] at chars
  exact ⟨String.toList_injective chars.1, String.toList_injective chars.2⟩

/-! ## Normal forms of values with one literal -/

theorem mapM_form {element : Representation} {texts : List String} {items items' : List Value}
    (each : List.Forall₂ (fun item text => element.written item = .ok text) items texts)
    (each' : List.Forall₂ (fun item text => element.written item = .ok text) items' texts)
    (same : ∀ item ∈ items, ∀ item' ∈ items', ∀ text, element.written item = .ok text →
      element.written item' = .ok text →
      ∃ form, element.form item = some form ∧ element.form item' = some form) :
    ∃ forms, items.mapM element.form = some forms ∧ items'.mapM element.form = some forms := by
  induction each generalizing items' with
  | nil =>
    cases each'
    exact ⟨[], rfl, rfl⟩
  | cons first rest ih =>
    cases each' with
    | cons first' rest' =>
      obtain ⟨form, found, found'⟩ :=
        same _ List.mem_cons_self _ List.mem_cons_self _ first first'
      obtain ⟨forms, others, others'⟩ := ih rest' fun item h item' h' =>
        same item (List.mem_cons_of_mem _ h) item' (List.mem_cons_of_mem _ h')
      exact ⟨form :: forms, by simp [found, others], by simp [found', others']⟩

theorem scalar_form_eq {kind : Scalar} {v w : Value} {text : String}
    (plainV : IsPlainAt (.scalar kind) v) (plainW : IsPlainAt (.scalar kind) w)
    (hv : written (.scalar kind) v = .ok text) (hw : written (.scalar kind) w = .ok text) :
    ∃ found, form (.scalar kind) v = some found ∧ form (.scalar kind) w = some found := by
  cases kind with
  | bool =>
    obtain ⟨b, rfl, spoken⟩ := ofScalar_bool_eq_ok.mp (written_scalar_eq_ok.mp hv)
    obtain ⟨b', rfl, spoken'⟩ := ofScalar_bool_eq_ok.mp (written_scalar_eq_ok.mp hw)
    obtain rfl : b = b' := by
      have same := Except.ok.inj (spoken.symm.trans spoken')
      cases b <;> cases b' <;> simp_all
    exact ⟨.truth b, rfl, rfl⟩
  | int32 =>
    obtain ⟨n, rfl, rfl⟩ := written_int32 plainV hv
    obtain ⟨n', rfl, same⟩ := written_int32 plainW hw
    obtain rfl := numeral_injective same
    exact ⟨.integer n, rfl, rfl⟩
  | float64 =>
    obtain ⟨x, number, spoken⟩ := ofScalar_float64_eq_ok.mp (written_scalar_eq_ok.mp hv)
    obtain ⟨x', number', spoken'⟩ := ofScalar_float64_eq_ok.mp (written_scalar_eq_ok.mp hw)
    have same := Except.ok.inj (spoken.symm.trans spoken')
    exact ⟨.number (floatLayout.write x), by simp [form, number], by simp [form, number', same]⟩

theorem position_form_eq {name text : String} {v w : Value}
    (plainV : IsPlainAt (.position name) v) (plainW : IsPlainAt (.position name) w)
    (hv : written (.position name) v = .ok text) (hw : written (.position name) w = .ok text) :
    ∃ found, form (.position name) v = some found ∧ form (.position name) w = some found := by
  obtain ⟨x, y, foundX, foundY, rfl⟩ := written_coordinates plainV hv
  obtain ⟨x', y', foundX', foundY', same⟩ := written_coordinates plainW hw
  obtain ⟨sameX, sameY⟩ := coordinatesText_inj (isEnclosed_numeral x) (isEnclosed_numeral y)
    (isEnclosed_numeral x') (isEnclosed_numeral y') same
  obtain rfl := numeral_injective sameX
  obtain rfl := numeral_injective sameY
  exact ⟨.coordinates x y, by simp [form, foundX, foundY, Coordinate.integer?_numeral],
    by simp [form, foundX', foundY', Coordinate.integer?_numeral]⟩

theorem form_eq_of_written_eq {representation : Representation}
    (qualified : representation.IsQualified) (named : representation.HasWordNames) {v w : Value}
    {text : String} (plainV : representation.Leaves IsPlainAt v)
    (plainW : representation.Leaves IsPlainAt w) (hv : representation.written v = .ok text)
    (hw : representation.written w = .ok text) :
    ∃ form, representation.form v = some form ∧ representation.form w = some form := by
  induction representation generalizing v w text with
  | scalar kind => exact scalar_form_eq plainV plainW hv hw
  | enumeration name isQualified =>
    obtain rfl : isQualified = true := qualified
    obtain ⟨variant, found, rfl⟩ := written_variant plainV hv
    obtain ⟨variant', found', same⟩ := written_variant plainW hw
    obtain rfl := (String.append_right_inj _).mp same
    exact ⟨.variant variant, by simp [form, found, label, Except.toOption],
      by simp [form, found', label, Except.toOption]⟩
  | text =>
    obtain ⟨s, rfl, rfl⟩ := written_quoted plainV hv
    obtain ⟨s', rfl, same⟩ := written_quoted plainW hw
    obtain rfl : s = s' := by simpa using same
    exact ⟨.text s, rfl, rfl⟩
  | position name => exact position_form_eq plainV plainW hv hw
  | slice element ih =>
    have inner : element.IsQualified := qualified
    obtain ⟨items, texts, found, each, rfl⟩ := (written_slice_eq_ok inner).mp hv
    obtain ⟨items', texts', found', each', same⟩ := (written_slice_eq_ok inner).mp hw
    -- the elements are cut apart at the same commas, so their texts agree one by one
    obtain rfl := sliceText_inj (elements_isEnclosed inner named (plainV items found) each)
      (elements_isEnclosed inner named (plainW items' found') each') same
    obtain ⟨forms, formed, formed'⟩ := mapM_form each each' fun item h item' h' _ lit lit' =>
      ih inner named (plainV items found item h) (plainW items' found' item' h') lit lit'
    exact ⟨.sequence forms, by simp [form, found, formed], by simp [form, found', formed']⟩
  | pair first second ihl ihr =>
    obtain ⟨l, r, lText, rText, found, hl, hr, rfl⟩ := written_pair_eq_ok.mp hv
    obtain ⟨l', r', lText', rText', found', hl', hr', same⟩ := written_pair_eq_ok.mp hw
    obtain ⟨leavesL, leavesR⟩ := plainV l r found
    obtain ⟨leavesL', leavesR'⟩ := plainW l' r' found'
    -- the one comma outside of brackets and quotes separates the components
    obtain ⟨rfl, rfl⟩ := pairText_inj (written_isEnclosed qualified.1 named.1 leavesL hl)
      (written_isEnclosed qualified.2 named.2 leavesR hr)
      (written_isEnclosed qualified.1 named.1 leavesL' hl')
      (written_isEnclosed qualified.2 named.2 leavesR' hr') same
    obtain ⟨left, formedL, formedL'⟩ := ihl qualified.1 named.1 leavesL leavesL' hl hl'
    obtain ⟨right, formedR, formedR'⟩ := ihr qualified.2 named.2 leavesR leavesR' hr hr'
    exact ⟨.pair left right, by simp [form, found, formedL, formedR],
      by simp [form, found', formedL', formedR']⟩

/-- Two values with one literal have one normal form. -/
theorem form_eq_of_literal_eq {representation : Representation}
    (qualified : representation.IsQualified) (named : representation.HasWordNames) {v w : Value}
    {found : Label} (plainV : representation.Leaves IsPlainAt v)
    (plainW : representation.Leaves IsPlainAt w) (hv : representation.literal v = .ok found)
    (hw : representation.literal w = .ok found) :
    ∃ form, representation.form v = some form ∧ representation.form w = some form := by
  obtain ⟨text, rfl⟩ := exists_label qualified hv
  have writtenV : representation.written v = .ok text := by
    rw [written, hv]
    rfl
  have writtenW : representation.written w = .ok text := by
    rw [written, hw]
    rfl
  exact form_eq_of_written_eq qualified named plainV plainW writtenV writtenW

theorem form_eq_of_literal_eq_entries :
    literal (.slice (.pair .text (.position "Tile")))
        (.dict [(.text "], (", .position (.int 3) (.int (-4)))]) =
      .ok (label (sliceText [pairText "\"], (\""
        (coordinatesText "Tile" (numeral 3) (numeral (-4)))])) ∧
    literal (.slice (.pair .text (.position "Tile")))
        (.list [.tuple [.text "], (", .record [("y", .int (-4)), ("x", .int 3)]]]) =
      .ok (label (sliceText [pairText "\"], (\""
        (coordinatesText "Tile" (numeral 3) (numeral (-4)))])) ∧
    ∃ found, form (.slice (.pair .text (.position "Tile")))
        (.dict [(.text "], (", .position (.int 3) (.int (-4)))]) = some found ∧
      form (.slice (.pair .text (.position "Tile")))
        (.list [.tuple [.text "], (", .record [("y", .int (-4)), ("x", .int 3)]]]) =
        some found := by
  have qualified : IsQualified (.slice (.pair .text (.position "Tile"))) := ⟨trivial, trivial⟩
  have unquoted : '"' ∉ "], (".toList := by decide
  have word : IsWord "Tile" := by decide
  have named : HasWordNames (.slice (.pair .text (.position "Tile"))) := ⟨trivial, word⟩
  have x : Spoken.ofInteger 3 = .ok (numeral 3) := ofInteger_int32 (by decide)
  have y : Spoken.ofInteger (-4) = .ok (numeral (-4)) := ofInteger_int32 (by decide)
  have entry {tile : Value} (atX : tile.coordinate true = .integer (.ofInteger 3))
      (atY : tile.coordinate false = .integer (.ofInteger (-4))) :
      literal (.slice (.pair .text (.position "Tile"))) (.list [.tuple [.text "], (", tile]]) =
        .ok (label (sliceText [pairText "\"], (\""
          (coordinatesText "Tile" (numeral 3) (numeral (-4)))])) := by
    have written_tile : written (.position "Tile") tile =
        .ok (coordinatesText "Tile" (numeral 3) (numeral (-4))) :=
      written_position_eq_ok.mpr ⟨_, _, atX.trans (congrArg _ x), atY.trans (congrArg _ y), rfl⟩
    have written_pair : written (.pair .text (.position "Tile")) (.tuple [.text "], (", tile]) =
        .ok (pairText "\"], (\"" (coordinatesText "Tile" (numeral 3) (numeral (-4)))) :=
      written_pair_eq_ok.mpr ⟨_, _, _, _, rfl, rfl, written_tile, rfl⟩
    have inner : IsQualified (.pair .text (.position "Tile")) := qualified
    exact (written_eq_ok qualified).mp <| (written_slice_eq_ok inner).mpr
      ⟨_, _, rfl, .cons written_pair .nil, rfl⟩
  have mapped : literal (.slice (.pair .text (.position "Tile")))
      (.dict [(.text "], (", .position (.int 3) (.int (-4)))]) =
      .ok (label (sliceText [pairText "\"], (\""
        (coordinatesText "Tile" (numeral 3) (numeral (-4)))])) := entry rfl rfl
  have listed : literal (.slice (.pair .text (.position "Tile")))
      (.list [.tuple [.text "], (", .record [("y", .int (-4)), ("x", .int 3)]]]) =
      .ok (label (sliceText [pairText "\"], (\""
        (coordinatesText "Tile" (numeral 3) (numeral (-4)))])) := entry rfl rfl
  refine ⟨mapped, listed, form_eq_of_literal_eq qualified named ?_ ?_ mapped listed⟩
  · rintro _ ⟨⟩ item inside left right found
    obtain rfl := List.mem_singleton.mp inside
    obtain ⟨rfl, rfl⟩ := Prod.mk.inj (Option.some.inj found)
    exact ⟨unquoted, isPlainAt_position "Tile" rfl rfl⟩
  · rintro _ ⟨⟩ item inside left right found
    obtain rfl := List.mem_singleton.mp inside
    obtain ⟨rfl, rfl⟩ := Prod.mk.inj (Option.some.inj found)
    exact ⟨unquoted, isPlainAt_record "Tile" (by decide)⟩

end Representation

end EnumTables
