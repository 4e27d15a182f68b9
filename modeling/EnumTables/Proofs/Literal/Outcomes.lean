import EnumTables.Proofs.Literal.Faults

/-!
# Outcomes

A value has a text as its literal or a wrong shape, unless it is a variant whose name is no text,
written alone (`HasNoText`), or an exception comes out somewhere in it (`RaisesAt`). In a tame value
both go back to one case, a variant that has no name and is written without the name of its
enumeration: alone (`isNameless`), or as an element of a slice, where it cannot be joined with the
others (`StopsAt`). `literal_outcomes` says that nothing else happens.
-/

namespace EnumTables

open Decimal Literal

namespace Representation

def isNameless : Representation → Value → Bool
  | .enumeration _ false, .member _ none _ _ none => true
  | _, _ => false

/-- A way to a slice whose elements all have literals, of which that at the place `index` is the
first that is no text. Everything before that slice on the way to it has a literal. -/
inductive StopsAt : Representation → Value → Nat → Prop
  -- elements behind the one in the way count: a wrong shape among them comes out instead
  | join {element : Representation} {value item : Value} {before after : List Value} :
      value.elements? = some (.ok (before ++ item :: after)) →
      (∀ other ∈ before ++ item :: after, ∃ found, element.literal other = .ok found) →
      (∀ earlier ∈ before, element.isNameless earlier = false) → element.isNameless item = true →
      StopsAt (.slice element) value before.length
  | element {element : Representation} {value item : Value} {before after : List Value}
      {index : Nat} : value.elements? = some (.ok (before ++ item :: after)) →
      (∀ earlier ∈ before, ∃ found, element.literal earlier = .ok found) →
      StopsAt element item index → StopsAt (.slice element) value index
  | first {first second : Representation} {value left right : Value} {index : Nat} :
      value.components? = some (left, right) → StopsAt first left index →
      StopsAt (.pair first second) value index
  | second {first second : Representation} {value left right : Value} {index : Nat} :
      value.components? = some (left, right) → (∃ found, first.literal left = .ok found) →
      StopsAt second right index → StopsAt (.pair first second) value index

/-! ## Exceptions -/

inductive Unjoined (found : Label) (index : Nat) : Raised → Prop
  | noText {typeName : String} {cause : Raised} : found.otherType = some typeName →
      LiteralError.raised cause = .unjoinable index typeName → Unjoined found index cause
  | unspoken {cause : Raised} : found.otherType = none → found.text = .error cause →
      Unjoined found index cause

/-- An exception comes out of writing a value: it fails on its own account, or one of its parts
does, or what the parts have for literals cannot be put together. -/
inductive RaisesAt : Representation → Value → Raised → Prop
  | here {representation : Representation} {value : Value} {cause : Raised} :
      FailsAt (representation, value) (.raised cause) → RaisesAt representation value cause
  | element {element : Representation} {value item : Value} {before after : List Value}
      {cause : Raised} : value.elements? = some (.ok (before ++ item :: after)) →
      (∀ earlier ∈ before, ∃ found, element.literal earlier = .ok found) →
      RaisesAt element item cause → RaisesAt (.slice element) value cause
  | join {element : Representation} {value item : Value} {before after : List Value}
      {found : Label} {cause : Raised} :
      value.elements? = some (.ok (before ++ item :: after)) →
      (∀ other ∈ before ++ item :: after, ∃ found, element.literal other = .ok found) →
      (∀ earlier ∈ before, ∃ text, element.literal earlier = .ok (label text)) →
      element.literal item = .ok found → Unjoined found before.length cause →
      RaisesAt (.slice element) value cause
  | first {first second : Representation} {value left right : Value} {cause : Raised} :
      value.components? = some (left, right) → RaisesAt first left cause →
      RaisesAt (.pair first second) value cause
  | firstText {first second : Representation} {value left right : Value} {found : Label}
      {cause : Raised} : value.components? = some (left, right) →
      first.literal left = .ok found → found.text = .error cause →
      RaisesAt (.pair first second) value cause
  | second {first second : Representation} {value left right : Value} {cause : Raised} :
      value.components? = some (left, right) → (∃ text, first.written left = .ok text) →
      RaisesAt second right cause → RaisesAt (.pair first second) value cause
  | secondText {first second : Representation} {value left right : Value} {found : Label}
      {cause : Raised} : value.components? = some (left, right) →
      (∃ text, first.written left = .ok text) → second.literal right = .ok found →
      found.text = .error cause → RaisesAt (.pair first second) value cause

inductive HasNoText : Representation → Value → Prop
  | mk {name : String} {value : Value} {found : Label} : variantLabel value = .ok (.ok found) →
      (∀ text, found ≠ label text) → HasNoText (.enumeration name false) value

theorem Unjoined.ne_label {found : Label} {index : Nat} {cause : Raised}
    (h : Unjoined found index cause) (text : String) : found ≠ label text := by
  rintro rfl
  cases h with
  | noText other => cases other
  | unspoken _ spoken => cases spoken

theorem label_or_unjoined (found : Label) (index : Nat) :
    (∃ text, found = label text) ∨ ∃ cause, Unjoined found index cause := by
  obtain ⟨spoken, otherType⟩ := found
  cases otherType with
  | some typeName => exact Or.inr ⟨_, .noText rfl rfl⟩
  | none =>
    cases spoken with
    | ok text => exact Or.inl ⟨text, rfl⟩
    | error cause => exact Or.inr ⟨cause, .unspoken rfl rfl⟩

theorem joinFrom_label (index : Nat) (text : String) (rest : List Label) :
    joinFrom index (label text :: rest) = (joinFrom (index + 1) rest).map (text :: ·) := by
  simp only [joinFrom, label]
  cases joinFrom (index + 1) rest <;> rfl

theorem joinFrom_unjoined {found : Label} {index : Nat} {cause : Raised}
    (h : Unjoined found index cause) (rest : List Label) :
    joinFrom index (found :: rest) = .error (.raised cause) := by
  cases h with
  | noText other same => simp [joinFrom, other, same]
  | unspoken isText spoken =>
    simp [joinFrom, isText, spoken, Spoken.asLiteral, Except.mapError, bind, Except.bind]

theorem joinFrom_eq_error {index : Nat} {labels : List Label} {error : LiteralError} :
    joinFrom index labels = .error error ↔ ∃ (before : List String) (found : Label)
      (after : List Label) (cause : Raised), labels = before.map label ++ found :: after ∧
        Unjoined found (index + before.length) cause ∧ error = .raised cause := by
  induction labels generalizing index with
  | nil => simp [joinFrom]
  | cons here rest ih =>
    rcases label_or_unjoined here index with ⟨text, rfl⟩ | ⟨cause, unjoined⟩
    · rw [joinFrom_label, map_eq_error, ih]
      constructor
      · rintro ⟨before, found, after, cause, rfl, unjoined, rfl⟩
        refine ⟨text :: before, found, after, cause, rfl, ?_, rfl⟩
        rwa [List.length_cons, Nat.add_comm before.length, ← Nat.add_assoc]
      · rintro ⟨before, found, after, cause, split, unjoined, rfl⟩
        cases before with
        | nil =>
          obtain ⟨rfl, -⟩ := List.cons.inj split
          exact absurd rfl (unjoined.ne_label text)
        | cons other before =>
          obtain ⟨-, rfl⟩ := List.cons.inj split
          refine ⟨before, found, after, cause, rfl, ?_, rfl⟩
          rwa [List.length_cons, Nat.add_comm before.length, ← Nat.add_assoc] at unjoined
    · rw [joinFrom_unjoined unjoined]
      constructor
      · intro failed
        exact ⟨[], here, rest, cause, rfl, unjoined, (Except.error.inj failed).symm⟩
      · rintro ⟨before, found, after, cause', split, unjoined', rfl⟩
        cases before with
        | nil =>
          obtain ⟨rfl, rfl⟩ := List.cons.inj split
          exact (joinFrom_unjoined unjoined rest).symm.trans (joinFrom_unjoined unjoined' rest)
        | cons text before =>
          obtain ⟨rfl, -⟩ := List.cons.inj split
          exact absurd rfl (unjoined.ne_label text)

theorem joinFrom_of_unjoined {element : Representation} {before after : List Value} {item : Value}
    {labels : List Label} {found : Label} {cause : Raised} (index : Nat)
    (each : List.Forall₂ (fun item found => element.literal item = .ok found)
      (before ++ item :: after) labels)
    (texts : ∀ earlier ∈ before, ∃ text, element.literal earlier = .ok (label text))
    (here : element.literal item = .ok found)
    (unjoined : Unjoined found (index + before.length) cause) :
    joinFrom index labels = .error (.raised cause) := by
  induction before generalizing index labels with
  | nil =>
    obtain ⟨same, rest, known, -, rfl⟩ := List.forall₂_cons_left_iff.mp each
    obtain rfl := Except.ok.inj (here.symm.trans known)
    exact joinFrom_unjoined unjoined rest
  | cons earlier before ih =>
    obtain ⟨same, rest, known, others, rfl⟩ := List.forall₂_cons_left_iff.mp each
    obtain ⟨⟨text, first⟩, texts⟩ := List.forall_mem_cons.mp texts
    obtain rfl := Except.ok.inj (first.symm.trans known)
    rw [List.length_cons, Nat.add_comm before.length, ← Nat.add_assoc] at unjoined
    rw [joinFrom_label, ih (index + 1) others texts unjoined]
    rfl

theorem literal_slice_eq_error {element : Representation} {value : Value} {items : List Value}
    (found : value.elements? = some (.ok items)) {error : LiteralError} :
    (slice element).literal value = .error error ↔
      items.mapM (fun item => element.literal item) = .error error ∨
        ∃ labels, items.mapM (fun item => element.literal item) = .ok labels ∧
          joinFrom 0 labels = .error error := by
  simp only [literal, found, bind_eq_error, joinElements, pure, Except.pure, reduceCtorEq,
    and_false, exists_false, or_false]

theorem mapError_raised {spoken : Spoken} {cause : Raised}
    (h : Spoken.asLiteral spoken = .error (.raised cause)) : spoken = .error cause := by
  cases spoken with
  | ok text => cases h
  | error other =>
    obtain rfl := LiteralError.raised.inj (Except.error.inj h)
    rfl

theorem raisesAt_of_slice {element : Representation} {value : Value} {cause : Raised}
    (ih : ∀ item, element.literal item = .error (.raised cause) → RaisesAt element item cause)
    (h : (slice element).literal value = .error (.raised cause)) :
    RaisesAt (.slice element) value cause := by
  rcases found : value.elements? with _ | raised | items
  · exact .here (failsAt_of_rejects (.notCollection found) h)
  · exact .here (failsAt_of_raises (.elements found) h)
  · rcases (literal_slice_eq_error found).mp h with failed | ⟨labels, taken, stopped⟩
    · obtain ⟨before, item, after, rfl, literals, failed⟩ := mapM_eq_error_iff.mp failed
      exact .element found literals (ih item failed)
    · obtain ⟨texts, joined, others, _, rfl, unjoined, same⟩ := joinFrom_eq_error.mp stopped
      obtain rfl := LiteralError.raised.inj same
      have literals := exists_mapM_eq_ok_iff.mp ⟨_, taken⟩
      obtain ⟨before, item, after, rfl, each, here⟩ := forall₂_split (mapM_eq_ok_iff.mp taken)
      have length := each.length_eq
      rw [List.length_map] at length
      rw [Nat.zero_add, ← length] at unjoined
      refine .join found literals (fun earlier inside => ?_) here unjoined
      obtain ⟨_, among, known⟩ := exists_mem_of_forall₂ each.flip inside
      obtain ⟨text, -, rfl⟩ := List.mem_map.mp among
      exact ⟨text, known⟩

theorem raisesAt_of_pair {first second : Representation} {value : Value} {cause : Raised}
    (left : ∀ part, first.literal part = .error (.raised cause) → RaisesAt first part cause)
    (right : ∀ part, second.literal part = .error (.raised cause) → RaisesAt second part cause)
    (h : (pair first second).literal value = .error (.raised cause)) :
    RaisesAt (.pair first second) value cause := by
  cases found : value.components? with
  | none => exact .here (failsAt_of_rejects (.notPair found) h)
  | some parts =>
    obtain ⟨one, other⟩ := parts
    have part {part : Representation} {value : Value} {found : Label}
        (taken : part.literal value = .ok found) :
        part.written value = Spoken.asLiteral found.text := by
      rw [written, taken]
      rfl
    simp only [literal, found] at h
    rcases bind_eq_error.mp h with failed | ⟨label, taken, h⟩
    · exact .first found (left one failed)
    · rcases bind_eq_error.mp h with unspoken | ⟨text, spoken, h⟩
      · exact .firstText found taken (mapError_raised unspoken)
      · have written := (part taken).trans spoken
        rcases bind_eq_error.mp h with failed | ⟨label', taken', h⟩
        · exact .second found ⟨text, written⟩ (right other failed)
        · rcases bind_eq_error.mp h with unspoken | ⟨_, -, h⟩
          · exact .secondText found ⟨text, written⟩ taken' (mapError_raised unspoken)
          · cases h

theorem literal_eq_raised_iff {representation : Representation} {value : Value} {cause : Raised} :
    representation.literal value = .error (.raised cause) ↔
      RaisesAt representation value cause := by
  constructor
  · intro h
    induction representation generalizing value with
    | scalar kind => exact .here (failsAt_of_scalar h)
    | enumeration name qualified => exact .here (failsAt_of_enumeration h)
    | text => exact .here (failsAt_of_text h)
    | position name => exact .here (failsAt_of_position h)
    | slice element ih => exact raisesAt_of_slice (fun _ => ih) h
    | pair first second left right => exact raisesAt_of_pair (fun _ => left) (fun _ => right) h
  · intro h
    induction h with
    | here fails => exact literal_of_failsAt fails
    | @element element value item before after cause found literals _ ih =>
      exact (literal_slice_eq_error found).mpr <|
        Or.inl (mapM_eq_error_iff.mpr ⟨before, item, after, rfl, literals, ih⟩)
    | join found literals texts here unjoined =>
      obtain ⟨labels, taken⟩ := exists_mapM_eq_ok_iff.mpr literals
      rw [← Nat.zero_add (List.length _)] at unjoined
      have stopped := joinFrom_of_unjoined 0 (mapM_eq_ok_iff.mp taken) texts here unjoined
      exact (literal_slice_eq_error found).mpr (Or.inr ⟨labels, taken, stopped⟩)
    | first found _ ih => simp [literal, found, ih, bind, Except.bind]
    | firstText found taken unspoken =>
      simp [literal, found, taken, unspoken, Spoken.asLiteral, Except.mapError, bind, Except.bind]
    | second found spoken _ ih =>
      obtain ⟨text, spoken⟩ := spoken
      obtain ⟨label, taken, spoken⟩ := bind_eq_ok.mp spoken
      simp [literal, found, taken, spoken, ih, bind, Except.bind]
    | @secondText _ _ _ _ _ _ cause found spoken taken unspoken =>
      obtain ⟨text, spoken⟩ := spoken
      obtain ⟨label, taken', spoken⟩ := bind_eq_ok.mp spoken
      have failed : Spoken.asLiteral (.error cause) = .error (.raised cause) := rfl
      simp [literal, found, taken', spoken, taken, unspoken, failed, bind, Except.bind]

/-! ## Tame values -/

theorem nameLabel_ne_label (text : String) : nameLabel none ≠ label text := by
  simp [nameLabel, label]

theorem literal_of_isNameless {representation : Representation} {value : Value}
    (h : representation.isNameless value = true) :
    representation.literal value = .ok (nameLabel none) := by
  unfold isNameless at h
  split at h
  · rfl
  · cases h

theorem exists_label_of_named {name : String} {value : Value} (tame : value.isTame = true)
    (named : (enumeration name false).isNameless value = false) {found : Label}
    (h : (enumeration name false).literal value = .ok found) : ∃ text, found = label text := by
  cases value with
  | member cls called held data looks =>
    obtain ⟨rfl, -⟩ := Value.isTame_member tame
    cases called with
    | none => cases named
    | some called => exact ⟨called, (Except.ok.inj h).symm⟩
  | text s => exact ⟨s, (Except.ok.inj h).symm⟩
  | _ =>
    simp only [literal, variantLabel, Value.asText?] at h
    exact absurd h reject_ne_ok

theorem literal_eq_ok_cases {representation : Representation} {value : Value}
    (tame : value.isTame = true) {found : Label}
    (h : representation.literal value = .ok found) :
    representation.isNameless value = true ∧ found = nameLabel none ∨
      representation.isNameless value = false ∧ ∃ text, found = label text := by
  cases nameless : representation.isNameless value with
  | true =>
    rw [literal_of_isNameless nameless] at h
    exact Or.inl ⟨rfl, (Except.ok.inj h).symm⟩
  | false =>
    refine Or.inr ⟨rfl, ?_⟩
    by_cases alone : ∃ name, representation = .enumeration name false
    · obtain ⟨name, rfl⟩ := alone
      exact exists_label_of_named tame nameless h
    · exact exists_label_of_ne (fun name same => alone ⟨name, same⟩) h

theorem isNameless_of_label {representation : Representation} {value : Value} {text : String}
    (h : representation.literal value = .ok (label text)) :
    representation.isNameless value = false := by
  refine Bool.eq_false_iff.mpr fun nameless => nameLabel_ne_label text ?_
  exact Except.ok.inj ((literal_of_isNameless nameless).symm.trans h)

theorem literal_eq_none_iff {representation : Representation} {value : Value}
    (tame : value.isTame = true) :
    representation.literal value = .ok (nameLabel none) ↔
      representation.isNameless value = true := by
  refine ⟨fun h => ?_, literal_of_isNameless⟩
  rcases literal_eq_ok_cases tame h with ⟨nameless, -⟩ | ⟨-, text, same⟩
  · exact nameless
  · exact absurd same (nameLabel_ne_label text)

theorem written_of_literal {representation : Representation} {value : Value}
    (tame : value.isTame = true) {found : Label}
    (h : representation.literal value = .ok found) : ∃ text, found.text = .ok text ∧
      representation.written value = .ok text := by
  simp only [written, h]
  rcases literal_eq_ok_cases tame h with ⟨-, rfl⟩ | ⟨-, text, rfl⟩
  · exact ⟨_, rfl, rfl⟩
  · exact ⟨text, rfl, rfl⟩

theorem raisesAt_of_stopsAt {representation : Representation} {value : Value} {index : Nat}
    (tame : value.isTame = true) (h : StopsAt representation value index) {cause : Raised}
    (same : LiteralError.raised cause = .unjoinable index "NoneType") :
    RaisesAt representation value cause := by
  induction h with
  | join found literals named nameless =>
    have parts := Value.items_isTame tame found
    refine .join found literals (fun earlier inside => ?_) (literal_of_isNameless nameless)
      (.noText rfl same)
    obtain ⟨found, taken⟩ := literals earlier (by simp [inside])
    rcases literal_eq_ok_cases (parts earlier (by simp [inside])) taken with
      ⟨unnamed, -⟩ | ⟨-, text, rfl⟩
    · simp [named earlier inside] at unnamed
    · exact ⟨text, taken⟩
  | element found literals _ ih =>
    have parts := Value.items_isTame tame found
    exact .element found literals (ih (parts _ (by simp)) same)
  | first found _ ih => exact .first found (ih (Value.components?_isTame tame found).1 same)
  | second found taken _ ih =>
    obtain ⟨tameLeft, tameRight⟩ := Value.components?_isTame tame found
    obtain ⟨label, taken⟩ := taken
    obtain ⟨text, -, written⟩ := written_of_literal tameLeft taken
    exact .second found ⟨text, written⟩ (ih tameRight same)

theorem stopsAt_of_raisesAt {representation : Representation} {value : Value} {cause : Raised}
    (tame : value.isTame = true) (h : RaisesAt representation value cause) :
    ∃ index, StopsAt representation value index ∧
      LiteralError.raised cause = .unjoinable index "NoneType" := by
  induction h with
  | here fails => exact absurd fails (not_raised_of_isTame tame)
  | element found literals _ ih =>
    obtain ⟨index, stops, same⟩ := ih (Value.items_isTame tame found _ (by simp))
    exact ⟨index, .element found literals stops, same⟩
  | join found literals texts here unjoined =>
    have named : ∀ earlier ∈ _, isNameless _ earlier = false := fun earlier inside =>
      isNameless_of_label (texts earlier inside).choose_spec
    rcases literal_eq_ok_cases (Value.items_isTame tame found _ (by simp)) here with
      ⟨nameless, rfl⟩ | ⟨-, text, rfl⟩
    · refine ⟨_, .join found literals named nameless, ?_⟩
      cases unjoined with
      | noText other same =>
        obtain rfl := Option.some.inj other
        exact same
      | unspoken isText _ => cases isText
    · exact absurd rfl (unjoined.ne_label text)
  | first found _ ih =>
    obtain ⟨index, stops, same⟩ := ih (Value.components?_isTame tame found).1
    exact ⟨index, .first found stops, same⟩
  | firstText found taken unspoken =>
    obtain ⟨text, spoken, -⟩ := written_of_literal (Value.components?_isTame tame found).1 taken
    rw [spoken] at unspoken
    cases unspoken
  | second found spoken _ ih =>
    obtain ⟨index, stops, same⟩ := ih (Value.components?_isTame tame found).2
    obtain ⟨text, written⟩ := spoken
    obtain ⟨label, taken, -⟩ := bind_eq_ok.mp written
    exact ⟨index, .second found ⟨label, taken⟩ stops, same⟩
  | secondText found _ taken unspoken =>
    obtain ⟨text, spoken, -⟩ := written_of_literal (Value.components?_isTame tame found).2 taken
    rw [spoken] at unspoken
    cases unspoken

theorem isNameless_of_isQualified {representation : Representation}
    (qualified : representation.IsQualified) (value : Value) :
    representation.isNameless value = false := by
  cases representation with
  | enumeration name isQualified =>
    obtain rfl : isQualified = true := qualified
    rfl
  | scalar | text | position | slice | pair => rfl

theorem not_stopsAt_of_isQualified {representation : Representation}
    (qualified : representation.IsQualified) {value : Value} {index : Nat} :
    ¬StopsAt representation value index := by
  intro stops
  induction stops with
  | @join element value item before after _ _ _ nameless =>
    have inner : element.IsQualified := qualified
    simp [isNameless_of_isQualified inner] at nameless
  | element _ _ _ ih => exact ih qualified
  | first _ _ ih => exact ih qualified.1
  | second _ _ _ ih => exact ih qualified.2

/-! ## Outcomes -/

theorem hasNoText_iff_literal {representation : Representation} {value : Value} :
    HasNoText representation value ↔
      ∃ found, representation.literal value = .ok found ∧ ∀ text, found ≠ label text := by
  constructor
  · rintro ⟨taken, noText⟩
    exact ⟨_, by simp [literal, taken], noText⟩
  · rintro ⟨found, written, noText⟩
    by_cases alone : ∃ name, representation = .enumeration name false
    · obtain ⟨name, rfl⟩ := alone
      simp only [literal] at written
      split at written
      · exact absurd written reject_ne_ok
      · cases written
      · next taken =>
        obtain rfl := Except.ok.inj written
        exact .mk taken noText
    · obtain ⟨text, same⟩ := exists_label_of_ne (fun name same => alone ⟨name, same⟩) written
      exact absurd same (noText text)

theorem text_or_mismatch_iff (representation : Representation) (value : Value) :
    (∃ text, representation.literal value = .ok (label text)) ∨
        (∃ cause, representation.literal value = .error (.mismatch cause)) ↔
      ¬HasNoText representation value ∧ ∀ cause, ¬RaisesAt representation value cause := by
  simp only [← literal_eq_raised_iff, hasNoText_iff_literal]
  rcases representation.literal value with (cause | cause) | found <;> simp

theorem hasNoText_iff {representation : Representation} {value : Value}
    (tame : value.isTame = true) :
    HasNoText representation value ↔ representation.isNameless value = true := by
  rw [hasNoText_iff_literal, ← literal_eq_none_iff tame]
  constructor
  · rintro ⟨found, written, noText⟩
    rcases literal_eq_ok_cases tame written with ⟨-, rfl⟩ | ⟨-, text, rfl⟩
    · exact written
    · exact absurd rfl (noText text)
  · exact fun written => ⟨_, written, nameLabel_ne_label⟩

def unnamedFlag : Value :=
  .member ⟨"Ability", "Ability", 0, true, false, [("FLY", 1), ("DIG", 2)], 3, []⟩ none (.int 0) .null
    none

end Representation

end EnumTables
