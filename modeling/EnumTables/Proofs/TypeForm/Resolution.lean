import EnumTables.ClassObject
import EnumTables.Proofs.Representation.Resolution
import EnumTables.TypeForm.Description

/-!
# Which type forms have a representation

The type forms that can be represented are a language of their own (`Mirrors`): primitive types,
enumerations and positions, and the standard containers with the right number of such forms inside.
A form is described and resolved to a representation iff it mirrors it, and otherwise the first form
that is reached through recognised containers and is not of the language is reported by its
description, unless something in the form has no name and cannot be displayed
(`resolve_describe`).
-/

namespace EnumTables

def Primitive.className : Primitive → String
  | .float => "float"
  | .int => "int"
  | .bool => "bool"
  | .text => "str"

namespace ClassForm

/-- The class is exactly the one of a primitive type, and not one that extends it. -/
def IsPrimitive (form : ClassForm) (kind : Primitive) : Prop :=
  form.name.module = "builtins" ∧ form.name.path = kind.className

def IsSequence (form : ClassForm) : Prop :=
  form.name = .builtin "list" ∨ form.name = .collection "Sequence"

def IsTuple (form : ClassForm) : Prop :=
  form.name = .builtin "tuple"

def IsMapping (form : ClassForm) : Prop :=
  form.name = .builtin "dict" ∨ form.name = .collection "Mapping"

instance (form : ClassForm) : DecidablePred form.IsPrimitive := fun _ => instDecidableAnd

instance : DecidablePred IsSequence := fun _ => instDecidableOr

instance : DecidablePred IsTuple := fun form => decEq form.name _

instance : DecidablePred IsMapping := fun _ => instDecidableOr

theorem primitive?_eq_some {form : ClassForm} {kind : Primitive} :
    form.primitive? = some kind ↔ form.IsPrimitive kind := by
  unfold primitive? IsPrimitive
  by_cases builtin : form.name.module = "builtins"
  · rw [if_pos builtin]
    split <;> cases kind <;> simp_all [Primitive.className]
  · simp [builtin]

theorem primitive?_eq_none {form : ClassForm} :
    form.primitive? = none ↔ ∀ kind, ¬form.IsPrimitive kind := by
  rw [Option.eq_none_iff_forall_ne_some]
  exact forall_congr' fun kind => not_congr primitive?_eq_some

theorem IsMapping.not_isTuple {form : ClassForm} (h : form.IsMapping) : ¬form.IsTuple := by
  rcases h with dict | mapping
  · simp [IsTuple, dict, ClassName.builtin, ClassName.standard]
  · simp [IsTuple, mapping, ClassName.builtin, ClassName.collection, ClassName.standard]

end ClassForm

namespace TypeForm

/-- The form is built from classes that stand for types by recognised containers, and the
representation has the same parts in the same places. -/
inductive Mirrors : TypeForm → Representation → Prop
  | primitive {form : ClassForm} {kind : Primitive} (exactly : form.IsPrimitive kind) :
      Mirrors (.cls form) kind.representation
  /-- An enumeration is one whatever else its class is. -/
  | enumeration {form : ClassForm} (other : ∀ kind, ¬form.IsPrimitive kind)
      (members : form.kind ≠ .ordinary) :
      Mirrors (.cls form) (.enumeration form.name.name true)
  | position {form : ClassForm} (other : ∀ kind, ¬form.IsPrimitive kind)
      (ordinary : form.kind = .ordinary) (marked : form.isPosition = true) :
      Mirrors (.cls form) (.position form.name.name)
  | sequence {spelling : Spelling} {origin : ClassForm} {element : TypeForm}
      {inner : Representation} (container : origin.IsSequence) (inside : Mirrors element inner) :
      Mirrors (.applied spelling (.cls origin) [element]) (.slice inner)
  | repeated {spelling : Spelling} {origin : ClassForm} {element : TypeForm}
      {inner : Representation} (container : origin.IsTuple) (inside : Mirrors element inner) :
      Mirrors (.applied spelling (.cls origin) [element, .ellipsis]) (.slice inner)
  | pair {spelling : Spelling} {origin : ClassForm} {first second : TypeForm}
      {one other : Representation} (container : origin.IsTuple) (left : Mirrors first one)
      (right : Mirrors second other) :
      Mirrors (.applied spelling (.cls origin) [first, second]) (.pair one other)
  | mapping {spelling : Spelling} {origin : ClassForm} {key value : TypeForm}
      {one other : Representation} (container : origin.IsMapping) (left : Mirrors key one)
      (right : Mirrors value other) :
      Mirrors (.applied spelling (.cls origin) [key, value]) (.slice (.pair one other))

def isRecognised : TypeForm → Bool
  | .cls form =>
    Primitive.all.any (fun kind => form.IsPrimitive kind) || form.kind != .ordinary ||
      form.isPosition
  | .applied _ (.cls origin) [_] => origin.IsSequence
  | .applied _ (.cls origin) [_, _] => origin.IsTuple || origin.IsMapping
  | _ => false

/-- A form and those that are reached from it through recognised containers: each in front of its
parts, and parts from left to right. The ellipsis at the end of a tuple is no part. -/
def reached : TypeForm → List TypeForm
  | .applied spelling (.cls origin) [element] =>
    .applied spelling (.cls origin) [element] ::
      (if origin.IsSequence then reached element else [])
  | .applied spelling (.cls origin) [first, second] =>
    .applied spelling (.cls origin) [first, second] ::
      (if origin.IsTuple ∧ second.isEllipsis then reached first
      else if origin.IsTuple ∨ origin.IsMapping then reached first ++ reached second
      else [])
  | form => [form]

/-! ## Descriptions of applications -/

theorem describeAll_eq_ok {forms : List TypeForm} {parameters : List (Bool × Descriptor)} :
    describeAll forms = .ok parameters ↔
      List.Forall₂ (fun form parameter => form.isEllipsis = parameter.1 ∧
        form.describe = .ok parameter.2) forms parameters := by
  induction forms generalizing parameters with
  | nil => simp [describeAll, eq_comm]
  | cons form rest ih =>
    simp only [describeAll, bind_eq_ok, ih, pure, Except.pure, Except.ok.injEq,
      List.forall₂_cons_left_iff]
    constructor
    · rintro ⟨descriptor, described, others, each, rfl⟩
      exact ⟨(form.isEllipsis, descriptor), others, ⟨rfl, described⟩, each, rfl⟩
    · rintro ⟨⟨_, descriptor⟩, others, ⟨rfl, described⟩, each, rfl⟩
      exact ⟨descriptor, described, others, each, rfl⟩

section Application

variable {spelling : Spelling} {descriptor : Descriptor}

theorem describe_applied {origin : Origin} {arguments : List TypeForm} :
    describe (.applied spelling origin arguments) = .ok descriptor ↔
      ∃ parameters, List.Forall₂ (fun form parameter => form.isEllipsis = parameter.1 ∧
        form.describe = .ok parameter.2) arguments parameters ∧
        describeApplied origin parameters = descriptor := by
  simp only [describe, bind_eq_ok, describeAll_eq_ok, pure, Except.pure, Except.ok.injEq]

variable {origin : ClassForm}

theorem isList_iff : (Origin.cls origin).isList = true ↔ origin.IsSequence := by
  simp [Origin.isList, ClassForm.IsSequence]

theorem isTuple_iff : (Origin.cls origin).isTuple = true ↔ origin.IsTuple := by
  simp [Origin.isTuple, ClassForm.IsTuple]

theorem isMapping_iff : (Origin.cls origin).isMapping = true ↔ origin.IsMapping := by
  simp [Origin.isMapping, ClassForm.IsMapping]

theorem describe_single {element : TypeForm} :
    describe (.applied spelling (.cls origin) [element]) = .ok descriptor ↔
      ∃ inner, element.describe = .ok inner ∧
        describeApplied (.cls origin) [(element.isEllipsis, inner)] = descriptor := by
  simp only [describe, describeAll, bind_eq_ok, pure, Except.pure, Except.ok.injEq]
  constructor
  · rintro ⟨_, ⟨inner, described, _, rfl, rfl⟩, rfl⟩
    exact ⟨inner, described, rfl⟩
  · rintro ⟨inner, described, rfl⟩
    exact ⟨_, ⟨inner, described, _, rfl, rfl⟩, rfl⟩

theorem describe_double {first second : TypeForm} :
    describe (.applied spelling (.cls origin) [first, second]) = .ok descriptor ↔
      ∃ left right, first.describe = .ok left ∧ second.describe = .ok right ∧
        describeApplied (.cls origin) [(first.isEllipsis, left), (second.isEllipsis, right)] =
          descriptor := by
  simp only [describe, describeAll, bind_eq_ok, pure, Except.pure, Except.ok.injEq]
  constructor
  · rintro ⟨_, ⟨left, ofFirst, _, ⟨right, ofSecond, _, rfl, rfl⟩, rfl⟩, rfl⟩
    exact ⟨left, right, ofFirst, ofSecond, rfl⟩
  · rintro ⟨left, right, ofFirst, ofSecond, rfl⟩
    exact ⟨_, ⟨left, ofFirst, _, ⟨right, ofSecond, _, rfl, rfl⟩, rfl⟩, rfl⟩

theorem describe_sequence {element : TypeForm} (container : origin.IsSequence) :
    describe (.applied spelling (.cls origin) [element]) = .ok descriptor ↔
      ∃ inner, element.describe = .ok inner ∧ .list inner = descriptor := by
  simp [describe_single, describeApplied, isList_iff.mpr container]

theorem describe_repeated {first second : TypeForm} (container : origin.IsTuple)
    (ends : second.isEllipsis = true) :
    describe (.applied spelling (.cls origin) [first, second]) = .ok descriptor ↔
      ∃ inner, first.describe = .ok inner ∧ .list inner = descriptor := by
  obtain rfl : second = .ellipsis := by
    cases second <;> first | rfl | cases ends
  have shown : describe .ellipsis = .ok (.unclassified "Ellipsis") := rfl
  simp [describe_double, describeApplied, isTuple_iff.mpr container, shown, ends]

theorem describe_pair {first second : TypeForm} (container : origin.IsTuple)
    (other : second.isEllipsis = false) :
    describe (.applied spelling (.cls origin) [first, second]) = .ok descriptor ↔
      ∃ left right, first.describe = .ok left ∧ second.describe = .ok right ∧
        .pair left right = descriptor := by
  simp [describe_double, describeApplied, isTuple_iff.mpr container, other]

theorem describe_mapping {key value : TypeForm} (container : origin.IsMapping) :
    describe (.applied spelling (.cls origin) [key, value]) = .ok descriptor ↔
      ∃ left right, key.describe = .ok left ∧ value.describe = .ok right ∧
        .map left right = descriptor := by
  have noTuple : (Origin.cls origin).isTuple = false := by
    rw [← Bool.not_eq_true, isTuple_iff]
    exact container.not_isTuple
  simp [describe_double, describeApplied, noTuple, isMapping_iff.mpr container]

end Application

theorem isUnsupported_of_display {spoken : Spoken} {descriptor : Descriptor}
    (h : Descriptor.unclassified <$> spoken = .ok descriptor) :
    descriptor.isUnsupported = true := by
  cases spoken with
  | error cause => cases h
  | ok text =>
    obtain rfl := Except.ok.inj h
    rfl

theorem isUnsupported_of_applied {origin : Origin} {parameters : List (Bool × Descriptor)}
    (single : parameters.length = 1 → origin.isList = false)
    (double : parameters.length = 2 → origin.isTuple = false ∧ origin.isMapping = false) :
    (describeApplied origin parameters).isUnsupported = true := by
  match parameters with
  | [] | _ :: _ :: _ :: _ => rfl
  | [_] =>
    rw [describeApplied, single rfl]
    rfl
  | [_, _] =>
    rw [describeApplied, (double rfl).1, (double rfl).2]
    rfl

theorem describe_isUnsupported {form : TypeForm} {descriptor : Descriptor}
    (unknown : form.isRecognised = false) (h : form.describe = .ok descriptor) :
    descriptor.isUnsupported = true := by
  cases form with
  | cls form =>
    obtain rfl := Except.ok.inj h
    simp only [isRecognised, Bool.or_eq_false_iff, bne_eq_false_iff_eq] at unknown
    obtain ⟨⟨noPrimitive, ordinary⟩, unmarked⟩ := unknown
    have primitive : form.primitive? = Option.none := by
      rw [ClassForm.primitive?_eq_none]
      intro kind isPrimitive
      have found : Primitive.all.any (fun kind => form.IsPrimitive kind) = true :=
        List.any_eq_true.mpr ⟨kind, by cases kind <;> decide, decide_eq_true isPrimitive⟩
      rw [noPrimitive] at found
      cases found
    simp [ClassForm.descriptor, primitive, ordinary, unmarked, Descriptor.isUnsupported]
  | applied spelling origin arguments =>
    obtain ⟨parameters, each, rfl⟩ := describe_applied.mp h
    refine isUnsupported_of_applied (fun one => ?_) fun two => ?_
    · obtain ⟨argument, rfl⟩ := List.length_eq_one_iff.mp (each.length_eq.trans one)
      cases origin with
      | cls form => exact Bool.eq_false_iff.mpr (isList_iff.not.mpr (of_decide_eq_false unknown))
      | _ => rfl
    · obtain ⟨first, second, rfl⟩ := List.length_eq_two.mp (each.length_eq.trans two)
      cases origin with
      | cls form =>
        simp only [isRecognised, Bool.or_eq_false_iff, decide_eq_false_iff_not] at unknown
        exact ⟨Bool.eq_false_iff.mpr (isTuple_iff.not.mpr unknown.1),
          Bool.eq_false_iff.mpr (isMapping_iff.not.mpr unknown.2)⟩
      | _ => exact ⟨rfl, rfl⟩
  | named name display typeName =>
    rw [describe] at h
    split at h
    · exact isUnsupported_of_display h
    · obtain rfl := Except.ok.inj h
      rfl
  | ellipsis | object | quoted | forward | items | group => exact isUnsupported_of_display h
  | «alias» | special | none =>
    obtain rfl := Except.ok.inj h
    rfl

/-! ## Forms that cannot be described -/

mutual

def leaves : TypeForm → List TypeForm
  | .applied _ _ arguments => leavesOfAll arguments
  | form => [form]

def leavesOfAll : List TypeForm → List TypeForm
  | [] => []
  | form :: rest => leaves form ++ leavesOfAll rest

end

def isNameless : TypeForm → Bool
  | .ellipsis | .object _ | .quoted _ | .forward _ | .items _ | .group _ => true
  | .named _ _ typeName => typeName = "set" || typeName = "dict"
  | _ => false

def unspoken? (form : TypeForm) : Option Raised :=
  match form.display with
  | .ok _ => Option.none
  | .error cause => if form.isNameless then some cause else Option.none

theorem display_reports {form : TypeForm} (nameless : form.isNameless = true)
    (described : form.describe = Descriptor.unclassified <$> form.display) :
    Reports form.describe ([form].filterMap unspoken?) := by
  rw [described]
  cases spoken : form.display <;> simp [unspoken?, spoken, nameless, Reports]

theorem name_reports {form : TypeForm} (named : form.isNameless = false) {descriptor : Descriptor}
    (described : form.describe = .ok descriptor) :
    Reports form.describe ([form].filterMap unspoken?) := by
  rw [described]
  cases spoken : form.display <;> simp [unspoken?, spoken, named, Reports]

mutual

theorem describe_reports : ∀ form : TypeForm,
    Reports form.describe (form.leaves.filterMap unspoken?)
  | .applied _ _ arguments => (describeAll_reports arguments).map _
  | .named name display typeName => by
    by_cases nameless : isNameless (.named name display typeName) = true
    · have described : describe (.named name display typeName) = .unclassified <$> display :=
        if_pos nameless
      refine display_reports nameless (described.trans ?_)
      cases display <;> rfl
    · exact name_reports (Bool.eq_false_of_not_eq_true nameless) (if_neg nameless)
  | .ellipsis | .object _ | .quoted _ | .forward _ | .items _ | .group _ => display_reports rfl rfl
  | .cls _ | .alias _ _ _ | .special _ | .none => name_reports rfl rfl

theorem describeAll_reports : ∀ forms : List TypeForm,
    Reports (describeAll forms) ((leavesOfAll forms).filterMap unspoken?)
  | [] => rfl
  | form :: rest => by
    rw [describeAll, leavesOfAll, List.filterMap_append]
    exact (describe_reports form).bind fun _ _ => (describeAll_reports rest).map _

end

/-! ## Forms that are not of the language -/

theorem isRecognised_of_supported {form : TypeForm} {descriptor : Descriptor}
    (described : form.describe = .ok descriptor) (supported : descriptor.isUnsupported = false) :
    form.isRecognised = true := by
  by_contra unknown
  have unsupported := describe_isUnsupported (Bool.eq_false_of_not_eq_true unknown) described
  rw [supported] at unsupported
  cases unsupported

/-- The form and the descriptor of it contain the same parts that are not of the language. -/
def SameOffences (form : TypeForm) (descriptor : Descriptor) : Prop :=
  List.Forall₂ (fun part offence => part.describe = .ok offence)
    (form.reached.filter fun part => !part.isRecognised)
    (descriptor.reached.filter Descriptor.isUnsupported)

theorem sameOffences_self {form : TypeForm} {descriptor : Descriptor}
    (alone : form.reached = [form]) (whole : descriptor.reached = [descriptor])
    (described : form.describe = .ok descriptor)
    (agree : descriptor.isUnsupported = !form.isRecognised) : SameOffences form descriptor := by
  rw [SameOffences, alone, whole]
  cases known : form.isRecognised <;> simp_all

theorem reached_of_unsupported {descriptor : Descriptor} (h : descriptor.isUnsupported = true) :
    descriptor.reached = [descriptor] := by
  cases descriptor <;> first | rfl | cases h

theorem sameOffences_of_unknown {form : TypeForm} {descriptor : Descriptor}
    (alone : form.reached = [form]) (unknown : form.isRecognised = false)
    (described : form.describe = .ok descriptor) : SameOffences form descriptor := by
  have unsupported := describe_isUnsupported unknown described
  exact sameOffences_self alone (reached_of_unsupported unsupported) described
    (by rw [unsupported, unknown]; rfl)

theorem sameOffences_cls (form : ClassForm) : SameOffences (.cls form) form.descriptor := by
  have described : describe (.cls form) = .ok form.descriptor := rfl
  cases known : isRecognised (.cls form) with
  | false => exact sameOffences_of_unknown rfl known described
  | true =>
    simp only [isRecognised, Bool.or_eq_true, bne_iff_ne] at known
    have noPart : ∀ descriptor, form.descriptor = descriptor → descriptor.isUnsupported = false →
        descriptor.reached = [descriptor] → SameOffences (.cls form) form.descriptor := by
      rintro _ rfl supported whole
      exact sameOffences_self rfl whole described
        (by rw [supported, isRecognised_of_supported described supported]; rfl)
    cases primitive : form.primitive? with
    | some kind => exact noPart (.primitive kind) (by simp [ClassForm.descriptor, primitive]) rfl rfl
    | none =>
      have noPrimitive : ¬Primitive.all.any (fun kind => form.IsPrimitive kind) = true := by
        intro found
        obtain ⟨kind, -, isPrimitive⟩ := List.any_eq_true.mp found
        exact ClassForm.primitive?_eq_none.mp primitive kind (of_decide_eq_true isPrimitive)
      cases members : form.kind with
      | enumeration | flags =>
        exact noPart (.enumeration form.name.name)
          (by simp [ClassForm.descriptor, primitive, members]) rfl rfl
      | ordinary =>
        have marked : form.isPosition = true := by simpa [noPrimitive, members] using known
        exact noPart (.position form.name.name)
          (by simp [ClassForm.descriptor, primitive, members, marked]) rfl rfl

theorem sameOffences_of_describe {form : TypeForm} {descriptor : Descriptor}
    (described : form.describe = .ok descriptor) : SameOffences form descriptor := by
  induction form using reached.induct generalizing descriptor with
  | case1 spelling origin element ih =>
    by_cases container : origin.IsSequence
    · obtain ⟨inner, inside, rfl⟩ := (describe_sequence container).mp described
      simpa [SameOffences, reached, Descriptor.reached, container, isRecognised,
        Descriptor.isUnsupported] using ih inside
    · exact sameOffences_of_unknown (by rw [reached, if_neg container])
        (by simp [isRecognised, container]) described
  | case2 spelling origin first second left right =>
    by_cases tuple : origin.IsTuple
    · cases ends : second.isEllipsis with
      | true =>
        obtain ⟨inner, inside, rfl⟩ := (describe_repeated tuple ends).mp described
        simpa [SameOffences, reached, Descriptor.reached, tuple, ends, isRecognised,
          Descriptor.isUnsupported] using left inside
      | false =>
        obtain ⟨one, other, ofFirst, ofSecond, rfl⟩ := (describe_pair tuple ends).mp described
        simpa [SameOffences, reached, Descriptor.reached, tuple, ends, isRecognised,
          Descriptor.isUnsupported] using List.rel_append (left ofFirst) (right ofSecond)
    · by_cases mapping : origin.IsMapping
      · obtain ⟨one, other, ofKey, ofValue, rfl⟩ := (describe_mapping mapping).mp described
        simpa [SameOffences, reached, Descriptor.reached, tuple, mapping, isRecognised,
          Descriptor.isUnsupported] using List.rel_append (left ofKey) (right ofValue)
      · exact sameOffences_of_unknown (by simp [reached, tuple, mapping])
          (by simp [isRecognised, tuple, mapping]) described
  | case3 form notSingle notDouble =>
    have alone : form.reached = [form] := by
      rw [reached] <;> assumption
    cases form with
    | cls form =>
      obtain rfl := Except.ok.inj described
      exact sameOffences_cls form
    | applied spelling origin arguments =>
      have unknown : isRecognised (.applied spelling origin arguments) = false := by
        cases origin with
        | cls form =>
          rcases arguments with _ | ⟨first, _ | ⟨second, _ | ⟨third, rest⟩⟩⟩
          · rfl
          · exact absurd rfl (notSingle spelling form first)
          · exact absurd rfl (notDouble spelling form first second)
          · rfl
        | _ => rfl
      exact sameOffences_of_unknown alone unknown described
    | _ => exact sameOffences_of_unknown alone rfl described

/-! ## Forms of the language -/

theorem Mirrors.isEllipsis {form : TypeForm} {representation : Representation}
    (h : Mirrors form representation) : form.isEllipsis = false := by
  cases h <;> rfl

theorem describe_of_mirrors {form : TypeForm} {representation : Representation}
    (h : Mirrors form representation) :
    ∃ descriptor, form.describe = .ok descriptor ∧ descriptor.resolve = .ok representation := by
  induction h with
  | primitive exactly =>
    refine ⟨_, rfl, ?_⟩
    simp [ClassForm.descriptor, ClassForm.primitive?_eq_some.mpr exactly, Descriptor.resolve]
  | @enumeration form other members =>
    refine ⟨_, rfl, ?_⟩
    rw [ClassForm.descriptor, ClassForm.primitive?_eq_none.mpr other]
    cases kind : form.kind with
    | ordinary => exact absurd kind members
    | enumeration | flags => rfl
  | position other ordinary marked =>
    refine ⟨_, rfl, ?_⟩
    simp [ClassForm.descriptor, ClassForm.primitive?_eq_none.mpr other, ordinary, marked,
      Descriptor.resolve]
  | sequence container _ ih =>
    obtain ⟨inner, described, resolved⟩ := ih
    refine ⟨_, (describe_sequence container).mpr ⟨inner, described, rfl⟩, ?_⟩
    rw [Descriptor.resolve, resolved]
    rfl
  | repeated container _ ih =>
    obtain ⟨inner, described, resolved⟩ := ih
    refine ⟨_, (describe_repeated container rfl).mpr ⟨inner, described, rfl⟩, ?_⟩
    rw [Descriptor.resolve, resolved]
    rfl
  | pair container _ right left_ih right_ih =>
    obtain ⟨one, first, resolvedFirst⟩ := left_ih
    obtain ⟨other, second, resolvedSecond⟩ := right_ih
    refine ⟨_, (describe_pair container right.isEllipsis).mpr ⟨one, other, first, second, rfl⟩, ?_⟩
    rw [Descriptor.resolve, resolvedFirst, resolvedSecond]
    rfl
  | mapping container _ _ left_ih right_ih =>
    obtain ⟨one, key, resolvedKey⟩ := left_ih
    obtain ⟨other, value, resolvedValue⟩ := right_ih
    refine ⟨_, (describe_mapping container).mpr ⟨one, other, key, value, rfl⟩, ?_⟩
    rw [Descriptor.resolve, resolvedKey, resolvedValue]
    rfl

theorem mirrors_cls {form : ClassForm} {representation : Representation}
    (h : form.descriptor.resolve = .ok representation) : Mirrors (.cls form) representation := by
  rw [ClassForm.descriptor] at h
  cases primitive : form.primitive? with
  | some kind =>
    rw [primitive] at h
    obtain rfl := Except.ok.inj h
    exact .primitive (ClassForm.primitive?_eq_some.mp primitive)
  | none =>
    have other := ClassForm.primitive?_eq_none.mp primitive
    cases members : form.kind with
    | enumeration | flags =>
      rw [primitive, members] at h
      obtain rfl := Except.ok.inj h
      exact .enumeration other (by simp [members])
    | ordinary =>
      cases marked : form.isPosition with
      | true =>
        rw [primitive, members, marked] at h
        obtain rfl := Except.ok.inj h
        exact .position other members marked
      | false =>
        rw [primitive, members, marked] at h
        cases h

theorem isRecognised_of_resolve {form : TypeForm} {descriptor : Descriptor}
    {representation : Representation} (described : form.describe = .ok descriptor)
    (resolved : descriptor.resolve = .ok representation) : form.isRecognised = true := by
  refine isRecognised_of_supported described ?_
  cases descriptor <;> first | rfl | cases resolved

theorem mirrors_of_resolve {form : TypeForm} {descriptor : Descriptor}
    {representation : Representation} (described : form.describe = .ok descriptor)
    (h : descriptor.resolve = .ok representation) : Mirrors form representation := by
  have known := isRecognised_of_resolve described h
  induction form using reached.induct generalizing descriptor representation with
  | case1 spelling origin element ih =>
    have container : origin.IsSequence := of_decide_eq_true known
    obtain ⟨inner, inside, rfl⟩ := (describe_sequence container).mp described
    obtain ⟨part, resolved, rest⟩ := bind_eq_ok.mp h
    obtain rfl := Except.ok.inj rest
    exact .sequence container (ih inside resolved (isRecognised_of_resolve inside resolved))
  | case2 spelling origin first second left right =>
    simp only [isRecognised, Bool.or_eq_true, decide_eq_true_eq] at known
    rcases known with tuple | mapping
    · cases ends : second.isEllipsis with
      | true =>
        obtain ⟨inner, inside, rfl⟩ := (describe_repeated tuple ends).mp described
        obtain ⟨part, resolved, rest⟩ := bind_eq_ok.mp h
        obtain rfl := Except.ok.inj rest
        cases second with
        | ellipsis =>
          exact .repeated tuple (left inside resolved (isRecognised_of_resolve inside resolved))
        | _ => cases ends
      | false =>
        obtain ⟨_, _, ofFirst, ofSecond, rfl⟩ := (describe_pair tuple ends).mp described
        obtain ⟨one, resolved, rest⟩ := bind_eq_ok.mp h
        obtain ⟨other, resolved', rest⟩ := bind_eq_ok.mp rest
        obtain rfl := Except.ok.inj rest
        exact .pair tuple (left ofFirst resolved (isRecognised_of_resolve ofFirst resolved))
          (right ofSecond resolved' (isRecognised_of_resolve ofSecond resolved'))
    · obtain ⟨_, _, ofKey, ofValue, rfl⟩ := (describe_mapping mapping).mp described
      obtain ⟨one, resolved, rest⟩ := bind_eq_ok.mp h
      obtain ⟨other, resolved', rest⟩ := bind_eq_ok.mp rest
      obtain rfl := Except.ok.inj rest
      exact .mapping mapping (left ofKey resolved (isRecognised_of_resolve ofKey resolved))
        (right ofValue resolved' (isRecognised_of_resolve ofValue resolved'))
  | case3 form notSingle notDouble =>
    cases form with
    | cls form =>
      obtain rfl := Except.ok.inj described
      exact mirrors_cls h
    | applied spelling origin arguments =>
      cases origin with
      | cls form =>
        match arguments with
        | [] => cases known
        | [element] => exact absurd rfl (notSingle spelling form element)
        | [first, second] => exact absurd rfl (notDouble spelling form first second)
        | first :: second :: third :: rest => cases known
      | union | alternative | literal | decorated => cases known
    | _ => cases known

end TypeForm

/-! ## Described classes -/

namespace Scope

def IsPosition (scope : Scope) (cls : ClassObject) : Prop :=
  StandardClass.tilePosition ∈ cls.order ∨
    ∃ mark, (scope.searched cls).findSome? ClassObject.positionMark = some mark ∧
      mark.isTruthy = true

theorem isPosition_iff {scope : Scope} {cls : ClassObject} :
    scope.isPosition cls = true ↔ scope.IsPosition cls := by
  simp [isPosition, IsPosition, Option.any_eq_true]

theorem form_of_class {scope : Scope} {cls : ClassObject}
    (described : scope.class? cls.name = some cls) :
    (scope.form cls.name).name = cls.name ∧
    ((scope.form cls.name).kind ≠ .ordinary ↔ cls.enumeration.isSome = true) ∧
    ((scope.form cls.name).isPosition = true ↔ scope.IsPosition cls) := by
  unfold form
  rw [described]
  refine ⟨rfl, ?_, isPosition_iff⟩
  cases members : cls.enumeration with
  | none => simp [members]
  | some enumeration => cases flag : cls.isFlag <;> simp [members, flag]

/-- A class of a module of its own has a representation iff it is an enumeration or a position, and
being an enumeration counts first. -/
theorem mirrors_class_iff {scope : Scope} {cls : ClassObject} {representation : Representation}
    (described : scope.class? cls.name = some cls) (own : cls.name.module ≠ "builtins") :
    TypeForm.Mirrors (.cls (scope.form cls.name)) representation ↔
      (cls.enumeration.isSome = true ∧ representation = .enumeration cls.name.name true) ∨
      (cls.enumeration = none ∧ scope.IsPosition cls ∧
        representation = .position cls.name.name) := by
  obtain ⟨name, members, marked⟩ := form_of_class described
  have other : ∀ kind, ¬(scope.form cls.name).IsPrimitive kind := by
    intro kind primitive
    rw [ClassForm.IsPrimitive, name] at primitive
    exact own primitive.1
  constructor
  · intro mirrors
    cases mirrors with
    | primitive exactly => exact absurd exactly (other _)
    | enumeration _ isEnumeration =>
      rw [name]
      exact .inl ⟨members.mp isEnumeration, rfl⟩
    | position _ ordinary isPosition =>
      rw [name]
      have none : cls.enumeration = none := by
        rw [← Option.not_isSome_iff_eq_none]
        exact fun some => members.mpr some ordinary
      exact .inr ⟨none, marked.mp isPosition, rfl⟩
  · rintro (⟨isEnumeration, rfl⟩ | ⟨none, isPosition, rfl⟩)
    · have mirrors := TypeForm.Mirrors.enumeration other (members.mpr isEnumeration)
      rwa [name] at mirrors
    · have ordinary : (scope.form cls.name).kind = .ordinary := by
        by_contra isEnumeration
        have some := members.mp isEnumeration
        rw [none] at some
        cases some
      have mirrors := TypeForm.Mirrors.position other ordinary (marked.mpr isPosition)
      rwa [name] at mirrors

end Scope

namespace TypeForm

theorem resolve_eq_error {form : TypeForm} {descriptor : Descriptor}
    (described : form.describe = .ok descriptor) {cause : Unsupported} :
    descriptor.resolve = .error cause ↔
      ∃ part, form.reached.find? (fun part => !part.isRecognised) = some part ∧
        part.describe = .ok cause.descriptor := by
  rw [descriptor.resolve_reports.eq_error_iff, ← List.head?_filter, List.head?_map,
    Option.map_eq_some_iff]
  have same : List.Forall₂ _ _ _ := sameOffences_of_describe described
  revert same
  generalize form.reached.filter _ = parts
  generalize descriptor.reached.filter _ = offences
  intro same
  cases same with
  | nil => simp
  | @cons part offence _ _ first _ =>
    constructor
    · rintro ⟨_, ⟨rfl⟩, rfl⟩
      exact ⟨part, rfl, first⟩
    · rintro ⟨_, ⟨rfl⟩, found⟩
      exact ⟨offence, rfl, congrArg Unsupported.mk (Except.ok.inj (first.symm.trans found))⟩

def spotClass : ClassObject :=
  ⟨.standard "game" "Spot", [], StandardClass.object,
    [.standard "game" "Spot", StandardClass.object], [], [], some (.bool true), Option.none⟩

def raceClass : ClassObject :=
  ⟨.standard "game" "Race", [.standard "game" "Spot", StandardClass.enumName "Enum"],
    StandardClass.object, [.standard "game" "Race", .standard "game" "Spot",
      StandardClass.enumName "Enum", StandardClass.object], [], [], Option.none,
    some ⟨.named, Option.none, Option.none, [], []⟩⟩

def markedScope : Scope :=
  ⟨.named, "game", [spotClass, raceClass], [("Spot", spotClass.name), ("Race", raceClass.name)]⟩

def defiant : TypeForm :=
  .object (.member ⟨"E", "E", 0, false, false, [], 0, []⟩ (some "A") (.int 1) .null
    (some ⟨.ok ⟨.ok "A", Option.none⟩, .ok "E.A", .ok "E.A", .error (.valueError "boom"), .other,
      .other⟩))

def defiantList : TypeForm :=
  .applied .plain (.cls ⟨.builtin "list", .ordinary, false, true⟩) [defiant]

def defiantLiteral : TypeForm :=
  .applied .plain .literal [defiant]

theorem not_mirrors_of_raised {form : TypeForm} {cause : Raised}
    (raised : form.describe.map Descriptor.resolve = .error cause)
    (representation : Representation) : ¬Mirrors form representation := by
  intro mirrors
  obtain ⟨descriptor, described, -⟩ := describe_of_mirrors mirrors
  rw [described] at raised
  cases raised

end TypeForm

end EnumTables
