import EnumTables.DomainClass.Reading
import EnumTables.Proofs.Descriptor.Format

/-!
# Forms of data

Each part of a domain class is read in one of a few forms (`Expected`). Data in a form are either
single, or have parts that are read in forms of their own: the fields of an object, the elements of
a list, or the keys of a mapping (`breakdown`). The faults of data with parts are those of the
parts, one after the other, each below the way to it (`faults_eq`); single data have at most one
fault, and `Refuses` says which (`isRefusal_single`).
-/

namespace EnumTables

open Checked (field optionalField)
open Value Descriptor
open Decimal (Binary64)

/-! ## Whole numbers -/

theorem Decimal.Binary64.exists_truncate {x : Binary64} (finite : x.IsFinite) :
    ∃ n, x.truncate? = some n := by
  obtain ⟨significand, exponent, meaning, -⟩ := Binary64.meaning_of_isFinite finite
  unfold Binary64.truncate?
  rw [meaning]
  exact ⟨_, rfl⟩

theorem Decimal.Binary64.eq_of_equalsInt {x : Binary64} {m n : Int} (whole : x.truncate? = some n)
    (same : x.equalsInt m = true) : m = n := by
  unfold Binary64.truncate? at whole
  unfold Binary64.equalsInt at same
  cases meaning : x.meaning with
  | nan => simp [meaning] at whole
  | infinity => simp [meaning] at whole
  | finite negative significand exponent =>
    simp only [meaning, Option.some_inj] at whole same
    by_cases large : 0 ≤ exponent
    · cases negative <;> simp_all
    · have unit : (2 : Int) ^ (-exponent).toNat ≠ 0 := by positivity
      have quotient {k : Int} (is : (significand : Int) = k * 2 ^ (-exponent).toNat) :
          ((significand / 2 ^ (-exponent).toNat : Nat) : Int) = k := by
        push_cast
        rw [is, Int.mul_ediv_cancel _ unit]
      simp only [large, if_false, beq_iff_eq] at whole same
      cases negative with
      | false =>
        rw [← whole]
        exact (quotient same).symm
      | true =>
        have is : (significand : Int) = -m * 2 ^ (-exponent).toNat := by
          rw [neg_mul, ← same]
          exact (neg_neg _).symm
        rw [← whole, if_pos rfl, quotient is, neg_neg]

/-! ## Forms -/

inductive Expected where
  | text
  | choice
  | ordinal
  | descriptor (guard : Guard)
  | values
  | property
  | variant
  | domainClass
  | sequence (element : Expected)

namespace Expected

def Result : Expected → Type
  | .text => String
  | .choice => Primitive
  | .ordinal => Int
  | .descriptor _ => Descriptor
  | .values => List (String × Value)
  | .property => Property
  | .variant => Variant
  | .domainClass => DomainClass
  | .sequence element => List element.Result

def read : (form : Expected) → Value → Checked form.Result
  | .text => Value.readText
  | .choice => fun value => readPrimitive (Part.of value)
  | .ordinal => Ordinal.read
  | .descriptor guard => readAt guard
  | .values => Variant.readValues
  | .property => Property.read
  | .variant => Variant.read
  | .domainClass => DomainClass.read
  | .sequence element => DomainClass.readEach element.read

end Expected

structure Slot where
  name : String
  form : Expected
  isRequired : Bool

/-- The fields that go with a tag, whose descriptors stand where `guard` says. -/
def Descriptor.Tag.slots (guard : Guard) : Tag → List Slot
  | .primitive => [⟨"primitive", .choice, true⟩]
  | .enumeration => [⟨"name", .text, true⟩]
  | .position => [⟨"name", .text, false⟩]
  | .list => [⟨"element", .descriptor guard, true⟩]
  | .pair => [⟨"first", .descriptor guard, true⟩, ⟨"second", .descriptor guard, true⟩]
  | .map => [⟨"key", .descriptor guard, true⟩, ⟨"value", .descriptor guard, true⟩]
  | .generic => [⟨"origin", .text, true⟩, ⟨"arguments", .sequence (.descriptor guard), false⟩]
  | .unclassified => [⟨"name", .text, true⟩]

def Property.slots : List Slot :=
  [⟨"name", .text, true⟩, ⟨"type", .descriptor .outermost, true⟩]

def Variant.slots : List Slot :=
  [⟨"name", .text, true⟩, ⟨"ordinal", .ordinal, true⟩, ⟨"values", .values, false⟩]

def DomainClass.slots : List Slot :=
  [⟨"name", .text, true⟩, ⟨"properties", .sequence .property, false⟩,
    ⟨"variants", .sequence .variant, false⟩]

/-- What data consist of: nothing but themselves, fields of an object that may have a tag, elements
of a list, or keys of a mapping. -/
inductive Breakdown where
  | single
  | fields (tag : Option Tag) (slots : List Slot)
  | elements (form : Expected) (items : List Value)
  | keys (entries : List (Value × Value))

def Expected.breakdown (form : Expected) (data : Value) : Breakdown :=
  match form, data with
  | .descriptor guard, .mapping _ entries =>
    match tagOf? entries with
    | some tag =>
      if guard.stops tag then .single else .fields (some tag) (tag.slots (guard.below tag))
    | none => .single
  | .property, .mapping .. => .fields none Property.slots
  | .variant, .mapping .. => .fields none Variant.slots
  | .domainClass, .mapping .. => .fields none DomainClass.slots
  | .sequence element, .collection .list items => .elements element items
  | .values, .mapping _ entries => .keys entries
  | _, _ => .single

/-! ## Faults of parts -/

namespace Fault

def below (way : List Step) (fault : Fault) : Fault :=
  { fault with location := way ++ fault.location }

end Fault

def tagSteps : Option Tag → List Step
  | some tag => [.key tag.name]
  | none => []

def Slot.faults (data : Value) (slot : Slot) : List Fault :=
  match data.get? slot.name with
  | some part => (slot.form.read part).faults
  | none => if slot.isRequired then [.here .missing] else []

def keyFaults : Value → List Fault
  | .text _ => []
  | _ => [⟨[Variant.keyMark], .notText⟩]

def Breakdown.parts (data : Value) : Breakdown → List (List Step × List Fault)
  | .single => []
  | .fields tag slots =>
    slots.map fun slot => (tagSteps tag ++ [.key slot.name], slot.faults data)
  | .elements form items =>
    items.zipIdx.map fun item => ([.place item.2], (form.read item.1).faults)
  | .keys entries => entries.map fun entry => ([entry.1.step], keyFaults entry.1)

def Breakdown.faults (data : Value) (breakdown : Breakdown) : List Fault :=
  (breakdown.parts data).flatMap fun part => part.2.map (Fault.below part.1)

section Fields

variable {α β : Type} {data : Value} {parts : List (String × α)} {name : String}
  {read : α → Checked β} {form : Expected}

theorem faults_required
    (same : (parts.lookup name).map (fun part => (read part).faults) =
      (data.get? name).map fun part => (form.read part).faults) :
    (field parts name read).faults =
      (Slot.faults data ⟨name, form, true⟩).map (Fault.within (.key name)) := by
  rw [Checked.faults_field]
  unfold Slot.faults
  cases found : parts.lookup name <;> cases found' : data.get? name <;>
    simp_all [Fault.here, Fault.within]

theorem faults_optional {default : β}
    (same : (parts.lookup name).map (fun part => (read part).faults) =
      (data.get? name).map fun part => (form.read part).faults) :
    (optionalField parts name default read).faults =
      (Slot.faults data ⟨name, form, false⟩).map (Fault.within (.key name)) := by
  rw [Checked.faults_optionalField]
  unfold Slot.faults
  cases found : parts.lookup name <;> cases found' : data.get? name <;> simp_all

end Fields

theorem Breakdown.faults_fields (data : Value) (tag : Option Tag) (slots : List Slot) :
    (Breakdown.fields tag slots).faults data =
      (slots.flatMap fun slot => (slot.faults data).map (Fault.within (.key slot.name))).map
        (Fault.below (tagSteps tag)) := by
  have way (name : String) : Fault.below (tagSteps tag) ∘ Fault.within (.key name) =
      Fault.below (tagSteps tag ++ [.key name]) := by
    funext fault
    simp [Fault.below, Fault.within]
  simp only [Breakdown.faults, Breakdown.parts, List.flatMap_map, List.map_flatMap, List.map_map,
    way]

theorem readItems_eq (guard : Guard) (items : List Value) (index : Int) :
    readItems guard items index = .parts (readAt guard) items index := by
  induction items generalizing index with
  | nil => rfl
  | cons item rest ih => rw [readItems, Checked.parts, ih]

theorem readSequence_eq (guard : Guard) :
    readSequence guard = DomainClass.readEach (readAt guard) := by
  funext data
  cases data with
  | collection kind items => cases kind <;> first | rfl | exact readItems_eq _ _ _
  | _ => rfl

section Objects

variable {readOnly : Bool} {entries : List (Value × Value)}

theorem faults_named (form : Expected) (name : String) :
    (field (named entries) name form.read).faults =
      (Slot.faults (.mapping readOnly entries) ⟨name, form, true⟩).map (Fault.within (.key name)) :=
  faults_required rfl

theorem faults_optionalNamed (form : Expected) (name : String) (default : form.Result) :
    (optionalField (named entries) name default form.read).faults =
      (Slot.faults (.mapping readOnly entries) ⟨name, form, false⟩).map
        (Fault.within (.key name)) :=
  faults_optional rfl

theorem faults_untagged (data : Value) (slots : List Slot) :
    (Breakdown.fields none slots).faults data =
      slots.flatMap fun slot => (slot.faults data).map (Fault.within (.key slot.name)) := by
  rw [Breakdown.faults_fields]
  exact List.map_id _

theorem faults_property : (Property.read (.mapping readOnly entries)).faults =
    (Breakdown.fields none Property.slots).faults (.mapping readOnly entries) := by
  simp only [faults_untagged, Property.slots, List.flatMap_cons, List.flatMap_nil, List.append_nil]
  rw [← faults_named .text, ← faults_named (.descriptor .outermost)]
  exact Checked.faults_both ..

theorem faults_variant : (Variant.read (.mapping readOnly entries)).faults =
    (Breakdown.fields none Variant.slots).faults (.mapping readOnly entries) := by
  simp only [faults_untagged, Variant.slots, List.flatMap_cons, List.flatMap_nil, List.append_nil]
  rw [← faults_named .text, ← faults_named .ordinal, ← faults_optionalNamed .values "values" []]
  exact (Checked.faults_both ..).trans (congrArg _ (Checked.faults_both ..))

theorem faults_domainClass : (DomainClass.read (.mapping readOnly entries)).faults =
    (Breakdown.fields none DomainClass.slots).faults (.mapping readOnly entries) := by
  simp only [faults_untagged, DomainClass.slots, List.flatMap_cons, List.flatMap_nil,
    List.append_nil]
  rw [← faults_named .text, ← faults_optionalNamed (.sequence .property) "properties" [],
    ← faults_optionalNamed (.sequence .variant) "variants" []]
  exact (Checked.faults_both ..).trans (congrArg _ (Checked.faults_both ..))

theorem faults_part {α : Type} {read : Part → Checked α} (form : Expected) (name : String)
    (same : ∀ part, (read (Part.of part)).faults = (form.read part).faults) :
    (field (readParts entries) name read).faults =
      (Slot.faults (.mapping readOnly entries) ⟨name, form, true⟩).map
        (Fault.within (.key name)) := by
  apply faults_required
  rw [lookup_readParts, Option.map_map]
  exact congrArg (Option.map · _) (funext same)

theorem faults_optionalPart {α : Type} {read : Part → Checked α} (form : Expected) (name : String)
    (default : α) (same : ∀ part, (read (Part.of part)).faults = (form.read part).faults) :
    (optionalField (readParts entries) name default read).faults =
      (Slot.faults (.mapping readOnly entries) ⟨name, form, false⟩).map
        (Fault.within (.key name)) := by
  apply faults_optional
  rw [lookup_readParts, Option.map_map]
  exact congrArg (Option.map · _) (funext same)

theorem faults_ofTag (guard : Guard) (tag : Tag) :
    (ofTag guard (readParts entries) tag).faults = (tag.slots guard).flatMap fun slot =>
      (slot.faults (.mapping readOnly entries)).map (Fault.within (.key slot.name)) := by
  have inner (name : String) :
      (field (readParts entries) name (Part.descriptor · guard)).faults =
        (Slot.faults (.mapping readOnly entries) ⟨name, .descriptor guard, true⟩).map
          (Fault.within (.key name)) := faults_part _ name fun _ => rfl
  have sequence (part : Value) : ((Part.of part).sequence guard).faults =
      ((Expected.sequence (.descriptor guard)).read part).faults := by
    change (readSequence guard part).faults = _
    rw [readSequence_eq]
    rfl
  cases tag <;> simp only [Tag.slots, List.flatMap_cons, List.flatMap_nil, List.append_nil]
  case primitive =>
    exact (Checked.faults_map ..).trans (faults_part .choice _ fun _ => rfl)
  case enumeration | unclassified =>
    exact (Checked.faults_map ..).trans (faults_part .text _ fun _ => rfl)
  case position =>
    exact (Checked.faults_map ..).trans (faults_optionalPart .text _ _ fun _ => rfl)
  case list => exact (Checked.faults_map ..).trans (inner _)
  case pair | map => exact (Checked.faults_both ..).trans (congrArg₂ _ (inner _) (inner _))
  case generic =>
    exact (Checked.faults_both ..).trans (congrArg₂ _ (faults_part .text _ fun _ => rfl)
      (faults_optionalPart _ _ _ sequence))

end Objects

theorem faults_each (form : Expected) (items : List Value) :
    ((Expected.sequence form).read (.list items)).faults =
      (Breakdown.elements form items).faults (.list items) := by
  unfold Breakdown.faults Breakdown.parts
  rw [List.flatMap_map]
  exact Checked.faults_parts form.read items 0

theorem faults_keys {entries : List (Value × Value)}
    (scalar : ∀ entry ∈ entries, IsScalar entry.1) (data : Value) :
    (Variant.readEntries entries).faults = (Breakdown.keys entries).faults data := by
  induction entries with
  | nil => rfl
  | cons entry rest ih =>
    obtain ⟨first, others⟩ := List.forall_mem_cons.mp scalar
    obtain ⟨key, value⟩ := entry
    rw [Variant.readEntries, Checked.faults_both, ih others]
    cases first <;> rfl

theorem faults_eq {form : Expected} {data : Value} (plain : IsPlain data)
    (composite : form.breakdown data ≠ .single) :
    (form.read data).faults = (form.breakdown data).faults data := by
  revert composite
  unfold Expected.breakdown
  split
  case h_1 guard readOnly entries =>
    split
    · next tag tagged =>
      split
      · exact absurd rfl
      · next free =>
        intro _
        rw [Breakdown.faults_fields, ← faults_ofTag, Expected.read, readAt_of_tag tagged,
          if_neg free]
        exact Checked.faults_within ..
    · exact absurd rfl
  case h_6 readOnly entries =>
    cases plain with
    | scalar single => cases single
    | object keys values distinct => exact fun _ => faults_keys keys _
  · exact fun _ => faults_property
  · exact fun _ => faults_variant
  · exact fun _ => faults_domainClass
  · exact fun _ => faults_each ..
  · exact absurd rfl

/-! ## Faults of single data -/

inductive Refuses : Expected → Value → List Step → FaultKind → Prop where
  | notText {data : Value} (other : ∀ s, data ≠ .text s) : Refuses .text data [] .notText
  | notChoice {data : Value} (other : ∀ kind : Primitive, data ≠ .text kind.name) :
      Refuses .choice data [] .notChoice
  | notInteger {data : Value} (noBool : ∀ b, data ≠ .bool b) (noInt : ∀ n, data ≠ .int n)
      (noFloat : ∀ x, data ≠ .float x) (noText : ∀ s, data ≠ .text s) :
      Refuses .ordinal data [] .notInteger
  | fractional {x : Binary64} (other : ∀ n, x.equalsInt n = false) :
      Refuses .ordinal (.float x) [] .fractional
  | tooLarge {x : Binary64} {n : Int} (whole : x.equalsInt n = true)
      (large : n ≤ -2 ^ 63 ∨ 2 ^ 63 ≤ n) : Refuses .ordinal (.float x) [] .tooLarge
  | tooLong {s : String} (long : Ordinal.isTooLong s.toList = true) :
      Refuses .ordinal (.text s) [] .tooLarge
  | notNumeral {s : String} (short : Ordinal.isTooLong s.toList = false)
      (other : Ordinal.ofText? s.toList = none) : Refuses .ordinal (.text s) [] .notNumeral
  | notTagged {data : Value} {guard : Guard} (other : ∀ entries, data ≠ .dict entries) :
      Refuses (.descriptor guard) data [] .notTagged
  | tagMissing {entries : List (Value × Value)} {guard : Guard}
      (absent : (Value.dict entries).get? "kind" = none) :
      Refuses (.descriptor guard) (.dict entries) [] .tagMissing
  | tagUnknown {data part : Value} {guard : Guard} (found : data.get? "kind" = some part)
      (other : ∀ tag : Tag, part ≠ .text tag.name) :
      Refuses (.descriptor guard) data [] .tagUnknown
  | tooDeep {data : Value} {tag : Tag} {guard : Guard} (carries : Carries data tag)
      (stops : guard.stops tag = true) : Refuses (.descriptor guard) data [.key tag.name] .tooDeep
  | notObject {form : Expected} {data : Value}
      (expected : form = .property ∨ form = .variant ∨ form = .domainClass)
      (other : ∀ entries, data ≠ .dict entries) : Refuses form data [] .notObject
  | notMapping {data : Value} (other : ∀ entries, data ≠ .dict entries) :
      Refuses .values data [] .notMapping
  | notSequence {element : Expected} {data : Value} (other : ∀ items, data ≠ .list items) :
      Refuses (.sequence element) data [] .notSequence

def IsRefusal (form : Expected) (data : Value) (faults : List Fault) : Prop :=
  faults.length ≤ 1 ∧ ∀ fault, fault ∈ faults ↔ Refuses form data fault.location fault.kind

namespace IsRefusal

variable {form : Expected} {data : Value} {location : List Step} {kind : FaultKind}

theorem none (accepted : ∀ location kind, ¬ Refuses form data location kind) :
    IsRefusal form data [] :=
  ⟨Nat.zero_le _, fun _ => iff_of_false List.not_mem_nil (accepted _ _)⟩

theorem one (refused : Refuses form data location kind)
    (only : ∀ location' kind', Refuses form data location' kind' →
      location' = location ∧ kind' = kind) : IsRefusal form data [⟨location, kind⟩] := by
  refine ⟨Nat.le_refl _, fun fault => List.mem_singleton.trans ⟨?_, fun again => ?_⟩⟩
  · rintro rfl
    exact refused
  · obtain ⟨same, same'⟩ := only _ _ again
    cases fault
    simp_all

end IsRefusal

section Refusals

variable {data : Value}

theorem isRefusal_text (plain : IsPlain data) : IsRefusal .text data data.readText.faults := by
  by_cases isText : ∃ s, data = .text s
  · obtain ⟨s, rfl⟩ := isText
    refine .none fun location kind refused => ?_
    cases refused with
    | notText other => exact other s rfl
    | notObject expected => simp at expected
  · have other := not_exists.mp isText
    have failed : data.readText = .fault .notText := by
      cases plain with
      | scalar single => cases single <;> first | rfl | exact absurd rfl (other _)
      | _ => rfl
    rw [failed]
    refine .one (.notText other) fun location kind refused => ?_
    cases refused with
    | notText => exact ⟨rfl, rfl⟩
    | notObject expected => simp at expected

theorem isRefusal_choice (plain : IsPlain data) :
    IsRefusal .choice data (readPrimitive (Part.of data)).faults := by
  have spelled (kind : Primitive) :
      readPrimitive (Part.of data) = .ok kind ↔ data = .text kind.name :=
    readPrimitive_eq_ok plain
  by_cases isChoice : ∃ kind : Primitive, data = .text kind.name
  · obtain ⟨kind, is⟩ := isChoice
    rw [(spelled kind).mpr is]
    refine .none fun location kind' refused => ?_
    cases refused with
    | notChoice other => exact other kind is
    | notObject expected => simp at expected
  · have other := not_exists.mp isChoice
    have failed : readPrimitive (Part.of data) = .fault .notChoice := by
      cases outcome : (Part.of data).value.asText?.bind Primitive.ofName? with
      | none => simp [readPrimitive, outcome]
      | some kind =>
        exact absurd ((spelled kind).mp (by simp [readPrimitive, outcome])) (other kind)
    rw [failed]
    refine .one (.notChoice other) fun location kind refused => ?_
    cases refused with
    | notChoice => exact ⟨rfl, rfl⟩
    | notObject expected => simp at expected

theorem isRefusal_float {x : Binary64} (finite : x.IsFinite) :
    IsRefusal .ordinal (.float x) (Ordinal.read (.float x)).faults := by
  obtain ⟨n, whole⟩ := Binary64.exists_truncate finite
  have only {m : Int} (same : x.equalsInt m = true) : m = n := Binary64.eq_of_equalsInt whole same
  unfold Ordinal.read
  simp only [whole]
  split
  case isTrue same =>
    split
    case isTrue small =>
      refine .none fun location kind refused => ?_
      cases refused with
      | notInteger _ _ noFloat => exact noFloat _ rfl
      | fractional other => exact absurd same (by simp [other n])
      | tooLarge whole' large =>
        obtain rfl := only whole'
        unfold Ordinal.floatBound at small
        omega
      | notObject expected => simp at expected
    case isFalse large =>
      have outside : n ≤ -2 ^ 63 ∨ 2 ^ 63 ≤ n := by
        unfold Ordinal.floatBound at large
        omega
      refine .one (.tooLarge same outside) fun location kind refused => ?_
      cases refused with
      | notInteger _ _ noFloat => exact absurd rfl (noFloat _)
      | fractional other => exact absurd same (by simp [other n])
      | tooLarge => exact ⟨rfl, rfl⟩
      | notObject expected => simp at expected
  case isFalse other =>
    have other : ∀ m, x.equalsInt m = false := by
      intro m
      by_contra same
      rw [Bool.not_eq_false] at same
      exact other (only same ▸ same)
    refine .one (.fractional other) fun location kind refused => ?_
    cases refused with
    | notInteger _ _ noFloat => exact absurd rfl (noFloat _)
    | fractional => exact ⟨rfl, rfl⟩
    | tooLarge same => exact absurd same (by simp [other])
    | notObject expected => simp at expected

theorem Ordinal.read_text (s : String) : Ordinal.read (.text s) =
    if Ordinal.isTooLong s.toList then .fault .tooLarge
    else match Ordinal.ofText? s.toList with
      | some n => .ok n
      | none => .fault .notNumeral :=
  rfl

theorem isRefusal_numeral (s : String) :
    IsRefusal .ordinal (.text s) (Ordinal.read (.text s)).faults := by
  rw [Ordinal.read_text]
  split
  case isTrue long =>
    refine .one (.tooLong long) fun location kind refused => ?_
    cases refused with
    | notInteger _ _ _ noText => exact absurd rfl (noText _)
    | tooLong => exact ⟨rfl, rfl⟩
    | notNumeral short => cases short.symm.trans long
    | notObject expected => simp at expected
  case isFalse short =>
    split
    · next numeral =>
      refine .none fun location kind refused => ?_
      cases refused with
      | notInteger _ _ _ noText => exact noText _ rfl
      | tooLong long => exact short long
      | notNumeral _ other => cases numeral.symm.trans other
      | notObject expected => simp at expected
    · next other =>
      refine .one (.notNumeral (Bool.eq_false_of_not_eq_true short) other) ?_
      intro location kind refused
      cases refused with
      | notInteger _ _ _ noText => exact absurd rfl (noText _)
      | tooLong long => exact absurd long short
      | notNumeral => exact ⟨rfl, rfl⟩
      | notObject expected => simp at expected

theorem isRefusal_ordinal (plain : IsPlain data) :
    IsRefusal .ordinal data (Ordinal.read data).faults := by
  have noNumber (noBool : ∀ b, data ≠ .bool b) (noInt : ∀ n, data ≠ .int n)
      (noFloat : ∀ x, data ≠ .float x) (noText : ∀ s, data ≠ .text s) :
      IsRefusal .ordinal data [.here .notInteger] := by
    refine .one (.notInteger noBool noInt noFloat noText) fun location kind refused => ?_
    cases refused with
    | notInteger => exact ⟨rfl, rfl⟩
    | fractional => exact absurd rfl (noFloat _)
    | tooLarge => exact absurd rfl (noFloat _)
    | tooLong => exact absurd rfl (noText _)
    | notNumeral => exact absurd rfl (noText _)
    | notObject expected => simp at expected
  cases plain with
  | scalar single =>
    cases single with
    | null => exact noNumber (by simp) (by simp) (by simp) (by simp)
    | bool b =>
      refine .none fun location kind refused => ?_
      cases refused with
      | notInteger noBool => exact noBool b rfl
      | notObject expected => simp at expected
    | int n =>
      refine .none fun location kind refused => ?_
      cases refused with
      | notInteger _ noInt => exact noInt n rfl
      | notObject expected => simp at expected
    | float finite => exact isRefusal_float finite
    | text s => exact isRefusal_numeral s
  | list => exact noNumber (by simp) (by simp) (by simp) (by simp)
  | object => exact noNumber (by simp) (by simp) (by simp) (by simp)

theorem isRefusal_notObject {form : Expected}
    (expected : form = .property ∨ form = .variant ∨ form = .domainClass)
    (other : ∀ entries, data ≠ .dict entries) : IsRefusal form data [.here .notObject] := by
  refine .one (.notObject expected other) fun location kind refused => ?_
  cases refused <;> simp_all

theorem isRefusal_notMapping (other : ∀ entries, data ≠ .dict entries) :
    IsRefusal .values data [.here .notMapping] := by
  refine .one (.notMapping other) fun location kind refused => ?_
  cases refused with
  | notMapping => exact ⟨rfl, rfl⟩
  | notObject expected => simp at expected

theorem isRefusal_notSequence {element : Expected} (other : ∀ items, data ≠ .list items) :
    IsRefusal (.sequence element) data [.here .notSequence] := by
  refine .one (.notSequence other) fun location kind refused => ?_
  cases refused with
  | notSequence => exact ⟨rfl, rfl⟩
  | notObject expected => simp at expected

theorem isRefusal_notTagged {guard : Guard} (untagged : data.get? "kind" = none)
    (other : ∀ entries, data ≠ .dict entries) :
    IsRefusal (.descriptor guard) data [.here .notTagged] := by
  refine .one (.notTagged other) fun location kind refused => ?_
  cases refused with
  | notTagged => exact ⟨rfl, rfl⟩
  | tagMissing => exact absurd rfl (other _)
  | tagUnknown found => cases untagged.symm.trans found
  | tooDeep carries => cases untagged.symm.trans carries
  | notObject expected => simp at expected

theorem isRefusal_untagged {entries : List (Value × Value)} {guard : Guard}
    (untagged : tagOf? entries = none) :
    IsRefusal (.descriptor guard) (.dict entries) (readAt guard (.dict entries)).faults := by
  rw [readAt_untagged untagged]
  cases found : (named entries).lookup "kind" with
  | none =>
    refine .one (.tagMissing found) fun location kind refused => ?_
    cases refused with
    | notTagged other => exact absurd rfl (other _)
    | tagMissing => exact ⟨rfl, rfl⟩
    | tagUnknown found' => cases found.symm.trans found'
    | tooDeep carries => cases found.symm.trans carries
    | notObject expected => simp at expected
  | some part =>
    have other (tag : Tag) : part ≠ .text tag.name := by
      rintro rfl
      have known : Tag.ofName? tag.name = some tag := Tag.ofName?_eq_some.mpr rfl
      simp [tagOf?, found, asText?, known] at untagged
    refine .one (.tagUnknown found other) fun location kind refused => ?_
    cases refused with
    | notTagged other => exact absurd rfl (other _)
    | tagMissing absent => cases found.symm.trans absent
    | tagUnknown => exact ⟨rfl, rfl⟩
    | tooDeep carries => exact absurd (Option.some_inj.mp (found.symm.trans carries)) (other _)
    | notObject expected => simp at expected

theorem isRefusal_tooDeep {entries : List (Value × Value)} {guard : Guard} {tag : Tag}
    (carries : Carries (.dict entries) tag) (stops : guard.stops tag = true) :
    IsRefusal (.descriptor guard) (.dict entries) [⟨[.key tag.name], .tooDeep⟩] := by
  refine .one (.tooDeep carries stops) fun location kind refused => ?_
  cases refused with
  | notTagged other => exact absurd rfl (other _)
  | tagMissing absent => cases carries.symm.trans absent
  | tagUnknown found other => exact absurd (Option.some_inj.mp (found.symm.trans carries)) (other _)
  | tooDeep carries' =>
    have same := Option.some_inj.mp (carries.symm.trans carries')
    exact ⟨by rw [Value.text.inj same], rfl⟩
  | notObject expected => simp at expected

theorem isRefusal_descriptor {guard : Guard} {entries : List (Value × Value)}
    (plain : IsPlain (.dict entries))
    (single : (Expected.descriptor guard).breakdown (.dict entries) = .single) :
    IsRefusal (.descriptor guard) (.dict entries) (readAt guard (.dict entries)).faults := by
  cases tagged : tagOf? entries with
  | none => exact isRefusal_untagged tagged
  | some tag =>
    have stops : guard.stops tag = true := by
      by_contra free
      simp [Expected.breakdown, tagged, free] at single
    rw [readAt_of_tag tagged, if_pos stops]
    exact isRefusal_tooDeep ((tagOf?_eq_some plain).mp tagged) stops

theorem read_of_not_object (plain : IsPlain data) (other : ∀ entries, data ≠ .dict entries) :
    data.get? "kind" = none ∧ (∀ guard, readAt guard data = .fault .notTagged) ∧
      data.namedEntries? = none ∧ Variant.readValues data = .fault .notMapping := by
  cases plain with
  | scalar single => cases single <;> exact ⟨rfl, fun _ => rfl, rfl, rfl⟩
  | list each => exact ⟨rfl, fun _ => rfl, rfl, rfl⟩
  | object => exact absurd rfl (other _)

theorem isRefusal_single {form : Expected} (plain : IsPlain data)
    (single : form.breakdown data = .single) : IsRefusal form data (form.read data).faults := by
  by_cases object : ∃ entries, data = .dict entries
  · obtain ⟨entries, rfl⟩ := object
    cases form with
    | text => exact isRefusal_text plain
    | choice => exact isRefusal_choice plain
    | ordinal => exact isRefusal_ordinal plain
    | descriptor guard => exact isRefusal_descriptor plain single
    | sequence element => exact isRefusal_notSequence (by simp)
    | _ => cases single
  · have other := not_exists.mp object
    obtain ⟨untagged, notTagged, unnamed, notMapping⟩ := read_of_not_object plain other
    cases form with
    | text => exact isRefusal_text plain
    | choice => exact isRefusal_choice plain
    | ordinal => exact isRefusal_ordinal plain
    | descriptor guard =>
      rw [Expected.read, notTagged]
      exact isRefusal_notTagged untagged other
    | values =>
      rw [Expected.read, notMapping]
      exact isRefusal_notMapping other
    | property =>
      rw [Expected.read, Property.read, unnamed]
      exact isRefusal_notObject (.inl rfl) other
    | variant =>
      rw [Expected.read, Variant.read, unnamed]
      exact isRefusal_notObject (.inr (.inl rfl)) other
    | domainClass =>
      rw [Expected.read, DomainClass.read, unnamed]
      exact isRefusal_notObject (.inr (.inr rfl)) other
    | sequence element =>
      cases plain with
      | scalar scalar => cases scalar <;> exact isRefusal_notSequence (by simp)
      | list each => cases single
      | object => exact absurd rfl (other _)

end Refusals

end EnumTables
