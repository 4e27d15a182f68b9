import EnumTables.Proofs.DomainClass.Forms
import Mathlib.Data.List.Sigma

/-!
# Faults of domain classes

A part of data is reached in a form (`Reaches`) by a location, which names the tags on the way, and
by a path, which does not; the path addresses the part (`Reaches.at?`). Reading reports exactly the
faults that the parts reached have themselves (`mem_faults_iff_reaches`), at locations of which no
two are equal (`nodup_faults`). Reading succeeds iff there are none (`isSound_read`).
-/

namespace EnumTables

open Checked (IsSound)
open Value Descriptor
open Decimal (digitLimit)

variable {form inner last : Expected} {data part found : Value} {location path : List Step}
  {kind : FaultKind}

/-! ## Success -/

theorem isSound_readPrimitive (part : Part) : IsSound (readPrimitive part) := by
  unfold readPrimitive
  split
  · exact .ok _
  · exact .fault _

theorem Ordinal.isSound_read (data : Value) : IsSound (Ordinal.read data) := by
  unfold Ordinal.read
  repeat' split
  all_goals first | exact .ok _ | exact .fault _

theorem Variant.isSound_readEntries (entries : List (Value × Value)) :
    IsSound (Variant.readEntries entries) := by
  induction entries with
  | nil => exact .ok _
  | cons entry rest ih =>
    obtain ⟨key, value⟩ := entry
    exact ((key.isSound_readText.within _).within _).both ih _

section Descriptors

variable {entries : List (Value × Value)}
  (each : ∀ name part, (named entries).lookup name = some part →
    ∀ guard, IsSound (readAt guard part) ∧ IsSound (readSequence guard part))

include each

theorem isSound_ofTag (guard : Guard) (tag : Tag) :
    IsSound (ofTag guard (readParts entries) tag) := by
  have of (name : String) (entry : Part)
      (found : (readParts entries).lookup name = some entry) :
      IsSound (entry.descriptor guard) ∧ IsSound (entry.sequence guard) := by
    rw [lookup_readParts] at found
    obtain ⟨part, held, rfl⟩ := Option.map_eq_some_iff.mp found
    exact each name part held guard
  have text (name : String) : IsSound (Checked.field (readParts entries) name readText) :=
    .field fun entry _ => entry.value.isSound_readText
  have descriptor (name : String) :
      IsSound (Checked.field (readParts entries) name (Part.descriptor · guard)) :=
    .field fun entry found => (of name entry found).1
  cases tag with
  | primitive => exact (IsSound.field fun part _ => isSound_readPrimitive part).map _
  | enumeration => exact (text _).map _
  | position => exact (IsSound.optionalField (fun part _ => part.value.isSound_readText) _).map _
  | list => exact (descriptor _).map _
  | pair => exact (descriptor _).both (descriptor _) _
  | map => exact (descriptor _).both (descriptor _) _
  | generic =>
    exact (text _).both (.optionalField (fun entry found => (of _ entry found).2) _) _
  | unclassified => exact (text _).map _

theorem isSound_readAt (readOnly : Bool) (guard : Guard) :
    IsSound (readAt guard (.mapping readOnly entries)) := by
  unfold readAt ofParts
  repeat' split
  · exact .fault _
  · exact .fault _
  · exact (IsSound.fault _).within _
  · exact (isSound_ofTag each _ _).within _

end Descriptors

theorem isSound_read (plain : IsPlain data) (form : Expected) : IsSound (form.read data) := by
  revert form
  refine IsPlain.induction plain fun data plain each items form => ?_
  cases plain with
  | scalar single =>
    cases form with
    | text => exact isSound_readText _
    | choice => exact isSound_readPrimitive _
    | ordinal => exact Ordinal.isSound_read _
    | _ => cases single <;> exact .fault _
  | list plain =>
    cases form with
    | ordinal => exact Ordinal.isSound_read _
    | sequence element => exact .parts (fun item inside => items _ rfl item inside element) 0
    | _ => exact .fault _
  | @object entries keys values distinct =>
    have text (name : String) : IsSound (Checked.field (named entries) name readText) :=
      .field fun part _ => part.isSound_readText
    cases form with
    | ordinal => exact Ordinal.isSound_read _
    | descriptor guard =>
      refine isSound_readAt (fun name part found guard => ?_) false guard
      rw [readSequence_eq]
      exact ⟨each name part found (.descriptor guard),
        each name part found (.sequence (.descriptor guard))⟩
    | values => exact Variant.isSound_readEntries entries
    | property =>
      exact (text "name").both (.field fun part found => each _ part found (.descriptor .outermost)) _
    | variant =>
      refine (text "name").both (.both ?_ ?_ _) _
      · exact .field fun part _ => Ordinal.isSound_read part
      · exact .optionalField (fun part found => each _ part found .values) _
    | domainClass =>
      refine (text "name").both (.both ?_ ?_ _) _
      · exact .optionalField (fun part found => each _ part found (.sequence .property)) _
      · exact .optionalField (fun part found => each _ part found (.sequence .variant)) _
    | _ => exact .fault _

/-! ## The faults of a part -/

inductive Blames (form : Expected) (data : Value) : List Step → FaultKind → Prop where
  | refused {location : List Step} {kind : FaultKind} (refused : Refuses form data location kind) :
      Blames form data location kind
  | missing {tag : Option Tag} {slots : List Slot} {slot : Slot}
      (fields : form.breakdown data = .fields tag slots) (among : slot ∈ slots)
      (required : slot.isRequired = true) (absent : data.get? slot.name = none) :
      Blames form data (tagSteps tag ++ [.key slot.name]) .missing
  | key {entries : List (Value × Value)} {key value : Value}
      (keys : form.breakdown data = .keys entries) (inside : (key, value) ∈ entries)
      (noText : ∀ s, key ≠ .text s) : Blames form data [key.step, Variant.keyMark] .notText

/-- A part of data, the steps to it with the tag of the data, and the step without it. -/
inductive Holds (form : Expected) (data : Value) : List Step → Step → Expected → Value → Prop where
  | field {tag : Option Tag} {slots : List Slot} {slot : Slot} {part : Value}
      (fields : form.breakdown data = .fields tag slots) (among : slot ∈ slots)
      (found : data.get? slot.name = some part) :
      Holds form data (tagSteps tag ++ [.key slot.name]) (.key slot.name) slot.form part
  | element {element : Expected} {items : List Value} {index : Nat} {item : Value}
      (elements : form.breakdown data = .elements element items)
      (found : items[index]? = some item) :
      Holds form data [.place index] (.place index) element item

theorem Refuses.breakdown (plain : IsPlain data) (refused : Refuses form data location kind) :
    form.breakdown data = .single := by
  cases refused with
  | notText | notChoice | notInteger | fractional | tooLarge | tooLong | notNumeral => rfl
  | notTagged other =>
    cases plain with
    | scalar single => cases single <;> rfl
    | list => rfl
    | object => exact absurd rfl (other _)
  | @tagMissing entries _ absent =>
    have absent : (named entries).lookup "kind" = none := absent
    have untagged : tagOf? entries = none := by
      rw [tagOf?, absent, Option.bind_none, Option.bind_none]
    simp [Expected.breakdown, untagged]
  | @tagUnknown _ part _ found other =>
    cases plain with
    | scalar single => cases single <;> cases found
    | list => cases found
    | @object entries keys values distinct =>
      have plain := IsPlain.object keys values distinct
      have untagged : tagOf? entries = none := by
        rw [Option.eq_none_iff_forall_ne_some]
        intro tag tagged
        have carries := (tagOf?_eq_some plain).mp tagged
        exact other tag (Option.some_inj.mp (found.symm.trans carries))
      simp [Expected.breakdown, untagged]
  | tooDeep carries stops =>
    cases plain with
    | scalar single => cases single <;> cases carries
    | list => cases carries
    | object keys values distinct =>
      have tagged := (tagOf?_eq_some (.object keys values distinct)).mpr carries
      simp [Expected.breakdown, tagged, stops]
  | notObject expected other =>
    rcases expected with rfl | rfl | rfl <;> cases plain with
    | scalar single => cases single <;> rfl
    | list => rfl
    | object => exact absurd rfl (other _)
  | notMapping other =>
    cases plain with
    | scalar single => cases single <;> rfl
    | list => rfl
    | object => exact absurd rfl (other _)
  | notSequence other =>
    cases plain with
    | scalar single => cases single <;> rfl
    | list => exact absurd rfl (other _)
    | object => rfl

theorem Slot.mem_faults {slot : Slot} {fault : Fault} :
    fault ∈ slot.faults data ↔
      (slot.isRequired = true ∧ data.get? slot.name = none ∧ fault = .here .missing) ∨
        ∃ part, data.get? slot.name = some part ∧ fault ∈ (slot.form.read part).faults := by
  unfold Slot.faults
  cases data.get? slot.name with
  | none => cases slot.isRequired <;> simp
  | some part => simp

theorem mem_keyFaults {key : Value} {fault : Fault} :
    fault ∈ keyFaults key ↔ (∀ s, key ≠ .text s) ∧ fault = ⟨[Variant.keyMark], .notText⟩ := by
  cases key <;> simp [keyFaults]

section Parts

variable {tag : Option Tag} {slots : List Slot} {element : Expected} {items : List Value}
  {entries : List (Value × Value)}

theorem mem_faults_fields :
    ⟨location, kind⟩ ∈ (Breakdown.fields tag slots).faults data ↔
      ∃ slot ∈ slots, ∃ under ∈ slot.faults data,
        location = tagSteps tag ++ [.key slot.name] ++ under.location ∧ kind = under.kind := by
  simp [Breakdown.faults, Breakdown.parts, Fault.below, eq_comm]

theorem mem_faults_elements :
    ⟨location, kind⟩ ∈ (Breakdown.elements element items).faults data ↔
      ∃ (item : Value) (index : Nat), items[index]? = some item ∧
        ∃ under ∈ (element.read item).faults,
          location = [.place index] ++ under.location ∧ kind = under.kind := by
  simp [Breakdown.faults, Breakdown.parts, Fault.below, List.mem_zipIdx_iff_getElem?, eq_comm]

theorem mem_faults_keys :
    ⟨location, kind⟩ ∈ (Breakdown.keys entries).faults data ↔
      ∃ key value, (key, value) ∈ entries ∧ (∀ s, key ≠ .text s) ∧
        location = [key.step, Variant.keyMark] ∧ kind = .notText := by
  simp [Breakdown.faults, Breakdown.parts, Fault.below, mem_keyFaults, eq_comm]

end Parts

theorem mem_faults_iff (plain : IsPlain data) :
    ⟨location, kind⟩ ∈ (form.read data).faults ↔ Blames form data location kind ∨
      ∃ way step inner part, Holds form data way step inner part ∧
        ∃ under ∈ (inner.read part).faults,
          location = way ++ under.location ∧ kind = under.kind := by
  have whole := @faults_eq form data plain
  cases breakdown : form.breakdown data with
  | single =>
    rw [(isRefusal_single plain breakdown).2]
    constructor
    · exact fun refused => .inl (.refused refused)
    · rintro (blamed | ⟨_, _, _, _, holds, -⟩)
      · cases blamed with
        | refused refused => exact refused
        | missing fields => cases breakdown.symm.trans fields
        | key keys => cases breakdown.symm.trans keys
      · cases holds with
        | field fields => cases breakdown.symm.trans fields
        | element elements => cases breakdown.symm.trans elements
  | fields tag slots =>
    rw [whole (by simp [breakdown]), breakdown, mem_faults_fields]
    constructor
    · rintro ⟨slot, among, under, inside, rfl, rfl⟩
      rcases Slot.mem_faults.mp inside with ⟨required, absent, rfl⟩ | ⟨part, found, inside⟩
      · rw [Fault.here, List.append_nil]
        exact .inl (.missing breakdown among required absent)
      · exact .inr ⟨_, _, _, _, .field breakdown among found, under, inside, rfl, rfl⟩
    · rintro (blamed | ⟨_, _, _, _, holds, under, inside, rfl, rfl⟩)
      · cases blamed with
        | refused refused => cases breakdown.symm.trans (refused.breakdown plain)
        | key keys => cases breakdown.symm.trans keys
        | missing fields among required absent =>
          cases breakdown.symm.trans fields
          exact ⟨_, among, _, Slot.mem_faults.mpr (.inl ⟨required, absent, rfl⟩),
            (List.append_nil _).symm, rfl⟩
      · cases holds with
        | element elements => cases breakdown.symm.trans elements
        | field fields among found =>
          cases breakdown.symm.trans fields
          exact ⟨_, among, under, Slot.mem_faults.mpr (.inr ⟨_, found, inside⟩), rfl, rfl⟩
  | elements element items =>
    rw [whole (by simp [breakdown]), breakdown, mem_faults_elements]
    constructor
    · rintro ⟨item, index, found, under, inside, is⟩
      exact .inr ⟨_, _, _, _, .element breakdown found, under, inside, is⟩
    · rintro (blamed | ⟨_, _, _, _, holds, under, inside, is⟩)
      · cases blamed with
        | refused refused => cases breakdown.symm.trans (refused.breakdown plain)
        | key keys => cases breakdown.symm.trans keys
        | missing fields => cases breakdown.symm.trans fields
      · cases holds with
        | field fields => cases breakdown.symm.trans fields
        | element elements found =>
          cases breakdown.symm.trans elements
          exact ⟨_, _, found, under, inside, is⟩
  | keys entries =>
    rw [whole (by simp [breakdown]), breakdown, mem_faults_keys]
    constructor
    · rintro ⟨key, value, inside, noText, rfl, rfl⟩
      exact .inl (.key breakdown inside noText)
    · rintro (blamed | ⟨_, _, _, _, holds, -⟩)
      · cases blamed with
        | refused refused => cases breakdown.symm.trans (refused.breakdown plain)
        | missing fields => cases breakdown.symm.trans fields
        | key keys inside noText =>
          cases breakdown.symm.trans keys
          exact ⟨_, _, inside, noText, rfl, rfl⟩
      · cases holds with
        | field fields => cases breakdown.symm.trans fields
        | element elements => cases breakdown.symm.trans elements

/-! ## Locations -/

/-- Faults below ways none of which goes on from another have different locations, if those below
each way have. -/
theorem nodup_below {parts : List (List Step × List Fault)}
    (each : ∀ part ∈ parts, (part.2.map Fault.location).Nodup)
    (apart : parts.Pairwise fun part other => part.1.length = other.1.length ∧
      (part.1 = other.1 → part.2 = [] ∨ other.2 = [])) :
    ((parts.flatMap fun part => part.2.map (Fault.below part.1)).map Fault.location).Nodup := by
  have moved (part : List Step × List Fault) :
      (part.2.map (Fault.below part.1)).map Fault.location =
        (part.2.map Fault.location).map (part.1 ++ ·) := by
    simp [Fault.below]
  simp only [List.map_flatMap, moved]
  rw [List.nodup_flatMap]
  constructor
  · exact fun part inside => (each part inside).map (List.append_right_injective part.1)
  · refine apart.imp fun {part other} h location left right => ?_
    obtain ⟨long, same⟩ := h
    obtain ⟨below, inside, rfl⟩ := List.mem_map.mp left
    obtain ⟨below', inside', is⟩ := List.mem_map.mp right
    rcases same (List.append_inj_left is long.symm).symm with none | none
    · simp [none] at inside
    · simp [none] at inside'

theorem nodup_slots {tag : Option Tag} {slots : List Slot}
    (fields : form.breakdown data = .fields tag slots) : (slots.map Slot.name).Nodup := by
  unfold Expected.breakdown at fields
  split at fields
  · split at fields
    · split at fields
      · cases fields
      · rename_i tag _ _
        cases fields
        cases tag <;> simp [Tag.slots]
    · cases fields
  all_goals cases fields <;> simp [Property.slots, Variant.slots, DomainClass.slots]

theorem eq_list_of_breakdown {element : Expected} {items : List Value}
    (elements : form.breakdown data = .elements element items) : data = .list items := by
  unfold Expected.breakdown at elements
  split at elements
  · split at elements
    · split at elements <;> cases elements
    · cases elements
  all_goals cases elements <;> rfl

theorem eq_mapping_of_breakdown {entries : List (Value × Value)}
    (keys : form.breakdown data = .keys entries) :
    ∃ readOnly, data = .mapping readOnly entries := by
  unfold Expected.breakdown at keys
  split at keys
  · split at keys
    · split at keys <;> cases keys
    · cases keys
  all_goals cases keys <;> exact ⟨_, rfl⟩

theorem keyFaults_apart {key other : Value} (isKey : IsKey key) (isKey' : IsKey other)
    (differ : key.same other = false) (step : key.step = other.step) :
    keyFaults key = [] ∨ keyFaults other = [] := by
  by_cases isText : ∃ s, key = .text s
  · obtain ⟨s, rfl⟩ := isText
    exact .inl rfl
  by_cases isText' : ∃ s, other = .text s
  · obtain ⟨s, rfl⟩ := isText'
    exact .inr rfl
  have same := isKey.same_of_step_eq isKey' (not_exists.mp isText) (not_exists.mp isText') step
  cases differ.symm.trans same

theorem nodup_faults (plain : IsPlain data) (spoken : HasSpokenKeys data) (form : Expected) :
    ((form.read data).faults.map Fault.location).Nodup := by
  revert spoken form
  refine IsPlain.induction plain fun data plain each items spoken form => ?_
  have whole := @faults_eq form data plain
  cases breakdown : form.breakdown data with
  | single =>
    have few := (isRefusal_single plain breakdown).1
    cases faults : (form.read data).faults with
    | nil => exact List.nodup_nil
    | cons fault rest =>
      obtain rfl : rest = [] := by simpa [faults] using few
      exact List.nodup_singleton _
  | fields tag slots =>
    rw [whole (by simp [breakdown]), breakdown]
    refine nodup_below ?_ ?_
    · simp only [Breakdown.parts, List.forall_mem_map]
      intro slot among
      unfold Slot.faults
      cases found : data.get? slot.name with
      | none => cases slot.isRequired <;> simp
      | some part => exact each _ part found (spoken.get? found) slot.form
    · refine List.pairwise_map.mpr ((List.pairwise_map.mp (nodup_slots breakdown)).imp ?_)
      intro slot other differ
      refine ⟨by simp, fun same => absurd ?_ differ⟩
      simpa using same
  | elements element elements =>
    rw [whole (by simp [breakdown]), breakdown]
    refine nodup_below ?_ ?_
    · simp only [Breakdown.parts, List.forall_mem_map]
      rintro ⟨item, index⟩ among
      obtain rfl := eq_list_of_breakdown breakdown
      have inside := List.fst_mem_of_mem_zipIdx among
      exact items elements rfl item inside (spoken.item inside) element
    · have places := List.pairwise_map.mp (List.nodup_zipIdx_map_snd elements)
      refine List.pairwise_map.mpr (places.imp ?_)
      intro item other differ
      refine ⟨rfl, fun same => absurd ?_ differ⟩
      simpa using same
  | keys entries =>
    rw [whole (by simp [breakdown]), breakdown]
    obtain ⟨readOnly, rfl⟩ := eq_mapping_of_breakdown breakdown
    cases plain with
    | scalar single => cases single
    | object keys values distinct =>
      refine nodup_below ?_ ?_
      · simp only [Breakdown.parts, List.forall_mem_map]
        rintro ⟨key, value⟩ inside
        cases key <;> simp [keyFaults]
      · refine List.pairwise_map.mpr (distinct.imp_of_mem ?_)
        intro entry other inside inside' differ
        have isKey (entry : Value × Value) (inside : entry ∈ entries) : IsKey entry.1 :=
          ⟨keys _ inside, spoken [] _ _ (at?_nil _) _ inside⟩
        refine ⟨rfl, fun same => ?_⟩
        exact keyFaults_apart (isKey _ inside) (isKey _ inside') differ (List.cons.inj same).1

/-! ## Parts by paths -/

/-- A part of data somewhere inside, with the form in which it is read. Its location names the tags
on the way, its path does not. -/
inductive Reaches : Expected → Value → List Step → List Step → Expected → Value → Prop where
  | here (form : Expected) (data : Value) : Reaches form data [] [] form data
  | inside {form inner last : Expected} {data part found : Value} {way location path : List Step}
      {step : Step} (holds : Holds form data way step inner part)
      (further : Reaches inner part location path last found) :
      Reaches form data (way ++ location) (step :: path) last found

theorem Holds.isPlain {way : List Step} {step : Step} (holds : Holds form data way step inner part)
    (plain : IsPlain data) : IsPlain part := by
  cases holds with
  | field fields among found => exact plain.get? found
  | element elements found =>
    obtain rfl := eq_list_of_breakdown elements
    exact plain.items _ (List.mem_of_getElem? found)

theorem Reaches.at? (reaches : Reaches form data location path last found) :
    data.at? path = some found := by
  induction reaches with
  | here form data => exact at?_nil data
  | inside holds further ih =>
    cases holds with
    | field fields among held => rw [at?_key, held, Option.bind_some, ih]
    | element elements held =>
      obtain rfl := eq_list_of_breakdown elements
      rw [at?_place, held, Option.bind_some, ih]

theorem mem_faults_of_reaches (plain : IsPlain data)
    (reaches : Reaches form data location path last found) {here : List Step}
    (blames : Blames last found here kind) :
    ⟨location ++ here, kind⟩ ∈ (form.read data).faults := by
  induction reaches with
  | here => exact (mem_faults_iff plain).mpr (.inl blames)
  | inside holds further ih =>
    have inside := ih (holds.isPlain plain) blames
    rw [List.append_assoc]
    exact (mem_faults_iff plain).mpr (.inr ⟨_, _, _, _, holds, _, inside, rfl, rfl⟩)

theorem mem_faults_iff_reaches (plain : IsPlain data) (form : Expected) (location : List Step)
    (kind : FaultKind) :
    ⟨location, kind⟩ ∈ (form.read data).faults ↔
      ∃ way path last found here, Reaches form data way path last found ∧
        Blames last found here kind ∧ location = way ++ here := by
  constructor
  · revert form location
    refine IsPlain.induction plain fun data plain each items form location reported => ?_
    rcases (mem_faults_iff plain).mp reported with
      blames | ⟨way, step, inner, part, holds, under, below, rfl, rfl⟩
    · exact ⟨[], [], form, data, location, .here form data, blames, rfl⟩
    · have further : ∃ way path last found here, Reaches inner part way path last found ∧
          Blames last found here under.kind ∧ under.location = way ++ here := by
        cases holds with
        | field fields among held => exact each _ part held _ _ below
        | element elements held =>
          exact items _ (eq_list_of_breakdown elements) part (List.mem_of_getElem? held) _ _ below
      obtain ⟨way', path, last, found, here, reaches, blames, is⟩ := further
      refine ⟨way ++ way', step :: path, last, found, here, .inside holds reaches, blames, ?_⟩
      rw [is, List.append_assoc]
  · rintro ⟨way, path, last, found, here, reaches, blames, rfl⟩
    exact mem_faults_of_reaches plain reaches blames

/-! ## Reports -/

structure IsReport (form : Expected) (data : Value) (outcome : Checked form.Result) : Prop where
  accepts : outcome.faults = [] ↔ ∃ result, outcome = .ok result
  single : form.breakdown data = .single → outcome.faults.length ≤ 1
  composed : form.breakdown data ≠ .single → outcome.faults = (form.breakdown data).faults data
  /-- The steps to keys that cannot be displayed are all the same. -/
  distinct : HasSpokenKeys data → (outcome.faults.map Fault.location).Nodup
  located : ∀ location kind, ⟨location, kind⟩ ∈ outcome.faults ↔
    ∃ way path last found here, Reaches form data way path last found ∧
      data.at? path = some found ∧ Blames last found here kind ∧ location = way ++ here

theorem isReport_read (plain : IsPlain data) (form : Expected) :
    IsReport form data (form.read data) where
  accepts := (isSound_read plain form).faults_eq_nil_iff
  single breakdown := (isRefusal_single plain breakdown).1
  composed := faults_eq plain
  distinct spoken := nodup_faults plain spoken form
  located location kind := by
    rw [mem_faults_iff_reaches plain]
    constructor
    · rintro ⟨way, path, last, found, here, reaches, blames, is⟩
      exact ⟨way, path, last, found, here, reaches, reaches.at?, blames, is⟩
    · rintro ⟨way, path, last, found, here, reaches, -, blames, is⟩
      exact ⟨way, path, last, found, here, reaches, blames, is⟩

/-- Reading plain data as a domain class or as a descriptor reports every fault and nothing else,
and so does reading each of their parts. -/
theorem read_reports_faults (plain : IsPlain data) :
    IsReport .domainClass data (DomainClass.read data) ∧
      IsReport (.descriptor .outermost) data (Descriptor.read data) ∧
      ∀ form : Expected, IsReport form data (form.read data) :=
  ⟨isReport_read plain .domainClass, isReport_read plain (.descriptor .outermost),
    isReport_read plain⟩

theorem read_reports_two_faults :
    IsPlain (.dict [(.text "name", .null), (.text "properties",
        .list [.dict [(.text "name", .text "speed"), (.text "type", .text "Int")]])]) ∧
      IsReport .domainClass (.dict [(.text "name", .null), (.text "properties",
          .list [.dict [(.text "name", .text "speed"), (.text "type", .text "Int")]])])
        (.error [⟨[.key "name"], .notText⟩,
          ⟨[.key "properties", .place 0, .key "type"], .notTagged⟩]) := by
  have plain : IsPlain (.dict [(.text "name", .null), (.text "properties",
      .list [.dict [(.text "name", .text "speed"), (.text "type", .text "Int")]])]) := by
    apply IsPlain.object
    · simpa using ⟨.text _, .text _⟩
    · simp only [List.forall_mem_cons]
      refine ⟨.scalar .null, .list ?_, by simp⟩
      simp only [List.forall_mem_cons]
      refine ⟨.object ?_ ?_ ?_, by simp⟩
      · simpa using ⟨.text _, .text _⟩
      · simpa using ⟨.scalar (.text _), .scalar (.text _)⟩
      · simp [HasDistinctKeys, same_text]
    · simp [HasDistinctKeys, same_text]
  exact ⟨plain, (read_reports_faults plain).1⟩

theorem at?_nested (k n : Nat) : (nested (k + n)).toValue.at? (List.replicate k (.key "element")) =
    some (nested n).toValue := by
  induction k with
  | zero =>
    rw [Nat.zero_add]
    exact at?_nil _
  | succ k ih =>
    rw [Nat.add_right_comm, List.replicate_succ, at?_key]
    exact ih

def twoKeys (m n : Int) : Value :=
  .dict [(.text "name", .text "A"), (.text "variants", .list [.dict [(.text "name", .text "a"),
    (.text "ordinal", .int 0), (.text "values", .dict [(.int m, .null), (.int n, .null)])]])]

def keyFault (step : Step) : Fault :=
  ⟨[.key "variants", .place 0, .key "values", step, Variant.keyMark], .notText⟩

theorem faults_twoKeys (m n : Int) : (DomainClass.read (twoKeys m n)).faults =
    [keyFault (Value.int m).step, keyFault (Value.int n).step] :=
  rfl

/-- What stands too deep is reported though it would be accepted elsewhere. Faults of keys that
cannot be displayed have one location. -/
theorem faults_astray :
    ((Descriptor.read (nested 260).toValue).faults = [⟨wayInside 254, .tooDeep⟩] ∧
      (nested 260).toValue.at? (List.replicate 254 (.key "element")) = some (nested 6).toValue ∧
      Descriptor.read (nested 6).toValue = .ok (nested 6)) ∧
    (DomainClass.read (twoKeys (10 ^ digitLimit) (-10 ^ digitLimit))).faults =
      List.replicate 2 (keyFault (.key "<unprintable int object>")) := by
  refine ⟨⟨?_, at?_nested 254 6, ?_⟩, ?_⟩
  · exact congrArg Checked.faults (readAt_nested 5 (rfl : Guard.outermost.reach .list = 1) rfl)
  · exact (read_eq_ok_iff (isPlain_toValue _)).mpr
      ⟨spells_toValue _, fits_outermost_of_levels_le (by decide)⟩
  · have long (n : Int) (same : n.natAbs = 10 ^ digitLimit) :
        (Value.int n).step = .key "<unprintable int object>" := step_of_long same.ge
    rw [faults_twoKeys, long _ (by simp [Int.natAbs_pow]), long _ (by simp [Int.natAbs_pow])]
    rfl

end EnumTables
