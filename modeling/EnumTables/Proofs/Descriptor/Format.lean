import EnumTables.Descriptor.Reading
import EnumTables.Proofs.Fault
import EnumTables.Proofs.Value.Plain

/-!
# The format of descriptors

Data spell a descriptor (`Spells`) if they are an object that carries the tag of the descriptor, and
whose entries spell its parts; the name of a position and the arguments of a generic type have
defaults, and other entries are of no account. Plain data are read as a descriptor iff they spell
it and it does not stand too deep (`readAt_eq_ok_iff`). A descriptor as data spells itself
(`spells_toValue`), and data that spell it become the same with defaults filled in and other entries
dropped at every level (`filled_of_spells`).

How deep a descriptor stands depends on the kinds around it (`Fits`). Descriptors of 251 levels
always fit, and those of more than 254 never do (`fits_of_levels_le`, `levels_le_of_fits`).
-/

namespace EnumTables

open Checked (field optionalField)

theorem Primitive.ofName?_eq_some {name : String} {kind : Primitive} :
    Primitive.ofName? name = some kind ↔ name = kind.name := by
  constructor
  · intro found
    have same := List.find?_some found
    exact (of_decide_eq_true same).symm
  · rintro rfl
    exact Primitive.ofName?_name kind

theorem Descriptor.Tag.ofName?_eq_some {name : String} {tag : Tag} :
    Tag.ofName? name = some tag ↔ name = tag.name := by
  constructor
  · intro found
    have same := List.find?_some found
    exact (of_decide_eq_true same).symm
  · rintro rfl
    cases tag <;> decide

open Value

namespace Descriptor

variable {guard : Guard} {data : Value} {entries : List (Value × Value)}

/-! ## Reading by entries -/

def Part.of (value : Value) : Part :=
  ⟨value, fun guard => readAt guard value, fun guard => readSequence guard value⟩

theorem lookup_readParts (entries : List (Value × Value)) (name : String) :
    (readParts entries).lookup name = ((named entries).lookup name).map Part.of := by
  induction entries with
  | nil => rfl
  | cons entry rest ih =>
    obtain ⟨key, value⟩ := entry
    cases key with
    | text other =>
      rw [readParts, named_cons_text, List.lookup_cons, List.lookup_cons, ih]
      cases name == other <;> rfl
    | _ => exact ih

theorem field_readParts {α : Type} {name : String} {read : Part → Checked α} {a : α} :
    field (readParts entries) name read = .ok a ↔
      ∃ part, (named entries).lookup name = some part ∧ read (Part.of part) = .ok a := by
  rw [Checked.field_eq_ok, lookup_readParts]
  simp

theorem optionalField_readParts {α : Type} {name : String} {default a : α}
    {read : Part → Checked α} :
    optionalField (readParts entries) name default read = .ok a ↔
      (∃ part, (named entries).lookup name = some part ∧ read (Part.of part) = .ok a) ∨
        (named entries).lookup name = none ∧ default = a := by
  rw [Checked.optionalField_eq_ok, lookup_readParts]
  simp

theorem readPrimitive_eq_ok {part : Part} {kind : Primitive} (plain : IsPlain part.value) :
    readPrimitive part = .ok kind ↔ part.value = .text kind.name := by
  have spelled : part.value.asText?.bind Primitive.ofName? = some kind ↔
      part.value = .text kind.name := by
    simp only [Option.bind_eq_some_iff, plain.asText?, Primitive.ofName?_eq_some]
    constructor
    · rintro ⟨_, is, rfl⟩
      exact is
    · intro is
      exact ⟨_, is, rfl⟩
  unfold readPrimitive
  rw [← spelled]
  cases part.value.asText?.bind Primitive.ofName? <;> simp [Checked.fault]

theorem ofTag_eq_ok {parts : List (String × Part)} {tag : Tag} {d : Descriptor}
    (h : ofTag guard parts tag = .ok d) : d.tag = tag := by
  cases tag
  case pair | map | generic =>
    obtain ⟨_, _, -, -, rfl⟩ := Checked.both_eq_ok.mp h
    rfl
  all_goals
    obtain ⟨_, -, rfl⟩ := Checked.map_eq_ok.mp h
    rfl

def Carries (data : Value) (tag : Tag) : Prop :=
  data.get? "kind" = some (.text tag.name)

def tagOf? (entries : List (Value × Value)) : Option Tag :=
  (((named entries).lookup "kind").bind asText?).bind Tag.ofName?

theorem tagOf?_eq_some {tag : Tag} (plain : IsPlain (.dict entries)) :
    tagOf? entries = some tag ↔ Carries (.dict entries) tag := by
  unfold tagOf?
  constructor
  · intro tagged
    obtain ⟨name, found, known⟩ := Option.bind_eq_some_iff.mp tagged
    obtain ⟨part, found, isText⟩ := Option.bind_eq_some_iff.mp found
    rw [Tag.ofName?_eq_some.mp known, (plain.get? found).asText?] at isText
    exact found.trans (congrArg some isText)
  · intro carries
    have found : (named entries).lookup "kind" = some (.text tag.name) := carries
    rw [found]
    exact Tag.ofName?_eq_some.mpr rfl

theorem readAt_of_tag {readOnly : Bool} {tag : Tag} (tagged : tagOf? entries = some tag) :
    readAt guard (.mapping readOnly entries) = Checked.within (.key tag.name)
      (if guard.stops tag then Checked.fault .tooDeep
        else ofTag (guard.below tag) (readParts entries) tag) := by
  unfold readAt ofParts
  rw [lookup_readParts]
  cases found : (named entries).lookup "kind" with
  | none => simp [tagOf?, found] at tagged
  | some value =>
    have tagged : value.asText?.bind Tag.ofName? = some tag := by simpa [tagOf?, found] using tagged
    simp [Part.of, tagged]

theorem readAt_untagged {readOnly : Bool} (untagged : tagOf? entries = none) :
    readAt guard (.mapping readOnly entries) =
      .fault (if (named entries).lookup "kind" = none then .tagMissing else .tagUnknown) := by
  unfold readAt ofParts
  rw [lookup_readParts]
  cases found : (named entries).lookup "kind" with
  | none => simp
  | some value =>
    have untagged : value.asText?.bind Tag.ofName? = none := by
      simpa [tagOf?, found] using untagged
    simp [Part.of, untagged]

theorem readAt_eq_ok (plain : IsPlain (.dict entries)) {d : Descriptor} :
    readAt guard (.dict entries) = .ok d ↔
      guard.stops d.tag = false ∧ Carries (.dict entries) d.tag ∧
        ofTag (guard.below d.tag) (readParts entries) d.tag = .ok d := by
  rw [← tagOf?_eq_some plain]
  cases tagged : tagOf? entries with
  | none => simp [readAt_untagged tagged, Checked.fault]
  | some tag =>
    rw [readAt_of_tag tagged, Checked.within_eq_ok, Option.some_inj]
    split
    · next stops =>
      refine iff_of_false (fun failed => by cases failed) ?_
      rintro ⟨free, rfl, -⟩
      cases free.symm.trans stops
    · next free =>
      constructor
      · intro h
        obtain rfl := ofTag_eq_ok h
        exact ⟨Bool.eq_false_of_not_eq_true free, rfl, h⟩
      · rintro ⟨-, rfl, h⟩
        exact h

/-! ## Depth -/

mutual

/-- A descriptor and all its parts stand above the limit. -/
def Fits (guard : Guard) : Descriptor → Prop
  | .primitive _ => guard.stops .primitive = false
  | .enumeration _ => guard.stops .enumeration = false
  | .position _ => guard.stops .position = false
  | .list element => guard.stops .list = false ∧ Fits (guard.below .list) element
  | .pair first second =>
    guard.stops .pair = false ∧ Fits (guard.below .pair) first ∧ Fits (guard.below .pair) second
  | .map key value =>
    guard.stops .map = false ∧ Fits (guard.below .map) key ∧ Fits (guard.below .map) value
  | .generic _ arguments => guard.stops .generic = false ∧ FitAll (guard.below .generic) arguments
  | .unclassified _ => guard.stops .unclassified = false

def FitAll (guard : Guard) : List Descriptor → Prop
  | [] => True
  | d :: rest => Fits guard d ∧ FitAll guard rest

end

mutual

def levels : Descriptor → Nat
  | .primitive _ | .enumeration _ | .position _ | .unclassified _ => 1
  | .list element => levels element + 1
  | .pair first second => max (levels first) (levels second) + 1
  | .map key value => max (levels key) (levels value) + 1
  | .generic _ arguments => levelsOfAll arguments + 1

def levelsOfAll : List Descriptor → Nat
  | [] => 0
  | d :: rest => max (levels d) (levelsOfAll rest)

end

namespace Guard

/-- How many descriptors inside may still count for two. -/
def spare (guard : Guard) : Nat :=
  guard.first.getD 3

theorem count_le_reach (guard : Guard) (tag : Tag) : guard.count ≤ guard.reach tag := by
  unfold reach
  split
  · split <;> omega
  · exact le_rfl

theorem count_below (guard : Guard) (tag : Tag) :
    guard.count + 1 ≤ (guard.below tag).count :=
  Nat.add_le_add_right (guard.count_le_reach tag) 1

theorem reach_spare_le (guard : Guard) (tag : Tag) :
    guard.reach tag + (guard.below tag).spare ≤ guard.count + guard.spare := by
  obtain ⟨count, first⟩ := guard
  cases first <;> cases tag <;> simp [reach, below, spare, Tag.rank?, Option.merge] <;>
    split <;> omega

theorem stops_of_levels {d : Descriptor} {tag : Tag}
    (fits : guard.count + guard.spare + d.levels ≤ limit + 1) (positive : 0 < d.levels) :
    guard.stops tag = false := by
  have reach := guard.reach_spare_le tag
  simp only [stops, decide_eq_false_iff_not]
  omega

end Guard

theorem levels_pos (d : Descriptor) : 0 < d.levels := by
  cases d <;> simp [levels]

theorem count_le_of_free {tag : Tag} (free : guard.stops tag = false) :
    guard.count ≤ Guard.limit := by
  have reach := guard.count_le_reach tag
  simp only [Guard.stops, decide_eq_false_iff_not] at free
  omega

mutual

theorem levels_le_of_fits (d : Descriptor) {guard : Guard} (fits : Fits guard d) :
    guard.count + d.levels ≤ Guard.limit + 1 := by
  cases d with
  | list element =>
    have inner := levels_le_of_fits element fits.2
    have below := guard.count_below .list
    rw [levels]
    omega
  | pair first second =>
    have left := levels_le_of_fits first fits.2.1
    have right := levels_le_of_fits second fits.2.2
    have below := guard.count_below .pair
    rw [levels]
    omega
  | map key value =>
    have left := levels_le_of_fits key fits.2.1
    have right := levels_le_of_fits value fits.2.2
    have below := guard.count_below .map
    rw [levels]
    omega
  | generic origin arguments =>
    have inner := levels_le_of_fitAll arguments fits.2
    have below := guard.count_below .generic
    have here := count_le_of_free fits.1
    rw [levels]
    omega
  | _ => exact Nat.add_le_add_right (count_le_of_free fits) 1

theorem levels_le_of_fitAll (ds : List Descriptor) {guard : Guard} (fits : FitAll guard ds) :
    levelsOfAll ds = 0 ∨ guard.count + levelsOfAll ds ≤ Guard.limit + 1 := by
  cases ds with
  | nil => exact .inl rfl
  | cons d ds =>
    have first := levels_le_of_fits d fits.1
    have others := levels_le_of_fitAll ds fits.2
    rw [levelsOfAll]
    omega

end

mutual

theorem fits_of_levels_le (d : Descriptor) {guard : Guard}
    (few : guard.count + guard.spare + d.levels ≤ Guard.limit + 1) : Fits guard d := by
  have free (tag : Tag) : guard.stops tag = false := Guard.stops_of_levels few d.levels_pos
  have below (tag : Tag) : (guard.below tag).count + (guard.below tag).spare ≤
      guard.count + guard.spare + 1 := by
    have reach := guard.reach_spare_le tag
    have count : (guard.below tag).count = guard.reach tag + 1 := rfl
    omega
  cases d with
  | list element =>
    have below := below .list
    rw [levels] at few
    exact ⟨free _, fits_of_levels_le element (by omega)⟩
  | pair first second =>
    have below := below .pair
    rw [levels] at few
    exact ⟨free _, fits_of_levels_le first (by omega), fits_of_levels_le second (by omega)⟩
  | map key value =>
    have below := below .map
    rw [levels] at few
    exact ⟨free _, fits_of_levels_le key (by omega), fits_of_levels_le value (by omega)⟩
  | generic origin arguments =>
    have below := below .generic
    rw [levels] at few
    exact ⟨free _, fitAll_of_levels_le arguments (by omega)⟩
  | _ => exact free _

theorem fitAll_of_levels_le (ds : List Descriptor) {guard : Guard}
    (few : guard.count + guard.spare + levelsOfAll ds ≤ Guard.limit + 1) : FitAll guard ds := by
  cases ds with
  | nil => trivial
  | cons d ds =>
    rw [levelsOfAll] at few
    exact ⟨fits_of_levels_le d (by omega), fitAll_of_levels_le ds (by omega)⟩

end

/-! ## Spelling -/

mutual

def Spells (data : Value) : Descriptor → Prop
  | .primitive kind => Carries data .primitive ∧ data.get? "primitive" = some (.text kind.name)
  | .enumeration name => Carries data .enumeration ∧ data.get? "name" = some (.text name)
  | .position name =>
    Carries data .position ∧ (data.get? "name").getD (.text defaultPositionName) = .text name
  | .list element =>
    Carries data .list ∧ ∃ part, data.get? "element" = some part ∧ Spells part element
  | .pair first second =>
    Carries data .pair ∧ (∃ part, data.get? "first" = some part ∧ Spells part first) ∧
      ∃ part, data.get? "second" = some part ∧ Spells part second
  | .map key value =>
    Carries data .map ∧ (∃ part, data.get? "key" = some part ∧ Spells part key) ∧
      ∃ part, data.get? "value" = some part ∧ Spells part value
  | .generic origin arguments =>
    Carries data .generic ∧ data.get? "origin" = some (.text origin) ∧
      ∃ items, (data.get? "arguments").getD (.list []) = .list items ∧ SpellAll items arguments
  | .unclassified name => Carries data .unclassified ∧ data.get? "name" = some (.text name)

def SpellAll : List Value → List Descriptor → Prop
  | [], [] => True
  | item :: items, d :: rest => Spells item d ∧ SpellAll items rest
  | _, _ => False

end

theorem Spells.carries {d : Descriptor} (h : Spells data d) : Carries data d.tag := by
  cases d <;> exact h.1

/-! ## Fields -/

section Fields

variable (name : String)

theorem textField_eq_ok (plain : IsPlain (.dict entries)) {s : String} :
    field (readParts entries) name readText = .ok s ↔
      (Value.dict entries).get? name = some (.text s) := by
  rw [field_readParts]
  constructor
  · rintro ⟨part, found, read⟩
    rw [← (plain.get? found).readText_eq_ok.mp read]
    exact found
  · intro found
    exact ⟨_, found, (plain.get? found).readText_eq_ok.mpr rfl⟩

theorem primitiveField_eq_ok (plain : IsPlain (.dict entries)) {kind : Primitive} :
    field (readParts entries) name readPrimitive = .ok kind ↔
      (Value.dict entries).get? name = some (.text kind.name) := by
  have each {part : Value} (found : (named entries).lookup name = some part) :
      readPrimitive (Part.of part) = .ok kind ↔ part = .text kind.name :=
    readPrimitive_eq_ok (plain.get? found)
  rw [field_readParts]
  constructor
  · rintro ⟨part, found, read⟩
    rw [← (each found).mp read]
    exact found
  · intro found
    exact ⟨_, found, (each found).mpr rfl⟩

theorem optionalTextField_eq_ok (plain : IsPlain (.dict entries)) {default s : String} :
    optionalField (readParts entries) name default readText = .ok s ↔
      ((Value.dict entries).get? name).getD (.text default) = .text s := by
  rw [optionalField_readParts]
  change _ ↔ ((named entries).lookup name).getD _ = _
  cases found : (named entries).lookup name with
  | none => simp
  | some part => simp [readText, Part.of, (plain.get? found).readText_eq_ok]

theorem descriptorField_eq_ok {d : Descriptor}
    (each : ∀ part, (Value.dict entries).get? name = some part →
      (readAt guard part = .ok d ↔ Spells part d ∧ Fits guard d)) :
    field (readParts entries) name (Part.descriptor · guard) = .ok d ↔
      (∃ part, (Value.dict entries).get? name = some part ∧ Spells part d) ∧ Fits guard d := by
  rw [field_readParts]
  constructor
  · rintro ⟨part, found, read⟩
    obtain ⟨spelled, fits⟩ := (each part found).mp read
    exact ⟨⟨part, found, spelled⟩, fits⟩
  · rintro ⟨⟨part, found, spelled⟩, fits⟩
    exact ⟨part, found, (each part found).mpr ⟨spelled, fits⟩⟩

theorem sequenceField_eq_ok (plain : IsPlain (.dict entries)) {ds : List Descriptor}
    (each : ∀ items, (∀ item ∈ items, IsPlain item) →
      (readItems guard items 0 = .ok ds ↔ SpellAll items ds ∧ FitAll guard ds)) :
    optionalField (readParts entries) name [] (Part.sequence · guard) = .ok ds ↔
      (∃ items, ((Value.dict entries).get? name).getD (.list []) = .list items ∧
        SpellAll items ds) ∧ FitAll guard ds := by
  rw [optionalField_readParts]
  change _ ↔ (∃ items, ((named entries).lookup name).getD _ = _ ∧ _) ∧ _
  cases found : (named entries).lookup name with
  | none =>
    have none := each [] (by simp)
    simpa [readItems] using none
  | some part =>
    have inner := plain.get? found
    cases inner with
    | scalar single => cases single <;> simp [Part.of, readSequence, Checked.fault]
    | list items => simpa [Part.of, readSequence] using each _ items
    | object keys values distinct => simp [Part.of, readSequence, Checked.fault]

end Fields

/-! ## Reading -/

theorem readAt_of_not_object (plain : IsPlain data) (other : ∀ entries, data ≠ .dict entries)
    (guard : Guard) (d : Descriptor) : readAt guard data ≠ .ok d ∧ ¬ Spells data d := by
  have untagged : data.get? "kind" = none ∧ readAt guard data = .fault .notTagged := by
    cases plain with
    | scalar single => cases single <;> simp [get?, readAt]
    | list each => simp [get?, readAt]
    | object keys values distinct => exact absurd rfl (other _)
  constructor
  · intro read
    cases untagged.2.symm.trans read
  · intro spelled
    cases untagged.1.symm.trans spelled.carries

mutual

theorem readAt_eq_ok_iff (d : Descriptor) {data : Value} (plain : IsPlain data) (guard : Guard) :
    readAt guard data = .ok d ↔ Spells data d ∧ Fits guard d := by
  by_cases object : ∃ entries, data = .dict entries
  · obtain ⟨entries, rfl⟩ := object
    rw [readAt_eq_ok plain]
    cases d with
    | primitive kind =>
      simp only [ofTag, tag, Spells, Fits, Checked.map_eq_ok, primitiveField_eq_ok _ plain,
        primitive.injEq, exists_eq_right]
      tauto
    | enumeration name =>
      simp only [ofTag, tag, Spells, Fits, Checked.map_eq_ok, textField_eq_ok _ plain,
        enumeration.injEq, exists_eq_right]
      tauto
    | position name =>
      simp only [ofTag, tag, Spells, Fits, Checked.map_eq_ok, optionalTextField_eq_ok _ plain,
        position.injEq, exists_eq_right]
      tauto
    | list element =>
      have inner := descriptorField_eq_ok "element" fun part found =>
        readAt_eq_ok_iff element (plain.get? found) (guard.below .list)
      simp only [ofTag, tag, Spells, Fits, Checked.map_eq_ok, inner, list.injEq, exists_eq_right]
      tauto
    | pair first second =>
      have left := descriptorField_eq_ok "first" fun part found =>
        readAt_eq_ok_iff first (plain.get? found) (guard.below .pair)
      have right := descriptorField_eq_ok "second" fun part found =>
        readAt_eq_ok_iff second (plain.get? found) (guard.below .pair)
      simp only [ofTag, tag, Spells, Fits, Checked.both_eq_ok, pair.injEq, exists_and_left,
        exists_eq_right_right, left, right]
      tauto
    | map key value =>
      have left := descriptorField_eq_ok "key" fun part found =>
        readAt_eq_ok_iff key (plain.get? found) (guard.below .map)
      have right := descriptorField_eq_ok "value" fun part found =>
        readAt_eq_ok_iff value (plain.get? found) (guard.below .map)
      simp only [ofTag, tag, Spells, Fits, Checked.both_eq_ok, map.injEq, exists_and_left,
        exists_eq_right_right, left, right]
      tauto
    | generic origin arguments =>
      have inner := sequenceField_eq_ok "arguments" plain fun items plain =>
        readItems_eq_ok_iff arguments plain (guard.below .generic) 0
      simp only [ofTag, tag, Spells, Fits, Checked.both_eq_ok, generic.injEq, exists_and_left,
        exists_eq_right_right, textField_eq_ok _ plain, inner]
      tauto
    | unclassified name =>
      simp only [ofTag, tag, Spells, Fits, Checked.map_eq_ok, textField_eq_ok _ plain,
        unclassified.injEq, exists_eq_right]
      tauto
  · have other := readAt_of_not_object plain (not_exists.mp object) guard d
    exact iff_of_false other.1 fun h => other.2 h.1

theorem readItems_eq_ok_iff (ds : List Descriptor) {items : List Value}
    (plain : ∀ item ∈ items, IsPlain item) (guard : Guard) (index : Int) :
    readItems guard items index = .ok ds ↔ SpellAll items ds ∧ FitAll guard ds := by
  cases ds with
  | nil => cases items <;> simp [readItems, Checked.both_eq_ok, SpellAll, FitAll]
  | cons d ds =>
    cases items with
    | nil => simp [readItems, SpellAll]
    | cons item items =>
      obtain ⟨first, others⟩ := List.forall_mem_cons.mp plain
      have left := readAt_eq_ok_iff d first guard
      have right := readItems_eq_ok_iff ds others guard (index + 1)
      simp only [readItems, Checked.both_eq_ok, Checked.within_eq_ok, List.cons.injEq,
        exists_and_left, exists_eq_right_right, SpellAll, FitAll, left, right]
      tauto

end

/-! ## Descriptors as data -/

open toValue (tagged)

theorem isPlain_tagged (tag : Tag) {fields : List (String × Value)}
    (names : ("kind" :: fields.map Prod.fst).Nodup) (values : ∀ field ∈ fields, IsPlain field.2) :
    IsPlain (tagged tag fields) := by
  have names : (("kind", Value.text tag.name) :: fields).Pairwise fun a b => a.1 ≠ b.1 :=
    List.pairwise_map.mp names
  apply IsPlain.object
  · simp only [List.forall_mem_map]
    exact fun field _ => .text field.1
  · simp only [List.forall_mem_map, List.forall_mem_cons]
    exact ⟨.scalar (.text _), values⟩
  · exact List.pairwise_map.mpr (names.imp fun differ => by simpa [same_text] using differ)

mutual

theorem isPlain_toValue (d : Descriptor) : IsPlain d.toValue := by
  cases d with
  | primitive kind => exact isPlain_tagged _ (by simp) (by simpa using .scalar (.text _))
  | enumeration name => exact isPlain_tagged _ (by simp) (by simpa using .scalar (.text _))
  | position name => exact isPlain_tagged _ (by simp) (by simpa using .scalar (.text _))
  | list element => exact isPlain_tagged _ (by simp) (by simpa using isPlain_toValue element)
  | pair first second =>
    exact isPlain_tagged _ (by simp)
      (by simpa using ⟨isPlain_toValue first, isPlain_toValue second⟩)
  | map key value =>
    exact isPlain_tagged _ (by simp) (by simpa using ⟨isPlain_toValue key, isPlain_toValue value⟩)
  | generic origin arguments =>
    exact isPlain_tagged _ (by simp)
      (by simpa using ⟨.scalar (.text _), .list (isPlain_toValues arguments)⟩)
  | unclassified name => exact isPlain_tagged _ (by simp) (by simpa using .scalar (.text _))

theorem isPlain_toValues (ds : List Descriptor) : ∀ item ∈ toValues ds, IsPlain item := by
  cases ds with
  | nil => simp [toValues]
  | cons d ds => exact List.forall_mem_cons.mpr ⟨isPlain_toValue d, isPlain_toValues ds⟩

end

mutual

theorem spells_toValue (d : Descriptor) : Spells d.toValue d := by
  cases d with
  | list element => exact ⟨rfl, _, rfl, spells_toValue element⟩
  | pair first second =>
    exact ⟨rfl, ⟨_, rfl, spells_toValue first⟩, _, rfl, spells_toValue second⟩
  | map key value => exact ⟨rfl, ⟨_, rfl, spells_toValue key⟩, _, rfl, spells_toValue value⟩
  | generic origin arguments => exact ⟨rfl, rfl, _, rfl, spellAll_toValues arguments⟩
  | _ => exact ⟨rfl, rfl⟩

theorem spellAll_toValues (ds : List Descriptor) : SpellAll (toValues ds) ds := by
  cases ds with
  | nil => trivial
  | cons d ds => exact ⟨spells_toValue d, spellAll_toValues ds⟩

end

/-! ## Defaults -/

def Tag.fields : Tag → List (String × Option Value)
  | .primitive => [("primitive", none)]
  | .enumeration | .unclassified => [("name", none)]
  | .position => [("name", some (.text defaultPositionName))]
  | .list => [("element", none)]
  | .pair => [("first", none), ("second", none)]
  | .map => [("key", none), ("value", none)]
  | .generic => [("origin", none), ("arguments", some (.list []))]

mutual

/-- Data in which every object with a tag has the entries that go with it and no others: defaults
stand in for those that are absent. -/
def filled : Value → Value
  | .mapping readOnly entries =>
    match (named entries).lookup "kind" with
    | some (.text kind) => match Tag.ofName? kind with
      | some tag => tagged tag (tag.fields.filterMap fun entry =>
          (((filledEntries entries).lookup entry.1).or entry.2).map fun value => (entry.1, value))
      | none => .mapping readOnly entries
    | _ => .mapping readOnly entries
  | .collection kind items => .collection kind (filledAll items)
  | value => value

def filledAll : List Value → List Value
  | [] => []
  | item :: rest => filled item :: filledAll rest

def filledEntries : List (Value × Value) → List (String × Value)
  | [] => []
  | (.text name, value) :: rest => (name, filled value) :: filledEntries rest
  | _ :: rest => filledEntries rest

end

theorem lookup_filledEntries (entries : List (Value × Value)) (name : String) :
    (filledEntries entries).lookup name = ((named entries).lookup name).map filled := by
  induction entries with
  | nil => rfl
  | cons entry rest ih =>
    obtain ⟨key, value⟩ := entry
    cases key with
    | text other =>
      rw [filledEntries, named_cons_text, List.lookup_cons, List.lookup_cons, ih]
      cases name == other <;> rfl
    | _ => exact ih

theorem filled_of_carries {tag : Tag} (carries : Carries data tag) :
    filled data = tagged tag (tag.fields.filterMap fun entry =>
      (((data.get? entry.1).map filled).or entry.2).map fun value => (entry.1, value)) := by
  cases data with
  | mapping readOnly entries =>
    have found : (named entries).lookup "kind" = some (.text tag.name) := carries
    have known : Tag.ofName? tag.name = some tag := Tag.ofName?_eq_some.mpr rfl
    simp only [filled, found, known, lookup_filledEntries]
    rfl
  | _ => cases carries

mutual

theorem filled_of_spells (d : Descriptor) {data : Value} (h : Spells data d) :
    filled data = d.toValue := by
  rw [filled_of_carries h.carries]
  cases d with
  | list element =>
    obtain ⟨-, part, found, spelled⟩ := h
    simp [tag, Tag.fields, toValue, found, filled_of_spells element spelled]
  | pair first second =>
    obtain ⟨-, ⟨part, found, spelled⟩, part', found', spelled'⟩ := h
    simp [tag, Tag.fields, toValue, found, found', filled_of_spells first spelled,
      filled_of_spells second spelled']
  | map key value =>
    obtain ⟨-, ⟨part, found, spelled⟩, part', found', spelled'⟩ := h
    simp [tag, Tag.fields, toValue, found, found', filled_of_spells key spelled,
      filled_of_spells value spelled']
  | generic origin arguments =>
    obtain ⟨-, found, items, are, spelled⟩ := h
    have inner := filledAll_of_spellAll arguments spelled
    have given : ((data.get? "arguments").map filled).getD (.list []) =
        .list (toValues arguments) := by
      have kept : filled (.list items) = .list (toValues arguments) := by rw [← inner, filled]
      rw [← kept, ← are]
      cases data.get? "arguments" <;> simp [filled, filledAll]
    simp [tag, Tag.fields, toValue, found, filled, given]
  | position name =>
    obtain ⟨-, is⟩ := h
    cases present : data.get? "name" <;> simp_all [tag, Tag.fields, toValue, filled]
  | _ =>
    obtain ⟨-, found⟩ := h
    simp [tag, Tag.fields, toValue, found, filled]

theorem filledAll_of_spellAll (ds : List Descriptor) {items : List Value}
    (h : SpellAll items ds) : filledAll items = toValues ds := by
  cases ds with
  | nil =>
    cases items with
    | nil => rfl
    | cons item items => exact h.elim
  | cons d ds =>
    cases items with
    | nil => exact h.elim
    | cons item items =>
      rw [filledAll, toValues, filled_of_spells d h.1, filledAll_of_spellAll ds h.2]

end

/-! ## The format as a whole -/

theorem read_eq_ok_iff (plain : IsPlain data) {d : Descriptor} :
    read data = .ok d ↔ Spells data d ∧ Fits .outermost d :=
  readAt_eq_ok_iff d plain .outermost

theorem fits_outermost_of_levels_le {d : Descriptor} (few : d.levels + 3 ≤ Guard.limit) :
    Fits .outermost d := by
  have spare : Guard.outermost.count + Guard.outermost.spare = 4 := rfl
  exact fits_of_levels_le d (by omega)

/-- Reading and writing descriptors are inverse over the whole format. A descriptor is read back
from its data iff it does not stand too deep anywhere, as none does whose levels are three fewer
than the limit, and each does whose levels are more. Plain data are read as the descriptor that they
spell, within the same bound; then its data are the given ones with defaults filled in and all else
dropped, and reading these changes nothing. -/
theorem read_toValue_inverse :
    (∀ d : Descriptor, read d.toValue = .ok d ↔ Fits .outermost d) ∧
      (∀ d : Descriptor, (d.levels + 3 ≤ Guard.limit → Fits .outermost d) ∧
        (Fits .outermost d → d.levels ≤ Guard.limit)) ∧
      ∀ data, IsPlain data → ∀ d, (read data = .ok d ↔ Spells data d ∧ Fits .outermost d) ∧
        (read data = .ok d → d.toValue = filled data ∧ read (filled data) = .ok d ∧
          filled (filled data) = filled data) := by
  have back (d : Descriptor) : read d.toValue = .ok d ↔ Fits .outermost d :=
    (read_eq_ok_iff (isPlain_toValue d)).trans (and_iff_right (spells_toValue d))
  refine ⟨back, fun d => ⟨fits_outermost_of_levels_le, fun fits => ?_⟩,
    fun data plain d => ⟨read_eq_ok_iff plain, fun read => ?_⟩⟩
  · have few := levels_le_of_fits d fits
    have count : Guard.outermost.count = 1 := rfl
    omega
  · obtain ⟨spelled, fits⟩ := (read_eq_ok_iff plain).mp read
    rw [filled_of_spells d spelled]
    exact ⟨rfl, (back d).mpr fits, filled_of_spells d (spells_toValue d)⟩

theorem read_unnamed_position :
    IsPlain (.dict [(.text "kind", .text "position"), (.text "unit", .null)]) ∧
      read (.dict [(.text "kind", .text "position"), (.text "unit", .null)]) =
        .ok (.position "TilePosition") ∧
      filled (.dict [(.text "kind", .text "position"), (.text "unit", .null)]) =
        (Descriptor.position "TilePosition").toValue := by
  have plain : IsPlain (.dict [(.text "kind", .text "position"), (.text "unit", .null)]) := by
    apply IsPlain.object
    · simpa using ⟨.text _, .text _⟩
    · simpa using ⟨.scalar (.text _), .scalar .null⟩
    · simp [HasDistinctKeys, same_text]
  obtain ⟨-, bounds, reads⟩ := read_toValue_inverse
  obtain ⟨reads, dumps⟩ := reads _ plain (.position "TilePosition")
  have read := reads.mpr ⟨⟨rfl, rfl⟩, (bounds _).1 (by decide)⟩
  exact ⟨plain, read, (dumps read).1.symm⟩

/-! ## The limit -/

def nested : Nat → Descriptor
  | 0 => .primitive .int
  | n + 1 => .list (nested n)

def wayInside : Nat → List Step
  | 0 => [.key "list"]
  | n + 1 => .key "list" :: .key "element" :: wayInside n

theorem readAt_list (guard : Guard) (element : Descriptor) :
    readAt guard (Descriptor.list element).toValue =
      Checked.within (.key "list") (if guard.stops .list then Checked.fault .tooDeep
        else (Checked.within (.key "element") (readAt (guard.below .list) element.toValue)).map
          Descriptor.list) := by
  have known : Tag.ofName? "list" = some .list := by decide
  simp only [toValue, tagged, List.map_cons, List.map_nil, readAt, readParts, ofParts,
    List.lookup_cons, beq_self_eq_true, Tag.name, asText?, Option.bind_some, known, ofTag, field]
  rfl

theorem Guard.reach_below_list (guard : Guard) :
    (guard.below .list).reach .list = (guard.below .list).count := by
  obtain ⟨count, first⟩ := guard
  cases first <;> simp [reach, below, Tag.rank?, Option.merge]

theorem readAt_nested (n : Nat) {k : Nat} (alike : guard.reach .list = guard.count)
    (limit : guard.count + k = Guard.limit + 1) :
    readAt guard (nested (k + n + 1)).toValue = .error [⟨wayInside k, .tooDeep⟩] := by
  have reaches : guard.stops .list = decide (Guard.limit < guard.count) := by
    rw [Guard.stops, alike]
  induction k generalizing guard with
  | zero =>
    have stops : guard.stops .list = true := by
      rw [reaches, decide_eq_true_iff]
      omega
    rw [nested, readAt_list, if_pos stops]
    rfl
  | succ k ih =>
    have free : ¬ guard.stops .list = true := by
      rw [reaches, decide_eq_true_iff]
      omega
    have count : (guard.below .list).count = guard.count + 1 := by rw [Guard.below, alike]
    have further := ih guard.reach_below_list (by omega) (by rw [Guard.stops, guard.reach_below_list])
    rw [nested, readAt_list, if_neg free, Nat.add_right_comm k 1 n, further]
    rfl

theorem spelled_unread : Spells (nested 260).toValue (nested 260) ∧
    ∀ d, read (nested 260).toValue ≠ .ok d := by
  refine ⟨spells_toValue _, fun d read => ?_⟩
  have failed := readAt_nested 5 (rfl : Guard.outermost.reach .list = 1)
    (rfl : 1 + Guard.limit = Guard.limit + 1)
  cases failed.symm.trans read

end Descriptor

end EnumTables
