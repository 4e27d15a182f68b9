import EnumTables.Proofs.Decimal.ReadBack
import EnumTables.Proofs.Decimal.Shortest
import EnumTables.Proofs.Fault
import EnumTables.Value.Equality
import EnumTables.Value.Text

/-!
# Plain data

Plain data are null, truth values, finite numbers, texts, lists and objects. The keys of an object
need not be texts, but they are single things, and no two are equal. So an object has at most one
value for a name (`lookup_named_iff`). The steps to those of its keys that are no texts are all
different, if they can be displayed (`IsKey.same_of_step_eq`). A path leads to at most one part of
the data (`at?`).
-/

namespace EnumTables

open Decimal Binary64

/-! ## Written numbers as keys -/

namespace Decimal.Layout

variable {layout : Layout} {x y : Binary64}

theorem spells_write (finite : x.IsFinite) :
    ∃ q, Spells (layout.write x).toList x.isNegative q ∧ Rounds x.isNegative q x := by
  obtain ⟨significand, exponent, meaning, -⟩ := meaning_of_isFinite finite
  have text : (layout.write x).toList =
      signText x.isNegative ++ layout.unsigned (shortest significand exponent) := by
    rw [write, meaning, String.toList_ofList]
    rfl
  exact ⟨_, ⟨_, text, spells_unsigned layout _⟩, rounds_shortest meaning⟩

theorem eq_of_write_eq (finite : x.IsFinite) (finite' : y.IsFinite)
    (same : layout.write x = layout.write y) : x = y := by
  obtain ⟨q, spelled, rounds⟩ := layout.spells_write finite
  obtain ⟨q', spelled', rounds'⟩ := layout.spells_write finite'
  obtain ⟨sign, rfl⟩ := spelled.unique (same ▸ spelled')
  exact rounds_unique rounds (sign ▸ rounds')

theorem write_ne_numeral (finite : x.IsFinite) (n : Int) : layout.write x ≠ numeral n := by
  intro same
  obtain ⟨q, ⟨_, text, ⟨parts, float, rfl, -⟩⟩, -⟩ := layout.spells_write finite
  have marked : '.' ∈ parts.text ∨ 'e' ∈ parts.text := by
    unfold Parts.text Parts.mantissa
    rcases float.notBare with fraction | power
    · obtain ⟨digits, has⟩ := Option.isSome_iff_exists.mp fraction
      simp [has, Parts.behind]
    · obtain ⟨digits, has⟩ := Option.isSome_iff_exists.mp power
      simp [has, Parts.behind]
  have digits : DigitsAnd ['-'] (signText x.isNegative ++ parts.text) := by
    rw [← text, same, numeral, String.toList_ofList]
    exact intDigits_digitsAnd n
  have unmarked : ∀ c ∈ signText x.isNegative ++ parts.text, c ≠ '.' ∧ c ≠ 'e' :=
    digits.forall (by decide) (by decide)
  rcases marked with point | mark
  · exact (unmarked _ (List.mem_append_right _ point)).1 rfl
  · exact (unmarked _ (List.mem_append_right _ mark)).2 rfl

theorem write_ne_word (finite : x.IsFinite) {word : String} {c : Char} {rest : List Char}
    (starts : word.toList = c :: rest) (other : c.toNat < 48 ∨ 57 < c.toNat) (unsigned : c ≠ '-') :
    layout.write x ≠ word := by
  rintro rfl
  obtain ⟨q, spelled, -⟩ := layout.spells_write finite
  exact spelled.head_ne other unsigned rest starts

end Decimal.Layout

theorem Decimal.Binary64.same_self {x : Binary64} (finite : x.IsFinite) : x.same x = true := by
  obtain ⟨significand, exponent, meaning, -⟩ := meaning_of_isFinite finite
  unfold Binary64.same
  rw [meaning]
  cases significand <;> simp

namespace Value

/-! ## Entries -/

def named (entries : List (Value × Value)) : List (String × Value) :=
  entries.filterMap fun
    | (.text name, value) => some (name, value)
    | _ => none

variable {entries : List (Value × Value)} {name : String} {value : Value}

theorem named_cons_text (name : String) (value : Value) (rest : List (Value × Value)) :
    named ((.text name, value) :: rest) = (name, value) :: named rest := rfl

theorem named_cons_other {key : Value} (other : ∀ name, key ≠ .text name) (value : Value)
    (rest : List (Value × Value)) : named ((key, value) :: rest) = named rest := by
  cases key with
  | text name => exact absurd rfl (other name)
  | _ => rfl

theorem mem_named : (name, value) ∈ named entries ↔ (.text name, value) ∈ entries := by
  induction entries with
  | nil => simp [named]
  | cons entry rest ih =>
    obtain ⟨key, other⟩ := entry
    by_cases isText : ∃ text, key = .text text
    · obtain ⟨text, rfl⟩ := isText
      simp [named_cons_text, ih]
    · rw [named_cons_other (not_exists.mp isText), ih, List.mem_cons, or_iff_right]
      intro same
      exact isText ⟨name, (Prod.mk.inj same).1.symm⟩

theorem lookup_named_eq_none :
    (named entries).lookup name = none ↔ ∀ value, (.text name, value) ∉ entries := by
  rw [List.lookup_eq_none_iff]
  constructor
  · intro others value inside
    exact bne_iff_ne.mp (others _ (mem_named.mpr inside)) rfl
  · rintro absent ⟨other, value⟩ inside
    refine bne_iff_ne.mpr ?_
    rintro rfl
    exact absent value (mem_named.mp inside)

theorem mem_of_lookup_named (found : (named entries).lookup name = some value) :
    (.text name, value) ∈ entries := by
  obtain ⟨before, after, split, -⟩ := List.lookup_eq_some_iff.mp found
  exact mem_named.mp (split ▸ List.mem_append_right _ List.mem_cons_self)

def HasDistinctNames (entries : List (Value × Value)) : Prop :=
  ((named entries).map Prod.fst).Nodup

theorem lookup_named_iff (distinct : HasDistinctNames entries) :
    (named entries).lookup name = some value ↔ (.text name, value) ∈ entries := by
  refine ⟨mem_of_lookup_named, fun inside => ?_⟩
  cases found : (named entries).lookup name with
  | none => exact absurd inside (lookup_named_eq_none.mp found value)
  | some other =>
    have same := List.inj_on_of_nodup_map distinct (mem_named.mpr (mem_of_lookup_named found))
      (mem_named.mpr inside) rfl
    rw [(Prod.mk.inj same).2]

def HasDistinctKeys (entries : List (Value × Value)) : Prop :=
  entries.Pairwise fun entry other => entry.1.same other.1 = false

theorem same_text (text other : String) : same (.text text) (.text other) = (text == other) := by
  simp [same, asData, number?, asInteger?, asFloat?, asText?]

theorem same_null : same .null .null = true := by
  rw [same.eq_def]
  simp [asData]

theorem HasDistinctKeys.names (distinct : HasDistinctKeys entries) : HasDistinctNames entries := by
  unfold HasDistinctNames
  induction entries with
  | nil => exact List.nodup_nil
  | cons entry rest ih =>
    obtain ⟨key, value⟩ := entry
    obtain ⟨differ, later⟩ := List.pairwise_cons.mp distinct
    by_cases isText : ∃ text, key = .text text
    · obtain ⟨text, rfl⟩ := isText
      rw [named_cons_text, List.map_cons, List.nodup_cons]
      refine ⟨fun again => ?_, ih later⟩
      obtain ⟨⟨_, other⟩, inside, rfl⟩ := List.mem_map.mp again
      have differ := differ _ (mem_named.mp inside)
      rw [same_text, beq_self_eq_true] at differ
      cases differ
    · rw [named_cons_other (not_exists.mp isText)]
      exact ih later

/-! ## Plain data -/

inductive IsScalar : Value → Prop where
  | null : IsScalar .null
  | bool (b : Bool) : IsScalar (.bool b)
  | int (n : Int) : IsScalar (.int n)
  | float {x : Binary64} (finite : x.IsFinite) : IsScalar (.float x)
  | text (s : String) : IsScalar (.text s)

structure IsKey (key : Value) : Prop where
  single : IsScalar key
  isSpoken : ∃ text, key.display = .ok text

theorem IsKey.text (s : String) : IsKey (.text s) :=
  ⟨.text s, _, rfl⟩

inductive IsPlain : Value → Prop where
  | scalar {value : Value} (single : IsScalar value) : IsPlain value
  | list {items : List Value} (each : ∀ item ∈ items, IsPlain item) : IsPlain (.list items)
  | object {entries : List (Value × Value)} (keys : ∀ entry ∈ entries, IsScalar entry.1)
      (values : ∀ entry ∈ entries, IsPlain entry.2) (distinct : HasDistinctKeys entries) :
      IsPlain (.dict entries)

/-- The step to a key that is no text is a place or the display of the key. -/
inductive IsStepTo (key : Value) (step : Step) : Prop where
  | null (isNull : key = .null) (is_ : step = .key "None")
  | place (n : Int) (isInteger : key.number? = some (.int n)) (is_ : step = .place n)
  | large (n : Int) (isInteger : key.number? = some (.int n)) (is_ : step = .key (numeral n))
  | float (x : Binary64) (finite : x.IsFinite) (isFloat : key.number? = some (.float x))
      (is_ : step = .key (floatDisplay.write x))

theorem IsKey.isStepTo {key : Value} (isKey : IsKey key) (noText : ∀ s, key ≠ .text s) :
    IsStepTo key key.step := by
  obtain ⟨single, text, spoken⟩ := isKey
  cases single with
  | null => exact .null rfl rfl
  | bool b => exact .place _ rfl rfl
  | int n =>
    have written : printed (.int n) = numeral n := by
      rw [display, Spoken.ofInteger] at spoken
      split at spoken
      · cases spoken
      · next short => simp [Value.printed, display, Spoken.ofInteger, short]
    change IsStepTo _ (if -2 ^ 63 ≤ n ∧ n < 2 ^ 63 then .place n else .key (printed (.int n)))
    rw [written]
    split
    · exact .place n rfl rfl
    · exact .large n rfl rfl
  | @float x finite => exact .float x finite rfl rfl
  | text s => exact absurd rfl (noText s)

theorem step_of_long {n : Int} (long : 10 ^ digitLimit ≤ n.natAbs) :
    (Value.int n).step = .key "<unprintable int object>" := by
  have digits : digitLimit < digitCount n.natAbs := by
    by_contra few
    have below := lt_pow_digitCount n.natAbs
    have power : 10 ^ digitCount n.natAbs ≤ 10 ^ digitLimit :=
      Nat.pow_le_pow_right (by decide) (Nat.not_lt.mp few)
    omega
  have large : (2 : Nat) ^ 63 < 10 ^ digitLimit :=
    (by decide : (2 : Nat) ^ 63 < 10 ^ 20).trans_le (Nat.pow_le_pow_right (by decide) (by decide))
  have outside : ¬ (-2 ^ 63 ≤ n ∧ n < 2 ^ 63) := by omega
  have unprintable : printed (.int n) = "<unprintable int object>" := by
    rw [printed, display, Spoken.ofInteger, if_pos digits]
    rfl
  change (if -2 ^ 63 ≤ n ∧ n < 2 ^ 63 then Step.place n else .key (printed (.int n))) = _
  rw [if_neg outside, unprintable]

theorem numeral_ne_none (n : Int) : numeral n ≠ "None" := by
  intro same
  have digits := intDigits_digitsAnd n
  have letters : intDigits n = "None".toList := by
    rw [← same, numeral, String.toList_ofList]
  rw [letters] at digits
  have unlettered : ∀ c ∈ "None".toList, c ≠ 'N' := digits.forall (by decide) (by decide)
  exact absurd unlettered (by decide)

theorem same_of_numbers {key other : Value} {m n : Number} (single : IsScalar key)
    (single' : IsScalar other) (number : key.number? = some m) (number' : other.number? = some n)
    (same : m.same n = true) : key.same other = true := by
  cases single <;> cases single' <;> cases number <;> cases number' <;>
    simpa [Value.same, asData, number?, asInteger?, asFloat?] using same

theorem IsKey.same_of_step_eq {key other : Value} (isKey : IsKey key)
    (isKey' : IsKey other) (noText : ∀ s, key ≠ .text s) (noText' : ∀ s, other ≠ .text s)
    (step : key.step = other.step) : key.same other = true := by
  have unwritten {x : Binary64} (finite : x.IsFinite) : floatDisplay.write x ≠ "None" :=
    Layout.write_ne_word finite (rfl : "None".toList = 'N' :: "one".toList) (by decide) (by decide)
  have right := isKey'.isStepTo noText'
  have single := isKey.single
  have single' := isKey'.single
  rw [← step] at right
  cases isKey.isStepTo noText with
  | null isNull is_ =>
    subst isNull
    cases right with
    | null isNull' =>
      subst isNull'
      exact same_null
    | place m _ is_' => cases is_.symm.trans is_'
    | large m _ is_' => exact absurd (Step.key.inj (is_.symm.trans is_')).symm (numeral_ne_none m)
    | float y finite _ is_' =>
      exact absurd (Step.key.inj (is_.symm.trans is_')).symm (unwritten finite)
  | place n integer is_ =>
    cases right with
    | null _ is_' => cases is_.symm.trans is_'
    | place m integer' is_' =>
      obtain rfl := Step.place.inj (is_.symm.trans is_')
      exact same_of_numbers single single' integer integer' (beq_self_eq_true n)
    | large m _ is_' => cases is_.symm.trans is_'
    | float y _ _ is_' => cases is_.symm.trans is_'
  | large n integer is_ =>
    cases right with
    | null _ is_' => exact absurd (Step.key.inj (is_.symm.trans is_')) (numeral_ne_none n)
    | place m _ is_' => cases is_.symm.trans is_'
    | large m integer' is_' =>
      obtain rfl := numeral_injective (Step.key.inj (is_.symm.trans is_'))
      exact same_of_numbers single single' integer integer' (beq_self_eq_true n)
    | float y finite _ is_' =>
      exact absurd (Step.key.inj (is_.symm.trans is_')).symm (Layout.write_ne_numeral finite n)
  | float x finite number is_ =>
    cases right with
    | null _ is_' => exact absurd (Step.key.inj (is_.symm.trans is_')) (unwritten finite)
    | place m _ is_' => cases is_.symm.trans is_'
    | large m _ is_' =>
      exact absurd (Step.key.inj (is_.symm.trans is_')) (Layout.write_ne_numeral finite m)
    | float y finite' number' is_' =>
      obtain rfl := Layout.eq_of_write_eq finite finite' (Step.key.inj (is_.symm.trans is_'))
      exact same_of_numbers single single' number number' (same_self finite)

/-! ## Parts -/

def get? : Value → String → Option Value
  | .mapping _ entries, name => (named entries).lookup name
  | _, _ => none

variable {data part : Value} {s : String}

theorem IsPlain.get? (plain : IsPlain data) (found : data.get? name = some part) :
    IsPlain part := by
  cases plain with
  | scalar single => cases single <;> cases found
  | list each => cases found
  | object keys values distinct => exact values _ (mem_of_lookup_named found)

theorem IsPlain.items {items : List Value} (plain : IsPlain (.list items)) :
    ∀ item ∈ items, IsPlain item := by
  cases plain with
  | scalar single => cases single
  | list each => exact each

theorem IsPlain.asText? (plain : IsPlain value) : value.asText? = some s ↔ value = .text s := by
  cases plain with
  | scalar single => cases single <;> simp [Value.asText?]
  | list each => simp [Value.asText?]
  | object keys values distinct => simp [Value.asText?]

theorem IsPlain.readText_eq_ok (plain : IsPlain value) :
    value.readText = .ok s ↔ value = .text s := by
  cases plain with
  | scalar single => cases single <;> simp [readText, Value.asText?, Checked.fault]
  | list each => simp [readText, Value.asText?, Checked.fault]
  | object keys values distinct => simp [readText, Value.asText?, Checked.fault]

theorem isSound_readText (data : Value) : Checked.IsSound data.readText := by
  unfold readText
  repeat' split
  all_goals first | exact .ok _ | exact .fault _

/-- What holds of data whenever it holds of their parts holds of all plain data. -/
@[elab_as_elim]
theorem IsPlain.induction {holds : Value → Prop} (plain : IsPlain data)
    (step : ∀ data, IsPlain data → (∀ name part, data.get? name = some part → holds part) →
      (∀ items, data = .list items → ∀ item ∈ items, holds item) → holds data) : holds data := by
  induction plain with
  | scalar single =>
    refine step _ (.scalar single) ?_ ?_
    · cases single <;> exact fun _ _ found => by cases found
    · cases single <;> exact fun _ same => by cases same
  | list each ih =>
    refine step _ (.list each) (fun _ _ found => by cases found) ?_
    rintro items same
    obtain rfl := (Value.collection.inj same).2
    exact ih
  | object keys values distinct ih =>
    refine step _ (.object keys values distinct) ?_ (fun _ same => by cases same)
    exact fun name part found => ih _ (mem_of_lookup_named found)

/-! ## Paths -/

def at? : Value → List Step → Option Value
  | value, [] => some value
  | .mapping _ entries, .key name :: rest =>
    ((named entries).lookup name).bind fun part => part.at? rest
  | .collection .list items, .place index :: rest =>
    if 0 ≤ index then items[index.toNat]?.bind fun part => part.at? rest else none
  | _, _ => none

theorem at?_nil (data : Value) : data.at? [] = some data := by
  unfold at?
  cases data <;> rfl

theorem at?_key (data : Value) (name : String) (path : List Step) :
    data.at? (.key name :: path) = (data.get? name).bind fun part => part.at? path := by
  cases data <;> simp [at?, get?]

theorem at?_place (items : List Value) (index : Nat) (path : List Step) :
    (Value.list items).at? (.place index :: path) =
      items[index]?.bind fun part => part.at? path := by
  simp [at?]

def HasSpokenKeys (data : Value) : Prop :=
  ∀ path readOnly entries, data.at? path = some (.mapping readOnly entries) →
    ∀ entry ∈ entries, ∃ text, entry.1.display = .ok text

theorem HasSpokenKeys.get? (spoken : HasSpokenKeys data) (found : data.get? name = some part) :
    HasSpokenKeys part := by
  intro path readOnly entries reached
  refine spoken (.key name :: path) readOnly entries ?_
  rw [at?_key, found]
  exact reached

theorem HasSpokenKeys.item {items : List Value} (spoken : HasSpokenKeys (.list items))
    {item : Value} (inside : item ∈ items) : HasSpokenKeys item := by
  obtain ⟨index, found⟩ := List.mem_iff_getElem?.mp inside
  intro path readOnly entries reached
  refine spoken (.place index :: path) readOnly entries ?_
  rw [at?_place, found]
  exact reached

end Value

end EnumTables
