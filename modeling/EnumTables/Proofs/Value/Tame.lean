import EnumTables.Proofs.Schema
import EnumTables.Proofs.Value.Bits

/-!
# Values that raise nothing

Showing a value, iterating over it and reading its coordinates raise an exception in few cases only:
an integer in it has too many digits for a numeral, a member or an object in it has looks of its
own, or a set of bits cannot be iterated over. A value in which there is nothing of these is tame,
and so are its elements and components (`elements?_isTame`, `components?_isTame`).
-/

namespace EnumTables

open Decimal Literal

def isShort (n : Int) : Bool :=
  digitCount n.natAbs ≤ digitLimit

namespace Coordinate

def isTame : Coordinate → Bool
  | .integer (.ok _) | .other => true
  | .integer (.error _) | .raised _ => false

theorem isTame_iff {coordinate : Coordinate} :
    coordinate.isTame = true ↔ coordinate = .other ∨ ∃ text, coordinate = .integer (.ok text) := by
  rcases coordinate with (raised | text) | - | cause <;> simp [isTame]

end Coordinate

def Traits.isTame (traits : Traits) : Bool :=
  traits.display.toOption.isSome && traits.x.isTame && traits.y.isTame

namespace MemberClass

/-- The members of the class are shown by their names, and their bits have numerals. -/
def isTame (cls : MemberClass) : Bool :=
  cls.looks.isEmpty && cls.bits.all fun member => isShort member.2

end MemberClass

namespace Value

mutual

/-- Nothing in the value raises an exception where it is shown or iterated over. -/
def isTame : Value → Bool
  | .int n => isShort n
  | .collection _ items => areTame items
  | .mapping _ entries => entriesAreTame entries
  | .range start stop step => isShort start && isShort stop && isShort step
  | .position x y => isTame x && isTame y
  | .record attributes => attributesAreTame attributes
  | .member cls _ held data looks => looks.isNone && cls.isTame &&
    (!cls.isFlag || held.asBits?.any cls.iterates) && isTame held && isTame data
  | .object traits items => traits.isTame && areTame items
  | .null | .bool _ | .float _ | .text _ | .bytes _ _ => true

def areTame : List Value → Bool
  | [] => true
  | item :: rest => isTame item && areTame rest

def entriesAreTame : List (Value × Value) → Bool
  | [] => true
  | (key, value) :: rest => isTame key && isTame value && entriesAreTame rest

def attributesAreTame : List (String × Value) → Bool
  | [] => true
  | (_, value) :: rest => isTame value && attributesAreTame rest

end

end Value

/-! ## Numerals -/

theorem isShort_iff {n : Int} : isShort n = true ↔ digitCount n.natAbs ≤ digitLimit :=
  decide_eq_true_iff

theorem ofInteger_of_isShort {n : Int} (h : isShort n = true) :
    Spoken.ofInteger n = .ok (numeral n) :=
  Spoken.ofInteger_of_le (isShort_iff.mp h)

theorem isShort_of_le {m n : Int} (le : m.natAbs ≤ n.natAbs) (h : isShort n = true) :
    isShort m = true :=
  isShort_iff.mpr <| (digitCount_le (digitCount_pos _) (le.trans_lt (lt_pow_digitCount _))).trans
    (isShort_iff.mp h)

theorem isShort_byte (byte : UInt8) : isShort byte.toNat = true := by
  have small : byte.toNat < 10 ^ 3 := byte.toNat_lt.trans (by decide)
  exact isShort_iff.mpr ((digitCount_le (by decide) small).trans (by decide))

namespace Value

/-! ## Displays -/

theorem isTame_member {cls : MemberClass} {name : Option String} {held data : Value}
    {looks : Option Looks} (h : (Value.member cls name held data looks).isTame = true) :
    looks = none ∧ cls.isTame = true ∧ (cls.isFlag = true → held.asBits?.any cls.iterates = true) ∧
      held.isTame = true ∧ data.isTame = true := by
  simp only [isTame, Bool.and_eq_true, Bool.or_eq_true, Bool.not_eq_true',
    Option.isNone_iff_eq_none] at h
  obtain ⟨⟨⟨⟨unadorned, ofClass⟩, iterates⟩, inHeld⟩, inData⟩ := h
  exact ⟨unadorned, ofClass, fun isFlag => iterates.resolve_left (by simp [isFlag]), inHeld, inData⟩

mutual

theorem exists_display : ∀ {value : Value}, value.isTame = true → ∃ text, value.display = .ok text
  | .null, _ | .bool _, _ | .float _, _ | .text _, _ | .bytes false _, _ | .bytes true _, _ =>
    ⟨_, rfl⟩
  | .int n, h => ⟨_, ofInteger_of_isShort h⟩
  | .collection kind items, h => by
    obtain ⟨texts, shown⟩ := exists_displayItems (by simpa [isTame] using h)
    cases kind <;> exact ⟨_, by simp [display, shown]; rfl⟩
  | .mapping readOnly entries, h => by
    obtain ⟨texts, shown⟩ := exists_displayEntries (by simpa [isTame] using h)
    exact ⟨_, by simp [display, shown]; rfl⟩
  | .range start stop step, h => by
    simp only [isTame, Bool.and_eq_true] at h
    have first := ofInteger_of_isShort h.1.1
    have second := ofInteger_of_isShort h.1.2
    have third := ofInteger_of_isShort h.2
    by_cases single : step = 1 <;>
      exact ⟨_, by simp [display, single, first, second, third]; rfl⟩
  | .position x y, h => by
    simp only [isTame, Bool.and_eq_true] at h
    obtain ⟨first, shownX⟩ := exists_display h.1
    obtain ⟨second, shownY⟩ := exists_display h.2
    exact ⟨_, by simp [display, shownX, shownY]; rfl⟩
  | .record attributes, h => by
    obtain ⟨texts, shown⟩ := exists_displayAttributes (by simpa [isTame] using h)
    exact ⟨_, by simp [display, shown]; rfl⟩
  | .member cls name held data looks, h => by
    obtain ⟨rfl, -, -, inHeld, -⟩ := isTame_member h
    obtain ⟨text, shown⟩ := exists_display inHeld
    exact ⟨_, by simp [display, shown]; rfl⟩
  | .object traits items, h => by
    simp only [isTame, Traits.isTame, Bool.and_eq_true] at h
    exact exists_eq_ok h.1.1.1

theorem exists_displayItems : ∀ {items : List Value}, areTame items = true →
    ∃ texts, displayItems items = .ok texts
  | [], _ => ⟨_, rfl⟩
  | item :: rest, h => by
    simp only [areTame, Bool.and_eq_true] at h
    obtain ⟨first, shown⟩ := exists_display h.1
    obtain ⟨others, shownRest⟩ := exists_displayItems h.2
    exact ⟨_, by simp [displayItems, shown, shownRest]; rfl⟩

theorem exists_displayEntries : ∀ {entries : List (Value × Value)}, entriesAreTame entries = true →
    ∃ texts, displayEntries entries = .ok texts
  | [], _ => ⟨_, rfl⟩
  | (key, value) :: rest, h => by
    simp only [entriesAreTame, Bool.and_eq_true] at h
    obtain ⟨first, shownKey⟩ := exists_display h.1.1
    obtain ⟨second, shownValue⟩ := exists_display h.1.2
    obtain ⟨others, shownRest⟩ := exists_displayEntries h.2
    exact ⟨_, by simp [displayEntries, shownKey, shownValue, shownRest]; rfl⟩

theorem exists_displayAttributes : ∀ {attributes : List (String × Value)},
    attributesAreTame attributes = true → ∃ texts, displayAttributes attributes = .ok texts
  | [], _ => ⟨_, rfl⟩
  | (_, value) :: rest, h => by
    simp only [attributesAreTame, Bool.and_eq_true] at h
    obtain ⟨first, shown⟩ := exists_display h.1
    obtain ⟨others, shownRest⟩ := exists_displayAttributes h.2
    exact ⟨_, by simp [displayAttributes, shown, shownRest]; rfl⟩

end

/-! ## Parts -/

theorem areTame_iff {items : List Value} :
    areTame items = true ↔ ∀ item ∈ items, item.isTame = true := by
  induction items with
  | nil => simp [areTame]
  | cons item rest ih => simp [areTame, ih]

theorem entriesAreTame_iff {entries : List (Value × Value)} :
    entriesAreTame entries = true ↔
      ∀ entry ∈ entries, entry.1.isTame = true ∧ entry.2.isTame = true := by
  induction entries with
  | nil => simp [entriesAreTame]
  | cons entry rest ih => simp [entriesAreTame, ih]

theorem attributesAreTame_iff {attributes : List (String × Value)} :
    attributesAreTame attributes = true ↔ ∀ named ∈ attributes, named.2.isTame = true := by
  induction attributes with
  | nil => simp [attributesAreTame]
  | cons named rest ih => simp [attributesAreTame, ih]

theorem rangeAt_between {start stop step : Int} {place : Nat}
    (inside : place < rangeLength start stop step) :
    (rangeAt start step place).natAbs ≤ start.natAbs ∨
      (rangeAt start step place).natAbs ≤ stop.natAbs := by
  have between {start stop step : Int} (positive : 0 < step)
      (inside : (place : Int) < (stop - start + step - 1) / step) :
      start ≤ start + place * step ∧ start + place * step < stop := by
    have product := Int.ediv_mul_le (stop - start + step - 1) positive.ne'
    constructor <;> nlinarith
  unfold rangeLength at inside
  unfold rangeAt
  split at inside
  · next positive =>
    have ends := between positive (Int.lt_toNat.mp inside)
    omega
  · split at inside
    · next negative =>
      -- a falling range is a rising one with its signs turned around
      have count : (place : Int) < (-stop - -start + -step - 1) / -step := by
        have turned : -stop - -start + -step - 1 = start - stop - step - 1 := by ring
        rw [turned]
        exact Int.lt_toNat.mp inside
      have ends := between (Int.neg_pos_of_neg negative) count
      have turned : (place : Int) * -step = -(place * step) := mul_neg _ _
      omega
    · cases inside

theorem isTame_rangeItems {start stop step : Int} (first : isShort start = true)
    (last : isShort stop = true) : ∀ n ∈ rangeItems start stop step, isShort n = true := by
  intro n inside
  obtain ⟨place, known, rfl⟩ := List.mem_map.mp inside
  rcases rangeAt_between (List.mem_range.mp known) with le | le
  · exact isShort_of_le le first
  · exact isShort_of_le le last

end Value

namespace MemberClass

variable {cls : MemberClass}

theorem isShort_single (tame : cls.isTame = true) {flag : String × Nat}
    (known : flag ∈ cls.singles) : isShort flag.2 = true := by
  obtain ⟨bits, inside, -, same⟩ := Bits.mem_singles known
  simp only [isTame, Bool.and_eq_true, List.all_eq_true] at tame
  exact isShort_of_le (by omega) (tame.2 _ inside)

theorem bitMember_looks (tame : cls.isTame = true) (isInteger : Bool) (name : String) (bits : Int) :
    cls.bitMember isInteger name bits =
      .member cls (some name) (.int bits) (if isInteger then .int bits else .null) none := by
  simp only [isTame, Bool.and_eq_true, List.isEmpty_iff] at tame
  rw [bitMember, tame.1]
  rfl

theorem isTame_bitMember (tame : cls.isTame = true) (isInteger : Bool) {flag : String × Nat}
    (known : flag ∈ cls.singles) : (cls.bitMember isInteger flag.1 flag.2).isTame = true := by
  have short := isShort_single tame known
  have iterates := iterates_single known
  rw [bitMember_looks tame]
  cases isInteger <;>
    simp [Value.isTame, tame, short, iterates, Value.asBits?, Value.asInteger?]

end MemberClass

namespace Value

theorem elements?_isTame_flag {cls : MemberClass} {name : Option String} {held data : Value}
    {looks : Option Looks} (isFlag : cls.isFlag = true)
    (tame : (Value.member cls name held data looks).isTame = true) :
    ∃ items, (Value.member cls name held data looks).elements? = some (.ok items) ∧
      ∀ item ∈ items, item.isTame = true := by
  obtain ⟨-, ofClass, iterates, -⟩ := isTame_member tame
  have ofBits := iterates isFlag
  cases isBits : held.asBits? with
  | none =>
    rw [isBits] at ofBits
    cases ofBits
  | some bits =>
    rw [isBits] at ofBits
    obtain ⟨items, iterated, parts⟩ := MemberClass.iterate_parts data.asInteger?.isSome
      (.member cls name held data looks) ofBits
    refine ⟨items, by simp [elements?, isFlag, isBits, iterated], fun item inside => ?_⟩
    rcases parts item inside with rfl | rfl | ⟨flag, known, rfl⟩
    · exact tame
    · rfl
    · exact MemberClass.isTame_bitMember ofClass _ known

theorem elements?_isTame : ∀ {value : Value}, value.isTame = true →
    ∀ {outcome : Except Raised (List Value)}, value.elements? = some outcome →
      ∃ items, outcome = .ok items ∧ ∀ item ∈ items, item.isTame = true
  | .bytes true data, _, _, rfl =>
    ⟨_, rfl, List.forall_mem_map.mpr fun byte _ => isShort_byte byte⟩
  | .collection _ items, tame, _, rfl => ⟨items, rfl, areTame_iff.mp tame⟩
  | .mapping _ entries, tame, _, rfl => by
    have parts := entriesAreTame_iff.mp tame
    exact ⟨_, rfl, List.forall_mem_map.mpr fun pair inside => by
      simp [entry, isTame, areTame, parts pair inside]⟩
  | .range start stop step, tame, _, rfl => by
    simp only [isTame, Bool.and_eq_true] at tame
    exact ⟨_, rfl, List.forall_mem_map.mpr (isTame_rangeItems tame.1.1 tame.1.2)⟩
  | .position x y, tame, _, rfl => by
    simp only [isTame, Bool.and_eq_true] at tame
    exact ⟨[x, y], rfl, by simp [tame.1, tame.2]⟩
  | .member cls name held data looks, tame, _, found => by
    cases isFlag : cls.isFlag with
    | true =>
      obtain ⟨items, same, parts⟩ := elements?_isTame_flag isFlag tame
      obtain rfl := Option.some.inj (same.symm.trans found)
      exact ⟨items, rfl, parts⟩
    | false =>
      obtain ⟨-, -, -, -, inData⟩ := isTame_member tame
      exact elements?_isTame inData (by simpa [elements?, isFlag] using found)
  | .object traits items, tame, _, found => by
    simp only [elements?] at found
    split at found
    · obtain rfl := Option.some.inj found
      simp only [isTame, Bool.and_eq_true] at tame
      exact ⟨items, rfl, areTame_iff.mp tame.2⟩
    · cases found

theorem items_isTame {value : Value} (tame : value.isTame = true) {items : List Value}
    (found : value.elements? = some (.ok items)) : ∀ item ∈ items, item.isTame = true := by
  obtain ⟨_, same, parts⟩ := elements?_isTame tame found
  obtain rfl := Except.ok.inj same
  exact parts

theorem components?_isTame : ∀ {value : Value}, value.isTame = true → ∀ {left right : Value},
    value.components? = some (left, right) → left.isTame = true ∧ right.isTame = true := by
  intro value tame left right found
  induction value using components?.induct with
  | case1 first second | case2 first second =>
    obtain ⟨rfl, rfl⟩ := Prod.mk.inj (Option.some.inj found)
    simpa [isTame, areTame] using tame
  | case3 x y =>
    obtain ⟨rfl, rfl⟩ := Prod.mk.inj (Option.some.inj found)
    simpa [isTame] using tame
  | case4 cls name held data looks ih =>
    obtain ⟨-, -, -, -, inData⟩ := isTame_member tame
    exact ih inData found
  | case5 value _ _ _ _ =>
    rw [components?] at found <;> simp_all

/-! ## Texts -/

theorem exists_memberText (cls : MemberClass) (name : Option String) {held data : Value}
    (heldTame : held.isTame = true) (dataTame : data.isTame = true) :
    ∃ text, memberText cls name held data = .ok text := by
  obtain ⟨ofHeld, shownHeld⟩ := exists_display heldTame
  obtain ⟨ofData, shownData⟩ := exists_display dataTame
  unfold memberText
  split
  · exact ⟨_, rfl⟩
  · split
    · exact ⟨_, by simp [shownHeld]; rfl⟩
    · exact ⟨_, rfl⟩
  · split
    · exact ⟨_, by simp [shownHeld]; rfl⟩
    · exact ⟨_, rfl⟩
  · exact ⟨ofData, shownData⟩

theorem exists_shown {value : Value} (tame : value.isTame = true) :
    ∃ text, value.shown = .ok text := by
  cases value with
  | member cls name held data looks =>
    obtain ⟨rfl, -, -, inHeld, inData⟩ := isTame_member tame
    exact exists_memberText cls name inHeld inData
  | text s => exact ⟨s, rfl⟩
  | mapping readOnly entries =>
    have bare : (Value.mapping false entries).isTame = true := tame
    exact exists_display bare
  | _ => exact exists_display tame

theorem exists_inline {value : Value} (tame : value.isTame = true) :
    ∃ text, value.inline = .ok text := by
  cases value with
  | member cls name held data looks =>
    obtain ⟨rfl, -, -, inHeld, inData⟩ := isTame_member tame
    exact exists_memberText cls name inHeld inData
  | _ => exact exists_shown tame

/-! ## Coordinates -/

theorem isTame_asCoordinate {value : Value} (spoken : ∃ text, value.inline = .ok text) :
    value.asCoordinate.isTame = true := by
  obtain ⟨text, spoken⟩ := spoken
  unfold asCoordinate
  split
  · rw [spoken]
    rfl
  · rfl

theorem exists_inline_bitMember {cls : MemberClass} (tame : cls.isTame = true) (isInteger : Bool)
    {name : String} {bits : Int} (found : (name, bits) ∈ cls.bits) :
    ∃ text, (cls.bitMember isInteger name bits).inline = .ok text := by
  have short : isShort bits = true := by
    simp only [MemberClass.isTame, Bool.and_eq_true, List.all_eq_true] at tame
    exact tame.2 _ found
  rw [MemberClass.bitMember_looks tame]
  have held : (Value.int bits).isTame = true := short
  cases isInteger with
  | false => exact exists_memberText cls _ held (rfl : Value.null.isTame = true)
  | true => exact exists_memberText cls _ held held

theorem isTame_coordinate (isX : Bool) {value : Value} (tame : value.isTame = true) :
    (value.coordinate isX).isTame = true := by
  induction value using coordinate.induct isX with
  | case1 x y side =>
    simp only [isTame, Bool.and_eq_true] at tame
    simpa [coordinate, side] using isTame_asCoordinate (exists_inline tame.1)
  | case2 x y side =>
    simp only [isTame, Bool.and_eq_true] at tame
    simpa [coordinate, side] using isTame_asCoordinate (exists_inline tame.2)
  | case3 attributes value found =>
    obtain ⟨before, after, split, -⟩ := List.lookup_eq_some_iff.mp found
    have inside : ((if isX = true then "x" else "y"), value) ∈ attributes := by simp [split]
    rw [coordinate, found]
    exact isTame_asCoordinate (exists_inline (attributesAreTame_iff.mp tame _ inside))
  | case4 attributes missing =>
    rw [coordinate, missing]
    rfl
  | case5 cls name held data looks side | case6 cls name held data looks side =>
    exact absurd (isTame_member tame).1 (by simp)
  | case7 cls held data sought =>
    rw [coordinate, if_pos rfl]
    exact isTame_asCoordinate (exists_inline tame)
  | case8 cls name held data sought other bits found =>
    obtain ⟨before, after, split, -⟩ := List.lookup_eq_some_iff.mp found
    have inside : (sought, bits) ∈ cls.bits := by simp [split]
    simp only [coordinate, sought] at *
    rw [if_neg other, found]
    exact isTame_asCoordinate (exists_inline_bitMember (isTame_member tame).2.1 _ inside)
  | case9 cls name held data sought other missing ih =>
    simp only [coordinate, sought] at *
    rw [if_neg other, missing]
    exact ih (isTame_member tame).2.2.2.2
  | case10 traits items side | case11 traits items side =>
    simp only [isTame, Traits.isTame, Bool.and_eq_true] at tame
    simp [coordinate, side, tame.1.1.2, tame.1.2]
  | case12 value =>
    rw [coordinate] <;> simp_all [Coordinate.isTame]

/-! ## Leaves -/

theorem variantLabel_of_isTame {value : Value} (tame : value.isTame = true) :
    (∃ reason, variantLabel value = .error reason) ∨
      ∃ found text, variantLabel value = .ok (.ok found) ∧ found.text = .ok text := by
  cases value with
  | member cls name held data looks =>
    obtain ⟨rfl, -⟩ := isTame_member tame
    cases name <;> exact Or.inr ⟨_, _, rfl, rfl⟩
  | text s => exact Or.inr ⟨_, _, rfl, rfl⟩
  | _ => exact Or.inl ⟨_, rfl⟩

end Value

end EnumTables
