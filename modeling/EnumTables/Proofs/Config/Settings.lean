import EnumTables.Proofs.Config.Endings
import EnumTables.Proofs.Fault
import EnumTables.Proofs.Yaml.Data

/-!
# Which settings are accepted

A mapping is accepted (`Accepts`) iff each of its keys is the name of a setting, no setting is there
under both of its names, and the values are texts and a list of texts. What stands for a text or for
a list is said by `IsText` and `elements?`. The configuration takes each setting from the name that
is there, or its default. Otherwise the faults of the settings are reported in a fixed order, and
behind them one fault for each other key, in the order of the file (`faultsOf`).
-/

namespace EnumTables.Config

open Value (IsData named HasDistinctNames lookup_named_iff lookup_named_eq_none)

variable {value : Value} {s : String}

/-! ## Texts -/

/-- Data that stand for a text: the text, or bytes that are its encoding. -/
inductive IsText : Value → String → Prop where
  | text (s : String) : IsText (.text s) s
  | bytes {data : List UInt8} {s : String} (decodes : String.fromUTF8? ⟨data.toArray⟩ = some s) :
      IsText (.bytes false data) s

def textFault? : Value → Option FaultKind
  | .text _ => none
  | .bytes _ data => if (String.fromUTF8? ⟨data.toArray⟩).isSome then none else some .undecodable
  | _ => some .notText

def textFaults (value : Value) : List Fault :=
  (textFault? value).toList.map .here

theorem readText_eq_ok (data : IsData value) : value.readText = .ok s ↔ IsText value s := by
  constructor
  · intro read
    cases data with
    | text t =>
      cases read
      exact .text _
    | bytes data =>
      unfold Value.readText at read
      simp only [Value.asText?] at read
      split at read
      · rename_i decodes
        cases read
        exact .bytes decodes
      · cases read
    | _ => cases read
  · intro isText
    cases isText with
    | text => rfl
    | bytes decodes => simp [Value.readText, Value.asText?, decodes]

theorem faults_readText (data : IsData value) : value.readText.faults = textFaults value := by
  cases data with
  | bytes data =>
    unfold Value.readText textFaults textFault?
    simp only [Value.asText?]
    cases String.fromUTF8? ⟨data.toArray⟩ <;> rfl
  | _ => rfl

def elements? : Value → Option (List Value)
  | .collection .list items | .collection .set items => some items
  | _ => none

def IsTexts (value : Value) (texts : List String) : Prop :=
  ∃ items, elements? value = some items ∧ List.Forall₂ IsText items texts

def textsFaults (value : Value) : List Fault :=
  match elements? value with
  | some items => Checked.faultsFrom textFaults items 0
  | none => [.here .notList]

theorem isData_elements (data : IsData value) {items : List Value}
    (found : elements? value = some items) : ∀ item ∈ items, IsData item := by
  unfold elements? at found
  split at found <;> cases found <;> cases data with
  | collection each => exact each

theorem readTexts_eq (value : Value) : readTexts value = match elements? value with
    | some items => .parts Value.readText items 0
    | none => .fault .notList := by
  cases value with
  | collection kind items => cases kind <;> rfl
  | _ => rfl

theorem forall₂_readText {items : List Value} (each : ∀ item ∈ items, IsData item)
    {texts : List String} : List.Forall₂ (fun item s => item.readText = .ok s) items texts ↔
      List.Forall₂ IsText items texts := by
  induction items generalizing texts with
  | nil => simp
  | cons item rest ih =>
    obtain ⟨first, others⟩ := List.forall_mem_cons.mp each
    simp only [List.forall₂_cons_left_iff, readText_eq_ok first, ih others]

theorem readTexts_eq_ok (data : IsData value) {texts : List String} :
    readTexts value = .ok texts ↔ IsTexts value texts := by
  rw [readTexts_eq, IsTexts]
  cases found : elements? value with
  | none => simp [Checked.fault]
  | some items =>
    simp only [Checked.parts_eq_ok, Option.some_inj, exists_eq_left']
    exact forall₂_readText (isData_elements data found)

theorem faults_readTexts (data : IsData value) : (readTexts value).faults = textsFaults value := by
  rw [readTexts_eq, textsFaults]
  cases found : elements? value with
  | none => rfl
  | some items =>
    have each := isData_elements data found
    refine (Checked.faults_parts Value.readText items 0).trans ?_
    refine List.flatMap_congr fun item inside => ?_
    exact congrArg _ (faults_readText (each _ (List.fst_mem_of_mem_zipIdx inside)))

/-! ## Names -/

def classNames : List String := ["domain-classes", "domain_classes"]

def preludeNames : List String := ["prelude"]

def suffixNames : List String := ["file-suffix", "file_suffix"]

variable {entries : List (Value × Value)} {config : Config}

def Present (entries : List (Value × Value)) (name : String) : Prop :=
  ∃ value, (.text name, value) ∈ entries

theorem present_iff {name : String} :
    Present entries name ↔ ((named entries).lookup name).isSome = true := by
  rw [Option.isSome_iff_ne_none, Ne, lookup_named_eq_none, not_forall_not]
  rfl

instance (entries : List (Value × Value)) (name : String) : Decidable (Present entries name) :=
  decidable_of_iff _ present_iff.symm

def AtMostOne (entries : List (Value × Value)) (names : List String) : Prop :=
  ∀ name ∈ names, ∀ name' ∈ names, Present entries name → Present entries name' → name = name'

/-- What holds of the value under one of the names, or, if there is none, of the default. -/
def Takes (entries : List (Value × Value)) (names : List String) (holds : Value → Prop)
    (default : Prop) : Prop :=
  (∃ name ∈ names, ∃ value, (.text name, value) ∈ entries ∧ holds value) ∨
    (∀ name ∈ names, ¬ Present entries name) ∧ default

structure Accepts (entries : List (Value × Value)) (config : Config) : Prop where
  known : ∀ entry ∈ entries, ∃ name ∈ classNames ++ preludeNames ++ suffixNames,
    entry.1 = .text name
  oneClasses : AtMostOne entries classNames
  oneSuffix : AtMostOne entries suffixNames
  classes : Takes entries classNames (IsTexts · config.domainClasses) (config.domainClasses = [])
  prelude : Takes entries preludeNames (IsText · config.prelude)
    (config.prelude = SourceUnit.defaultPrelude)
  suffix : Takes entries suffixNames (IsText · config.suffix)
    (config.suffix = Identifier.defaultSuffix)

theorem Accepts.perm {entries' : List (Value × Value)} (same : entries.Perm entries')
    (accepts : Accepts entries config) : Accepts entries' config := by
  have among (entry : Value × Value) : entry ∈ entries' ↔ entry ∈ entries := same.mem_iff.symm
  obtain ⟨known, oneClasses, oneSuffix, classes, prelude, suffix⟩ := accepts
  constructor
  all_goals simp only [AtMostOne, Takes, Present, among] at *
  all_goals assumption

/-- A name that is there belongs to a setting, unless it is the second of two that are there. -/
def IsSetting (entries : List (Value × Value)) (name : String) : Prop :=
  name ∈ classNames ++ preludeNames ++ suffixNames ∧
    (name = "domain_classes" → ¬ Present entries "domain-classes") ∧
    (name = "file_suffix" → ¬ Present entries "file-suffix")

instance (entries : List (Value × Value)) (name : String) : Decidable (IsSetting entries name) :=
  inferInstanceAs (Decidable (_ ∧ _ ∧ _))

def settingFaults (entries : List (Value × Value)) (faults : Value → List Fault) :
    List String → List Fault
  | [] => []
  | name :: others => match (named entries).lookup name with
    | some value => (faults value).map (Fault.within (.key name))
    | none => settingFaults entries faults others

def keyFault? (entries : List (Value × Value)) : Value → Option Fault
  | .text name => if IsSetting entries name then none else some ⟨[.key name], .unexpected⟩
  | key => some ⟨[key.step], .keyNotText⟩

def faultsOf (entries : List (Value × Value)) : List Fault :=
  settingFaults entries textsFaults classNames ++
    settingFaults entries textFaults preludeNames ++
    settingFaults entries textFaults suffixNames ++
    entries.filterMap fun entry => keyFault? entries entry.1

/-! ## Reading -/

def usedNames (entries : List (Value × Value)) : List String :=
  [classesKey, preludeKey, suffixKey].map (usedName (named entries))

theorem mem_usedNames {name : String} (present : Present entries name) :
    name ∈ usedNames entries ↔ IsSetting entries name := by
  have used (key : String) : usedName (named entries) key =
      if Present entries key then key else otherName key := by
    simp only [usedName, present_iff]
  have classes : otherName "domain-classes" = "domain_classes" := by decide
  have prelude : otherName "prelude" = "prelude" := by decide
  have suffix : otherName "file-suffix" = "file_suffix" := by decide
  simp only [usedNames, List.map_cons, List.map_nil, used, classesKey, preludeKey, suffixKey,
    classes, prelude, suffix, IsSetting, classNames, preludeNames, suffixNames]
  by_cases hyphenated : Present entries "domain-classes" <;>
    by_cases hyphenated' : Present entries "file-suffix" <;>
    simp [hyphenated, hyphenated'] <;> grind

section Reading

variable {α : Type} {name other : String} {absent a : α} {read : Value → Checked α}

theorem setting_eq_ok_iff (distinct : HasDistinctNames entries) {holds : Value → Prop}
    (one : AtMostOne entries [name, other])
    (reads : ∀ entry ∈ entries, read entry.2 = .ok a ↔ holds entry.2) :
    setting (named entries) name other absent read = .ok a ↔
      Takes entries [name, other] holds (a = absent) := by
  have takes {key : String} {value : Value} (among : key ∈ [name, other])
      (found : (named entries).lookup key = some value) :
      Takes entries [name, other] holds (a = absent) ↔ read value = .ok a := by
    have inside := Value.mem_of_lookup_named found
    rw [reads _ inside]
    constructor
    · rintro (⟨key', among', value', inside', is⟩ | ⟨absent, -⟩)
      · obtain rfl := one _ among _ among' ⟨_, inside⟩ ⟨_, inside'⟩
        have same := found.symm.trans ((lookup_named_iff distinct).mpr inside')
        rwa [Option.some_inj.mp same]
      · exact absurd ⟨_, inside⟩ (absent _ among)
    · exact fun is => .inl ⟨_, among, _, inside, is⟩
  unfold setting
  cases first : (named entries).lookup name with
  | some value =>
    rw [takes List.mem_cons_self first]
    exact Checked.within_eq_ok
  | none =>
    cases second : (named entries).lookup other with
    | some value =>
      rw [takes (by simp) second]
      exact Checked.within_eq_ok
    | none =>
      have absent : ∀ key ∈ [name, other], ¬ Present entries key := by
        simp only [List.forall_mem_cons, present_iff, first, second]
        simp
      constructor
      · intro default
        exact .inr ⟨absent, (Except.ok.inj default).symm⟩
      · rintro (⟨key, among, value, inside, -⟩ | ⟨-, rfl⟩)
        · exact absurd ⟨_, inside⟩ (absent key among)
        · rfl

theorem faults_setting {faults : Value → List Fault}
    (reads : ∀ entry ∈ entries, (read entry.2).faults = faults entry.2) :
    (setting (named entries) name other absent read).faults =
      settingFaults entries faults [name, other] := by
  have each {key : String} {value : Value} (found : (named entries).lookup key = some value) :
      ((read value).within (.key key)).faults = (faults value).map (Fault.within (.key key)) := by
    rw [Checked.faults_within, reads _ (Value.mem_of_lookup_named found)]
  unfold setting
  cases first : (named entries).lookup name with
  | some value => simpa [settingFaults, first] using each first
  | none =>
    cases second : (named entries).lookup other with
    | some value => simpa [settingFaults, first, second] using each second
    | none => simp [settingFaults, first, second, Checked.faults]

end Reading

theorem readOthers_eq_ok {used : List String} {keys : List Value} :
    readOthers used keys = .ok () ↔ keys.filterMap (entryFault? used) = [] := by
  unfold readOthers
  cases keys.filterMap (entryFault? used) <;> simp

theorem faults_readOthers (used : List String) (keys : List Value) :
    (readOthers used keys).faults = keys.filterMap (entryFault? used) := by
  unfold readOthers
  cases keys.filterMap (entryFault? used) <;> rfl

theorem otherFaults_eq (entries : List (Value × Value)) :
    (entries.map Prod.fst).filterMap (entryFault? (usedNames entries)) =
      entries.filterMap fun entry => keyFault? entries entry.1 := by
  rw [List.filterMap_map]
  refine List.filterMap_congr fun entry inside => ?_
  obtain ⟨key, value⟩ := entry
  cases key with
  | text name =>
    have known := mem_usedNames ⟨value, inside⟩
    simp only [Function.comp_apply, entryFault?, keyFault?, List.contains_iff_mem, known]
    rfl
  | _ => rfl

theorem readEntries_eq (entries : List (Value × Value)) :
    readEntries entries = Checked.both (fun config _ => config)
      (Checked.both (fun classes rest => ⟨classes, rest.1, rest.2⟩)
        (setting (named entries) "domain-classes" "domain_classes" [] readTexts)
        (Checked.both Prod.mk
          (setting (named entries) "prelude" "prelude" SourceUnit.defaultPrelude Value.readText)
          (setting (named entries) "file-suffix" "file_suffix" Identifier.defaultSuffix
            Value.readText)))
      (readOthers (usedNames entries) (entries.map Prod.fst)) := by
  have classes : otherName classesKey = "domain_classes" := by decide
  have prelude : otherName preludeKey = "prelude" := by decide
  have suffix : otherName suffixKey = "file_suffix" := by decide
  unfold readEntries
  rw [classes, prelude, suffix]
  rfl

theorem keyFault?_eq_none {key : Value} :
    keyFault? entries key = none ↔ ∃ name, key = .text name ∧ IsSetting entries name := by
  cases key <;> simp [keyFault?]

theorem atMostOne_of_not {name other : String}
    (exclusive : Present entries other → ¬ Present entries name) :
    AtMostOne entries [name, other] := by
  intro key among key' among' present present'
  simp only [List.mem_cons, List.not_mem_nil, or_false] at among among'
  rcases among with rfl | rfl <;> rcases among' with rfl | rfl
  · rfl
  · exact absurd present (exclusive present')
  · exact absurd present' (exclusive present)
  · rfl

theorem forall_isSetting_iff :
    (∀ entry ∈ entries, ∃ name, entry.1 = .text name ∧ IsSetting entries name) ↔
      (∀ entry ∈ entries, ∃ name ∈ classNames ++ preludeNames ++ suffixNames,
        entry.1 = .text name) ∧
      AtMostOne entries classNames ∧ AtMostOne entries suffixNames := by
  constructor
  · intro all
    have setting {name : String} (present : Present entries name) : IsSetting entries name := by
      obtain ⟨value, inside⟩ := present
      obtain ⟨name', is, setting⟩ := all _ inside
      exact Value.text.inj is ▸ setting
    refine ⟨fun entry inside => ?_, ?_, ?_⟩
    · obtain ⟨name, is, setting⟩ := all entry inside
      exact ⟨name, setting.1, is⟩
    · exact atMostOne_of_not fun present => (setting present).2.1 rfl
    · exact atMostOne_of_not fun present => (setting present).2.2 rfl
  · rintro ⟨known, oneClasses, oneSuffix⟩ entry inside
    obtain ⟨name, among, is⟩ := known entry inside
    have present : Present entries name := ⟨entry.2, is ▸ inside⟩
    refine ⟨name, is, among, ?_, ?_⟩
    · rintro rfl hyphenated
      have same := oneClasses _ (by simp [classNames]) _ (by simp [classNames]) present hyphenated
      simp at same
    · rintro rfl hyphenated
      have same := oneSuffix _ (by simp [suffixNames]) _ (by simp [suffixNames]) present hyphenated
      simp at same

theorem faults_readEntries (data : Yaml.AreData entries) :
    (readEntries entries).faults = faultsOf entries := by
  have classes : (setting (named entries) "domain-classes" "domain_classes" [] readTexts).faults =
      settingFaults entries textsFaults classNames :=
    faults_setting fun entry inside => faults_readTexts (data entry inside).2
  have text (name other default : String) :
      (setting (named entries) name other default Value.readText).faults =
        settingFaults entries textFaults [name, other] :=
    faults_setting fun entry inside => faults_readText (data entry inside).2
  -- the prelude has no other name: it is looked for twice under the one it has
  have once : settingFaults entries textFaults ["prelude", "prelude"] =
      settingFaults entries textFaults preludeNames := by
    unfold preludeNames
    cases found : (named entries).lookup "prelude" <;> simp [settingFaults, found]
  rw [readEntries_eq, Checked.faults_both, Checked.faults_both, Checked.faults_both,
    faults_readOthers, otherFaults_eq, classes, text, once, text, faultsOf, suffixNames]
  simp only [List.append_assoc]

theorem readEntries_eq_ok_iff (data : Yaml.AreData entries) (distinct : HasDistinctNames entries) :
    readEntries entries = .ok config ↔ Accepts entries config := by
  have others : readOthers (usedNames entries) (entries.map Prod.fst) = .ok () ↔
      (∀ entry ∈ entries, ∃ name ∈ classNames ++ preludeNames ++ suffixNames,
        entry.1 = .text name) ∧
      AtMostOne entries classNames ∧ AtMostOne entries suffixNames := by
    rw [readOthers_eq_ok, otherFaults_eq, List.filterMap_eq_nil_iff, ← forall_isSetting_iff]
    exact forall₂_congr fun _ _ => keyFault?_eq_none
  have classes (one : AtMostOne entries classNames) (texts : List String) :
      setting (named entries) "domain-classes" "domain_classes" [] readTexts = .ok texts ↔
        Takes entries classNames (IsTexts · texts) (texts = []) :=
    setting_eq_ok_iff distinct one fun entry inside => readTexts_eq_ok (data entry inside).2
  have text {name other : String} (one : AtMostOne entries [name, other]) (default s : String) :
      setting (named entries) name other default Value.readText = .ok s ↔
        Takes entries [name, other] (IsText · s) (s = default) :=
    setting_eq_ok_iff distinct one fun entry inside => readText_eq_ok (data entry inside).2
  have prelude (s : String) : setting (named entries) "prelude" "prelude"
      SourceUnit.defaultPrelude Value.readText = .ok s ↔
        Takes entries preludeNames (IsText · s) (s = SourceUnit.defaultPrelude) := by
    rw [text (by simp [AtMostOne])]
    simp [Takes, preludeNames]
  rw [readEntries_eq]
  constructor
  · intro read
    obtain ⟨_, _, settings, rest, rfl⟩ := Checked.both_eq_ok.mp read
    obtain ⟨_, _, first, texts, rfl⟩ := Checked.both_eq_ok.mp settings
    obtain ⟨_, _, second, third, rfl⟩ := Checked.both_eq_ok.mp texts
    obtain ⟨known, oneClasses, oneSuffix⟩ := others.mp rest
    exact ⟨known, oneClasses, oneSuffix, (classes oneClasses _).mp first,
      (prelude _).mp second, (text oneSuffix _ _).mp third⟩
  · rintro ⟨known, oneClasses, oneSuffix, first, second, third⟩
    refine Checked.both_eq_ok.mpr ⟨config, (), ?_, others.mpr ⟨known, oneClasses, oneSuffix⟩, rfl⟩
    refine Checked.both_eq_ok.mpr ⟨_, (config.prelude, config.suffix),
      (classes oneClasses _).mpr first, ?_, rfl⟩
    exact Checked.both_eq_ok.mpr
      ⟨_, _, (prelude _).mpr second, (text oneSuffix _ _).mpr third, rfl⟩

theorem isSound_readEntries (entries : List (Value × Value)) :
    Checked.IsSound (readEntries entries) := by
  have setting {α : Type} {read : Value → Checked α} (each : ∀ value, Checked.IsSound (read value))
      (name other : String) (absent : α) :
      Checked.IsSound (setting (named entries) name other absent read) := by
    unfold setting
    split
    · exact (each _).within _
    · exact (each _).within _
    · exact .ok _
  have texts (value : Value) : Checked.IsSound (readTexts value) := by
    rw [readTexts_eq]
    split
    · exact .parts (fun item _ => item.isSound_readText) 0
    · exact .fault _
  have others : Checked.IsSound (readOthers (usedNames entries) (entries.map Prod.fst)) := by
    intro none
    rw [faults_readOthers] at none
    exact ⟨(), readOthers_eq_ok.mpr none⟩
  rw [readEntries_eq]
  have text := setting Value.isSound_readText
  exact ((setting texts _ _ _).both ((text _ _ _).both (text _ _ _) _) _).both others _

theorem exists_accepts_iff (data : Yaml.AreData entries) (distinct : HasDistinctNames entries) :
    (∃ config, Accepts entries config) ↔ faultsOf entries = [] := by
  simp only [← readEntries_eq_ok_iff data distinct]
  rw [← (isSound_readEntries entries).faults_eq_nil_iff, faults_readEntries data]

/-! ## Each fault once -/

def HasDifferentSteps (entries : List (Value × Value)) : Prop :=
  entries.Pairwise fun entry other => (∀ s, entry.1 ≠ .text s) → (∀ s, other.1 ≠ .text s) →
    entry.1.step ≠ other.1.step

theorem nodup_textFaults (value : Value) : (textFaults value).Nodup := by
  unfold textFaults
  cases textFault? value <;> simp

theorem nodup_textsFaults (value : Value) : (textsFaults value).Nodup := by
  unfold textsFaults
  cases elements? value with
  | none => exact List.nodup_singleton _
  | some items => exact Checked.nodup_faultsFrom nodup_textFaults items 0

section Settings

variable {names : List String} {faults : Value → List Fault}

theorem settingFaults_cases (entries : List (Value × Value)) (names : List String)
    (faults : Value → List Fault) :
    settingFaults entries faults names = [] ∨ ∃ name ∈ names, ∃ value,
      settingFaults entries faults names = (faults value).map (Fault.within (.key name)) := by
  induction names with
  | nil => exact .inl rfl
  | cons name others ih =>
    rw [settingFaults]
    split
    · next value _ => exact .inr ⟨name, List.mem_cons_self, value, rfl⟩
    · refine ih.imp_right fun ⟨name, among, under⟩ => ?_
      exact ⟨name, List.mem_cons_of_mem _ among, under⟩

theorem nodup_settingFaults (each : ∀ value, (faults value).Nodup) :
    (settingFaults entries faults names).Nodup := by
  rcases settingFaults_cases entries names faults with none | ⟨name, -, value, are⟩
  · exact none ▸ List.nodup_nil
  · exact are ▸ (each value).map (Fault.within_injective _)

theorem head_settingFaults {fault : Fault}
    (inside : fault ∈ settingFaults entries faults names) :
    ∃ name ∈ names, fault.location.head? = some (.key name) := by
  rcases settingFaults_cases entries names faults with none | ⟨name, among, value, are⟩
  · cases none ▸ inside
  · obtain ⟨under, -, rfl⟩ := List.mem_map.mp (are ▸ inside)
    exact ⟨name, among, rfl⟩

def IsOfValue (fault : Fault) : Prop :=
  fault.kind ≠ .unexpected ∧ fault.kind ≠ .keyNotText

theorem isOfValue_textFaults (value : Value) : ∀ fault ∈ textFaults value, IsOfValue fault := by
  unfold textFaults textFault?
  split
  · simp
  · split <;> simp [IsOfValue, Fault.here]
  · simp [IsOfValue, Fault.here]

theorem isOfValue_textsFaults (value : Value) : ∀ fault ∈ textsFaults value, IsOfValue fault := by
  unfold textsFaults
  split
  · simp only [Checked.faultsFrom, List.forall_mem_flatMap, List.forall_mem_map]
    exact fun item _ fault inside => isOfValue_textFaults item.1 fault inside
  · simp [IsOfValue, Fault.here]

theorem isOfValue_settingFaults (each : ∀ value, ∀ fault ∈ faults value, IsOfValue fault) :
    ∀ fault ∈ settingFaults entries faults names, IsOfValue fault := by
  rcases settingFaults_cases entries names faults with none | ⟨name, -, value, are⟩
  · simp [none]
  · rw [are]
    exact List.forall_mem_map.mpr fun fault inside => each value fault inside

end Settings

theorem keyFault?_eq_some {key : Value} {fault : Fault} :
    keyFault? entries key = some fault ↔
      (∃ name, key = .text name ∧ ¬ IsSetting entries name ∧
        fault = ⟨[.key name], .unexpected⟩) ∨
      (∀ s, key ≠ .text s) ∧ fault = ⟨[key.step], .keyNotText⟩ := by
  cases key <;> simp [keyFault?, eq_comm]

theorem not_isOfValue_keyFault {key : Value} {fault : Fault}
    (has : keyFault? entries key = some fault) : ¬ IsOfValue fault := by
  rcases keyFault?_eq_some.mp has with ⟨name, -, -, rfl⟩ | ⟨-, rfl⟩ <;> simp [IsOfValue]

theorem nodup_keyFaults_iff (different : Yaml.HasDifferentKeys entries) :
    (entries.filterMap fun entry => keyFault? entries entry.1).Nodup ↔
      HasDifferentSteps entries := by
  rw [List.Nodup, List.pairwise_filterMap]
  constructor
  · refine List.Pairwise.imp fun {entry other} apart noText noText' step => ?_
    refine apart _ (keyFault?_eq_some.mpr (.inr ⟨noText, rfl⟩)) _
      (keyFault?_eq_some.mpr (.inr ⟨noText', rfl⟩)) ?_
    rw [step]
  · intro steps
    refine (steps.and different).imp fun {entry other} apart fault has fault' has' same => ?_
    obtain ⟨steps, differ⟩ := apart
    obtain ⟨key, value⟩ := entry
    obtain ⟨key', value'⟩ := other
    rcases keyFault?_eq_some.mp has with ⟨s, rfl, -, rfl⟩ | ⟨noText, rfl⟩ <;>
      rcases keyFault?_eq_some.mp has' with ⟨s', rfl, -, rfl⟩ | ⟨noText', rfl⟩
    · obtain rfl : s = s' := by simpa using same
      simp [Yaml.Node.sameKey_text] at differ
    · simp at same
    · simp at same
    · exact steps noText noText' (by simpa using same)

theorem nodup_faultsOf_iff (different : Yaml.HasDifferentKeys entries) :
    (faultsOf entries).Nodup ↔ HasDifferentSteps entries := by
  have apart {names names' : List String} {faults faults' : Value → List Fault}
      (differ : ∀ name ∈ names, ∀ name' ∈ names', name ≠ name') :
      (settingFaults entries faults names).Disjoint (settingFaults entries faults' names') := by
    intro fault left right
    obtain ⟨name, among, head⟩ := head_settingFaults left
    obtain ⟨name', among', head'⟩ := head_settingFaults right
    obtain rfl := Step.key.inj (Option.some.inj (head.symm.trans head'))
    exact differ name among name among' rfl
  have keysApart {names : List String} {faults : Value → List Fault}
      (each : ∀ value, ∀ fault ∈ faults value, IsOfValue fault) :
      (settingFaults entries faults names).Disjoint
        (entries.filterMap fun entry => keyFault? entries entry.1) := by
    intro fault left right
    obtain ⟨entry, -, has⟩ := List.mem_filterMap.mp right
    exact not_isOfValue_keyFault has (isOfValue_settingFaults each fault left)
  rw [← nodup_keyFaults_iff different, faultsOf]
  simp only [List.nodup_append', List.disjoint_append_left, nodup_settingFaults nodup_textFaults,
    nodup_settingFaults nodup_textsFaults,
    apart (by decide : ∀ name ∈ classNames, ∀ name' ∈ preludeNames, name ≠ name'),
    apart (by decide : ∀ name ∈ classNames, ∀ name' ∈ suffixNames, name ≠ name'),
    apart (by decide : ∀ name ∈ preludeNames, ∀ name' ∈ suffixNames, name ≠ name'),
    keysApart isOfValue_textFaults, keysApart isOfValue_textsFaults, true_and, and_true]

theorem hasDifferentSteps_of_isKey (different : Yaml.HasDifferentKeys entries)
    (keys : ∀ entry ∈ entries, Value.IsKey entry.1) : HasDifferentSteps entries := by
  refine different.distinct.imp_of_mem ?_
  intro entry other inside inside' differ noText noText' step
  have same := (keys _ inside).same_of_step_eq (keys _ inside') noText noText' step
  cases differ.symm.trans same

/-! ## Loading -/

section Loading

variable {runtime : Yaml.Runtime} {tree : FileTree} {path : FilePath} {text : String}
  {readOnly : Bool} (holds : HoldsText tree path text)
  (parsed : Yaml.read runtime text = .ok (.mapping readOnly entries))

include holds parsed

theorem load_of_mapping :
    load runtime tree path = (readEntries entries).mapError (.invalid path) := by
  obtain ⟨node, written, held, hasText, rfl⟩ := holds
  unfold load ofText
  simp only [held, hasText, parsed]

theorem load_eq_ok_iff : load runtime tree path = .ok config ↔ Accepts entries config := by
  obtain ⟨data, different⟩ := Yaml.read_entries parsed
  rw [load_of_mapping holds parsed, mapError_eq_ok,
    readEntries_eq_ok_iff data different.distinct.names]

theorem load_eq_error_iff :
    load runtime tree path = .error (.invalid path (faultsOf entries)) ↔ faultsOf entries ≠ [] := by
  obtain ⟨data, -⟩ := Yaml.read_entries parsed
  rw [load_of_mapping holds parsed]
  have all := faults_readEntries data
  have sound := isSound_readEntries entries
  cases read : readEntries entries with
  | ok config =>
    have none : [] = faultsOf entries := by rwa [read] at all
    exact iff_of_false (fun failed => by cases failed) (fun some => some none.symm)
  | error faults =>
    rw [read] at all sound
    obtain rfl : faults = faultsOf entries := all
    refine iff_of_true rfl fun none => ?_
    obtain ⟨config, is⟩ := sound none
    cases is

end Loading

/-- A configuration file that holds a mapping is loaded iff the mapping is accepted, as what it is
accepted as, in whatever order its entries are; otherwise its faults are reported. The keys of the
mapping are all different, and each fault is reported once, where the steps to the keys that are no
texts are different. -/
theorem load_mapping {runtime : Yaml.Runtime} {tree : FileTree} {path : FilePath} {text : String}
    {readOnly : Bool} {entries : List (Value × Value)} (holds : HoldsText tree path text)
    (parsed : Yaml.read runtime text = .ok (.mapping readOnly entries)) :
    Yaml.HasDifferentKeys entries ∧
      (∀ config, load runtime tree path = .ok config ↔ Accepts entries config) ∧
      (∀ runtime' tree' path' text' readOnly' entries', HoldsText tree' path' text' →
        Yaml.read runtime' text' = .ok (.mapping readOnly' entries') → entries'.Perm entries →
        ∀ config, load runtime' tree' path' = .ok config ↔ load runtime tree path = .ok config) ∧
      ((∃ config, Accepts entries config) ↔ faultsOf entries = []) ∧
      (load runtime tree path = .error (.invalid path (faultsOf entries)) ↔
        faultsOf entries ≠ []) ∧
      ((faultsOf entries).Nodup ↔ HasDifferentSteps entries) ∧
      ((∀ entry ∈ entries, Value.IsKey entry.1) → (faultsOf entries).Nodup) := by
  obtain ⟨data, different⟩ := Yaml.read_entries parsed
  have once := nodup_faultsOf_iff different
  refine ⟨different, fun _ => load_eq_ok_iff holds parsed, ?_,
    exists_accepts_iff data different.distinct.names, load_eq_error_iff holds parsed, once, ?_⟩
  · intro runtime' tree' path' text' readOnly' entries' holds' parsed' same config
    rw [load_eq_ok_iff holds parsed, load_eq_ok_iff holds' parsed']
    exact ⟨.perm same, .perm same.symm⟩
  · exact fun keys => once.mpr (hasDifferentSteps_of_isKey different keys)

def twoSuffixes : List (String × Yaml.Writer.Entry) :=
  [("file_suffix", .text ".old"), ("colour", .text "red"), ("file-suffix", .text ".new")]

theorem load_twoSuffixes :
    load (.ofLevels 0) (configTree (.text (written twoSuffixes))) configPath =
      .error (.invalid configPath
        [⟨[.key "file_suffix"], .unexpected⟩, ⟨[.key "colour"], .unexpected⟩]) := by
  have keys : ∀ entry ∈ twoSuffixes, Yaml.IsKey entry.1 := by decide
  have unified : String.ofList (unifyLines (written twoSuffixes).toList) = written twoSuffixes := by
    rw [unifyLines_eq_self (isPrintable_written keys), String.ofList_toList]
  have holds : HoldsText (configTree (.text (written twoSuffixes))) configPath
      (written twoSuffixes) := ⟨_, _, rfl, rfl, unified.symm⟩
  have parsed : Yaml.read (.ofLevels 0) _ = _ :=
    read_written (List.cons_ne_nil _ _) keys (by decide)
  obtain ⟨-, -, -, -, rejected, -⟩ := load_mapping holds parsed
  exact rejected.mpr (by decide)

/-- Bytes are no text and a set is no list, but they are accepted for them. Faults are located under
the name that is there. -/
theorem load_lax :
    (∃ data, Yaml.read (.ofLevels 0) "prelude: !!binary aGk=\n" =
        .ok (.dict [(.text "prelude", data)]) ∧ (∀ s, data ≠ .text s) ∧
      load (.ofLevels 0) (configTree (.text "prelude: !!binary aGk=\n")) configPath =
        .ok { default with prelude := "hi" }) ∧
    (∃ data, Yaml.read (.ofLevels 0) "domain-classes: !!set \x7bx\x7d\n" =
        .ok (.dict [(.text "domain-classes", data)]) ∧ (∀ items, data ≠ .list items) ∧
      load (.ofLevels 0) (configTree (.text "domain-classes: !!set \x7bx\x7d\n")) configPath =
        .ok { default with domainClasses := ["x"] }) ∧
    load (.ofLevels 0) (configTree (.text "domain_classes: 5\n")) configPath =
      .error (.invalid configPath [⟨[.key "domain_classes"], .notList⟩]) := by
  have binary : Yaml.Token.ofText "prelude: !!binary aGk=\n".toList =
      [.blockMappingStart, .key, .scalar "prelude" true, .value, .tag (some "!!") "binary",
        .scalar "aGk=" true, .blockEnd, .streamEnd] := by
    decide +kernel
  have set : Yaml.Token.ofText "domain-classes: !!set \x7bx\x7d\n".toList =
      [.blockMappingStart, .key, .scalar "domain-classes" true, .value, .tag (some "!!") "set",
        .flowMappingStart, .scalar "x" true, .flowMappingEnd, .blockEnd, .streamEnd] := by
    decide +kernel
  have number : Yaml.Token.ofText "domain_classes: 5\n".toList =
      [.blockMappingStart, .key, .scalar "domain_classes" true, .value, .scalar "5" true,
        .blockEnd, .streamEnd] := by
    decide +kernel
  have binaryRead : Yaml.read (.ofLevels 0) "prelude: !!binary aGk=\n" =
      .ok (.dict [(.text "prelude", .bytes false [104, 105])]) := by
    rw [Yaml.read, binary]
    rfl
  have setRead : Yaml.read (.ofLevels 0) "domain-classes: !!set \x7bx\x7d\n" =
      .ok (.dict [(.text "domain-classes", .collection .set [.text "x"])]) := by
    rw [Yaml.read, set]
    rfl
  have numberRead : Yaml.read (.ofLevels 0) "domain_classes: 5\n" =
      .ok (.dict [(.text "domain_classes", .int 5)]) := by
    rw [Yaml.read, number]
    rfl
  have loads {text : String} {entries : List (Value × Value)} {config : Config}
      (same : text = String.ofList (unifyLines text.toList))
      (parsed : Yaml.read (.ofLevels 0) text = .ok (.dict entries))
      (read : readEntries entries = .ok config) :
      load (.ofLevels 0) (configTree (.text text)) configPath = .ok config := by
    rw [load_of_mapping ⟨_, _, rfl, rfl, same⟩ parsed, read]
    rfl
  refine ⟨⟨_, binaryRead, fun s => by simp, loads (by decide) binaryRead (by decide +kernel)⟩,
    ⟨_, setRead, fun items => by simp, loads (by decide) setRead (by decide +kernel)⟩, ?_⟩
  refine (load_eq_error_iff ⟨_, _, rfl, rfl, by decide⟩ numberRead).mpr ?_
  decide

end EnumTables.Config
