import EnumTables.Proofs.Config.RoundTrip
import EnumTables.Proofs.Generation.Endings
import EnumTables.Proofs.Yaml.Rejected

/-!
# How loading a configuration ends

Loading gives a configuration, reports what is wrong with the file, or ends with another exception;
`load_endings` says exactly when the last is the case: the path has a null character, the file is
not UTF-8, or reading it as YAML raises. The last goes back to a document that nests too deep, an
escape that stands for no character, or a scalar that is not the truth value, number or time it is
said to be.
-/

namespace EnumTables

namespace FileTree

variable {tree : FileTree} {path : FilePath}

theorem read_impossible_iff :
    tree.read path = .error .impossibleName ↔ path.hasNul = true := by
  rw [read, bind_eq_error, target_impossible_iff]
  refine or_iff_left ?_
  rintro ⟨target, -, failed⟩
  cases target with
  | absent place => cases failed
  | found place node =>
    dsimp only at failed
    split at failed <;> cases failed

theorem isDirectory_of_read {node : Node} (h : tree.read path = .ok node) :
    node.isDirectory = false := by
  obtain ⟨target, -, h⟩ := bind_eq_ok.mp h
  cases target with
  | absent place => cases h
  | found place other =>
    dsimp only at h
    split at h
    · cases h
    · next isFile =>
      cases h
      simpa using isFile

end FileTree

namespace Config

open Yaml (IsBareWord IsCause IsKey IsVoidEscape Tag exceptionKinds isAllowed read_brackets
  read_raises read_rejected read_voidEscape settingLine valueError_mem)

variable {runtime : Yaml.Runtime} {tree : FileTree} {path : FilePath}

/-- The text of the file at a path, with one kind of line break. -/
def HoldsText (tree : FileTree) (path : FilePath) (text : String) : Prop :=
  ∃ node written, tree.read path = .ok node ∧ textOf node = some written ∧
    text = String.ofList (unifyLines written.toList)

/-- What loading ends with, where it is neither a configuration nor a report. -/
inductive Uncaught (runtime : Yaml.Runtime) (tree : FileTree) (path : FilePath) :
    ConfigFailure → Prop where
  | name (nul : path.hasNul = true) :
      Uncaught runtime tree path (.exception FileError.impossibleName.raised)
  | encoding {content} (holds : tree.read path = .ok (.bytes content))
      (noText : String.fromUTF8? ⟨content.toArray⟩ = none) : Uncaught runtime tree path .undecodable
  | yaml {text raised} (holds : HoldsText tree path text)
      (raises : Yaml.read runtime text = .error (.exception raised)) :
      Uncaught runtime tree path (.exception raised)

theorem ofText_uncaught_iff {text : String} {failure : ConfigFailure} :
    ofText runtime path text = .error failure ∧ failure.report? = none ↔
      ∃ raised, failure = .exception raised ∧
        Yaml.read runtime (String.ofList (unifyLines text.toList)) = .error (.exception raised) := by
  unfold ofText
  generalize Yaml.read runtime _ = outcome
  constructor
  · rintro ⟨failed, unreported⟩
    split at failed
    · cases failed
      cases unreported
    · next _ raised =>
      cases failed
      exact ⟨raised, rfl, rfl⟩
    · cases failed
    · next _ _ entries =>
      cases read : readEntries entries with
      | ok config => rw [read] at failed; cases failed
      | error faults =>
        rw [read] at failed
        cases failed
        cases unreported
    · cases failed
      cases unreported
  · rintro ⟨raised, rfl, raises⟩
    rw [raises]
    exact ⟨rfl, rfl⟩

theorem Uncaught.ends {failure : ConfigFailure} (uncaught : Uncaught runtime tree path failure) :
    load runtime tree path = .error failure ∧ failure.report? = none := by
  unfold load
  cases uncaught with
  | name nul =>
    rw [FileTree.read_impossible_iff.mpr nul]
    exact ⟨rfl, rfl⟩
  | encoding held noText =>
    simp only [held, textOf, noText]
    exact ⟨trivial, rfl⟩
  | yaml holds raises =>
    obtain ⟨node, text, held, hasText, rfl⟩ := holds
    simp only [held, hasText]
    exact ofText_uncaught_iff.mpr ⟨_, rfl, raises⟩

theorem load_uncaught_iff (described : ∀ model, tree.read path ≠ .ok (.module model))
    {failure : ConfigFailure} :
    load runtime tree path = .error failure ∧ failure.report? = none ↔
      Uncaught runtime tree path failure := by
  refine ⟨fun ended => ?_, Uncaught.ends⟩
  obtain ⟨failed, unreported⟩ := ended
  unfold load at failed
  split at failed
  · cases failed
    cases unreported
  · next unread =>
    cases failed
    exact .name (FileTree.read_impossible_iff.mp unread)
  · cases failed
    cases unreported
  · next node held =>
    split at failed
    · next noText =>
      cases failed
      cases node with
      | directory => cases FileTree.isDirectory_of_read held
      | text content => cases noText
      | bytes content => exact .encoding held noText
      | module model => exact absurd held (described model)
    · next text hasText =>
      obtain ⟨raised, rfl, raises⟩ := ofText_uncaught_iff.mp ⟨failed, unreported⟩
      exact .yaml ⟨node, text, held, hasText, rfl⟩ raises

theorem Uncaught.origin {raised : Raised}
    (uncaught : Uncaught runtime tree path (.exception raised)) :
    raised.kind ∈ exceptionKinds ∧
      (path.hasNul = true ∨ ∃ text, HoldsText tree path text ∧ IsCause runtime text raised) := by
  cases uncaught with
  | name nul => exact ⟨valueError_mem, .inl nul⟩
  | yaml holds raises => exact ⟨(read_raises raises).kind_mem, .inr ⟨_, holds, read_raises raises⟩⟩

/-- Loading gives a configuration or a report iff nothing is `Uncaught`, and ends with what is
otherwise. An exception is of one of a few classes, and goes back to the path or to a cause in the
text of the file. Every escape for no character at the start of a file, every file of more opening
brackets than there is room for and every value of a setting that is not what it looks like does
come out. -/
theorem load_endings (described : ∀ model, tree.read path ≠ .ok (.module model)) :
    (((∃ config, load runtime tree path = .ok config) ∨ ∃ failure report,
        load runtime tree path = .error failure ∧ failure.report? = some report) ↔
      ∀ failure, ¬Uncaught runtime tree path failure) ∧
    (∀ failure, load runtime tree path = .error failure ∧ failure.report? = none ↔
      Uncaught runtime tree path failure) ∧
    (∀ raised, Uncaught runtime tree path (.exception raised) → raised.kind ∈ exceptionKinds ∧
      (path.hasNul = true ∨ ∃ text, HoldsText tree path text ∧ IsCause runtime text raised)) ∧
    (∀ raised part rest, IsVoidEscape raised part →
      ('"' :: (part ++ rest)).all isAllowed = true →
      HoldsText tree path (String.ofList ('"' :: (part ++ rest))) →
      Uncaught runtime tree path (.exception raised)) ∧
    (∀ levels, (∀ ahead, runtime.hasRoom levels ahead = false) →
      HoldsText tree path (String.ofList (List.replicate (levels + 1) '[')) →
      Uncaught runtime tree path (.exception Yaml.Runtime.overflow)) ∧
    ∀ raised key word, IsKey key → IsBareWord word.toList →
      (Tag.ofPlain word).Rejects word raised → HoldsText tree path (settingLine key word) →
      Uncaught runtime tree path (.exception raised) := by
  have uncaught (failure : ConfigFailure) :
      load runtime tree path = .error failure ∧ failure.report? = none ↔
        Uncaught runtime tree path failure :=
    load_uncaught_iff described
  refine ⟨?_, uncaught, fun _ => Uncaught.origin,
    fun _ _ _ void allowed holds => .yaml holds (read_voidEscape void allowed),
    fun _ deep holds => .yaml holds (read_brackets deep),
    fun _ _ _ isKey bare rejects holds => .yaml holds (read_rejected isKey bare rejects)⟩
  simp only [← uncaught]
  cases load runtime tree path with
  | ok config => simp
  | error failure => simpa using Option.ne_none_iff_exists'.symm

/-! ## Files that cannot be loaded -/

def configTree (content : Node) : FileTree :=
  ⟨[], [([fileName], content)]⟩

def configPath : FilePath :=
  ⟨"", [fileName]⟩

def lateSuffix : Node :=
  .text (settingLine suffixKey "2020-13-01")

theorem isKey_suffix : IsKey suffixKey :=
  isKey_settings (show (suffixKey, .text default.suffix) ∈ settings default by simp [settings])

theorem isBareWord_late : IsBareWord "2020-13-01".toList :=
  ⟨by decide, by decide, by decide⟩

theorem rejects_late :
    (Tag.ofPlain "2020-13-01").Rejects "2020-13-01" (.valueError "month must be in 1..12") := by
  have looks : Tag.ofPlain "2020-13-01" = .timestamp := by decide +kernel
  rw [looks]
  exact .timestamp rfl

theorem holdsText_late :
    HoldsText (configTree lateSuffix) configPath (settingLine suffixKey "2020-13-01") :=
  ⟨lateSuffix, _, rfl, rfl, by decide⟩

theorem load_endings_late :
    (∀ model, (configTree lateSuffix).read configPath ≠ .ok (.module model)) ∧
    Uncaught (.ofLevels 0) (configTree lateSuffix) configPath
      (.exception (.valueError "month must be in 1..12")) ∧
    load (.ofLevels 0) (configTree lateSuffix) configPath =
      .error (.exception (.valueError "month must be in 1..12")) := by
  have described (model : ModuleModel) :
      (configTree lateSuffix).read configPath ≠ .ok (.module model) := by
    have text : (configTree lateSuffix).read configPath = .ok lateSuffix := rfl
    rw [text]
    intro same
    cases same
  obtain ⟨-, uncaught, -, -, -, rejected⟩ := load_endings described
  have late := rejected _ _ _ isKey_suffix isBareWord_late rejects_late holdsText_late
  exact ⟨described, late, ((uncaught _).mpr late).1⟩

theorem load_uncaught :
    load (.ofLevels 0) (configTree (.bytes [0xff])) configPath = .error .undecodable ∧
    load (.ofLevels 0) (configTree lateSuffix) configPath =
      .error (.exception (.valueError "month must be in 1..12")) ∧
    load (.ofLevels 0) (configTree (.text "\"\\U00110000\"")) configPath =
      .error (.exception (.valueError "chr() arg not in range(0x110000)")) ∧
    ConfigFailure.undecodable.report? = none ∧
    ∀ raised, (ConfigFailure.exception raised).report? = none := by
  have noText : String.fromUTF8? ⟨#[0xff]⟩ = none := by decide +kernel
  have bytes : Uncaught (.ofLevels 0) (configTree (.bytes [0xff])) configPath .undecodable :=
    .encoding rfl noText
  have late : Uncaught (.ofLevels 0) _ _ _ := .yaml holdsText_late
    (read_rejected isKey_suffix isBareWord_late rejects_late)
  have void : IsVoidEscape (.valueError "chr() arg not in range(0x110000)")
      "\\U00110000".toList :=
    ⟨'U', "00110000".toList, 0x110000, by decide, by decide, by decide, rfl⟩
  have raises : Yaml.read (.ofLevels 0) (String.ofList ('"' :: ("\\U00110000".toList ++ ['"']))) =
      .error (.exception _) := read_voidEscape void (by decide)
  have beyond : Uncaught (.ofLevels 0) (configTree (.text "\"\\U00110000\"")) configPath _ :=
    .yaml ⟨_, _, rfl, rfl, by decide⟩ raises
  exact ⟨bytes.ends.1, late.ends.1, beyond.ends.1, rfl, fun _ => rfl⟩

end Config

end EnumTables
