import EnumTables.Config.Reading
import EnumTables.Proofs.FileTree
import EnumTables.Proofs.Yaml.RoundTrip

/-!
# Written configurations are read again

Whatever texts a configuration holds, reading what was written for it gives the same configuration
(`load_write`). So a starter configuration with any classes is read as these classes and the
defaults (`load_starter`).
-/

namespace EnumTables.Config

open Yaml (IsPrintable IsComment IsKey read_mapping)

variable {runtime : Yaml.Runtime}

/-! ## Text -/

theorem unifyLines_eq_self {text : List Char} (printable : IsPrintable text) :
    unifyLines text = text := by
  induction text with
  | nil => rfl
  | cons c rest ih =>
    obtain ⟨here, later⟩ := List.forall_mem_cons.mp printable
    have noReturn : c ≠ '\r' := by
      rintro rfl
      cases here
    rw [unifyLines, ih later]
    · exact fun _ same => absurd same noReturn
    · exact noReturn

def starterComments : List Char :=
  starterHead.toList.dropLast

theorem starterHead_eq : starterHead = String.ofList (starterComments ++ ['\n']) := by
  decide

theorem isComment_starterComments : IsComment starterComments := by
  have lines : starterComments = '#' :: (" enumtab generator configuration".toList ++ '\n' ::
      '#' :: " List enum classes as 'package.module:ClassName'.".toList) := by decide
  rw [lines]
  exact .cons (by decide) (.line (by decide))

theorem isPrintable_starterComments : IsPrintable starterComments := by
  decide

def written (entries : List (String × Yaml.Writer.Entry)) : String :=
  starterHead ++ Yaml.Writer.mapping entries

section Written

variable {entries : List (String × Yaml.Writer.Entry)}

theorem isPrintable_written (keys : ∀ entry ∈ entries, IsKey entry.1) :
    IsPrintable (written entries).toList := by
  rw [written, starterHead_eq, String.toList_append, String.toList_ofList]
  exact (isPrintable_starterComments.append (.cons rfl .nil)).append
    (.mapping fun entry inside => (keys entry inside).printable)

theorem read_written (nonempty : entries ≠ []) (keys : ∀ entry ∈ entries, IsKey entry.1)
    (distinct : (entries.map Prod.fst).Nodup) : Yaml.read runtime (written entries) =
      .ok (.dict (entries.map fun entry => (.text entry.1, entry.2.value))) := by
  rw [written, starterHead_eq]
  exact read_mapping runtime isComment_starterComments isPrintable_starterComments nonempty keys
    distinct

end Written

def settings (config : Config) : List (String × Yaml.Writer.Entry) :=
  [(classesKey, .list config.domainClasses), (preludeKey, .text config.prelude),
    (suffixKey, .text config.suffix)]

theorem isKey_settings {config : Config} {entry : String × Yaml.Writer.Entry}
    (inside : entry ∈ settings config) : IsKey entry.1 := by
  have keys : ∀ key ∈ [classesKey, preludeKey, suffixKey], IsKey key := by decide
  exact keys entry.1 (List.mem_map_of_mem (f := Prod.fst) inside)

/-! ## Settings -/

theorem parts_texts (texts : List String) (index : Int) :
    Checked.parts Value.readText (texts.map .text) index = .ok texts := by
  induction texts generalizing index with
  | nil => rfl
  | cons text texts ih =>
    rw [List.map_cons, Checked.parts, ih]
    rfl

theorem readEntries_settings (config : Config) :
    readEntries ((settings config).map fun entry => (.text entry.1, entry.2.value)) =
      .ok config := by
  have classes : readTexts (.list (config.domainClasses.map .text)) = .ok config.domainClasses :=
    parts_texts _ 0
  simp [readEntries, settings, Yaml.Writer.Entry.value, setting, List.lookup_cons, classesKey,
    preludeKey, suffixKey, classes, Checked.within, Value.readText, Value.asText?, Checked.both,
    readOthers, usedName, entryFault?]

theorem ofText_write (path : FilePath) (config : Config) :
    ofText runtime path config.write = .ok config := by
  have text : config.write = written (settings config) := rfl
  have read : Yaml.read runtime (written (settings config)) =
      .ok (.dict ((settings config).map fun entry => (.text entry.1, entry.2.value))) :=
    read_written (List.cons_ne_nil _ _) (fun entry inside => isKey_settings inside)
      (show [classesKey, preludeKey, suffixKey].Nodup by decide)
  have printable : IsPrintable (written (settings config)).toList :=
    isPrintable_written fun entry inside => isKey_settings inside
  rw [text, ofText, unifyLines_eq_self printable, String.ofList_toList, read]
  simp only [readEntries_settings]
  rfl

theorem load_write {tree after : FileTree} {path : FilePath} (config : Config)
    (written : tree.write path config.write = .ok after) :
    load runtime after path = .ok config := by
  obtain ⟨place, locates, below, rfl, grows⟩ := FileTree.write_eq_ok written
  have found : (tree.put place (.text config.write)).node? place = some (.text config.write) := by
    rw [FileTree.node?_put _ _ _ _ below, if_pos rfl]
  rw [load, (locates.grows grows).read found]
  exact ofText_write path config

/-- A starter configuration is read as the classes it was made for and the defaults. -/
theorem load_starter {tree after : FileTree} {path : FilePath} (classes : List String)
    (written : tree.write path (starter classes) = .ok after) :
    load runtime after path = .ok ⟨classes, default.prelude, default.suffix⟩ :=
  load_write { default with domainClasses := classes } written

/-- Texts of every kind: empty, blanks at the ends, quotes, colons and hashes, line breaks, what
looks like other data, a tab and letters beyond ASCII. -/
def oddClasses : List String :=
  ["", " m:C ", "it's", "\"m\"", "a: b # c", "two\nlines\n", "- x", "007", "yes", "~", "2020-01-01",
    "\ttab", "größe"]

theorem load_starter_odd : ∃ after,
    (FileTree.mk [] []).write ⟨"", [fileName]⟩ (starter oddClasses) = .ok after ∧
      load (.ofLevels 0) after ⟨"", [fileName]⟩ = .ok ⟨oddClasses, default.prelude, default.suffix⟩ := by
  have written : (FileTree.mk [] []).write ⟨"", [fileName]⟩ (starter oddClasses) =
      .ok ((FileTree.mk [] []).put [fileName] (.text (starter oddClasses))) := rfl
  exact ⟨_, written, load_starter oddClasses written⟩

end EnumTables.Config
