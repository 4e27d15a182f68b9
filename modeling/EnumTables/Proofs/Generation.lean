import EnumTables.Generation
import EnumTables.Proofs.FileTree

/-!
# Files of a run

A run that succeeds goes from workspace to workspace and writes one file for each reference. Files
that lead to one place are written over each other, and the last of them stays: what a written path
holds after the run is the text of the last file at its place (`Writes.read`).
-/

namespace EnumTables.Workspace

structure SourceFile where
  path : FilePath
  text : String

/-- A run writes a file for each reference, each in the workspace that the one before it left. -/
inductive Writes (output : FilePath) (prelude suffix : String) :
    Workspace → List String → List SourceFile → Workspace → Prop
  | nil {workspace : Workspace} : Writes output prelude suffix workspace [] [] workspace
  | cons {workspace rendered stored last : Workspace} {reference name text : String}
      {rest : List String} {files : List SourceFile} {log : List LogRecord} :
      workspace.renderClass reference prelude = (rendered, ⟨log, .ok (name, text)⟩) →
      rendered.writeSource text (output.child (Identifier.fileName name suffix)) =
        (stored, .ok ()) →
      Writes output prelude suffix stored rest files last →
      Writes output prelude suffix workspace (reference :: rest)
        (⟨output.child (Identifier.fileName name suffix), text⟩ :: files) last

variable {output : FilePath} {prelude suffix : String}

theorem generate_cons {workspace rendered stored : Workspace} {reference name text : String}
    {log : List LogRecord}
    (shown : workspace.renderClass reference prelude = (rendered, ⟨log, .ok (name, text)⟩))
    (put : rendered.writeSource text (output.child (Identifier.fileName name suffix)) =
      (stored, .ok ())) (rest : List String) :
    (generate output prelude suffix workspace (reference :: rest)).1 =
        (generate output prelude suffix stored rest).1 ∧
      (generate output prelude suffix workspace (reference :: rest)).2.result =
        (generate output prelude suffix stored rest).2.result.map
          (output.child (Identifier.fileName name suffix) :: ·) := by
  simp only [generate, shown, put, and_self]

theorem exists_writes {workspace : Workspace} {references : List String} {written : List FilePath}
    (h : (generate output prelude suffix workspace references).2.result = .ok written) :
    ∃ files, Writes output prelude suffix workspace references files
        (generate output prelude suffix workspace references).1 ∧
      written = files.map SourceFile.path := by
  induction references generalizing workspace written with
  | nil =>
    obtain rfl := Except.ok.inj h
    exact ⟨[], .nil, rfl⟩
  | cons reference rest ih =>
    rcases shown : workspace.renderClass reference prelude with
      ⟨rendered, log, failure | ⟨name, text⟩⟩
    · simp [generate, shown] at h
    · rcases put : rendered.writeSource text (output.child (Identifier.fileName name suffix)) with
        ⟨stored, failure | ⟨⟩⟩
      · simp [generate, shown, put] at h
      · obtain ⟨reached, result⟩ := generate_cons shown put rest
        rw [result] at h
        cases others : (generate output prelude suffix stored rest).2.result with
        | error failure => simp [others, Except.map] at h
        | ok paths =>
          obtain ⟨files, writes, rfl⟩ := ih others
          rw [others] at h
          obtain rfl := Except.ok.inj h
          rw [reached]
          exact ⟨_, .cons shown put writes, by simp only [List.map_cons]⟩

/-! ## What a run leaves alone -/

theorem renderClass_tree (workspace : Workspace) (reference prelude : String) :
    (workspace.renderClass reference prelude).1.tree = workspace.tree := by
  unfold renderClass resolve
  rcases found : Reference.resolve workspace.tree workspace.roots workspace.modules reference with
    ⟨modules, failure | ⟨scope, cls⟩⟩ <;> simp only

theorem writeSource_eq_ok {workspace stored : Workspace} {text : String} {path : FilePath}
    (h : workspace.writeSource text path = (stored, .ok ())) : ∃ made place,
      made = (workspace.tree.makeDirectories path.parent).1 ∧ made.Locates path place ∧
        place ≠ [] ∧ stored.tree = made.put place (.text text) ∧ made.Grows stored.tree := by
  unfold writeSource at h
  rcases directories : workspace.tree.makeDirectories path.parent with ⟨made, failure | ⟨⟩⟩
  · simp [directories] at h
  · rw [directories] at h
    cases written : made.write path text with
    | error failure => simp [written] at h
    | ok after =>
      obtain ⟨place, locates, below, rfl, grows⟩ := FileTree.write_eq_ok written
      simp only [written, Prod.mk.injEq, and_true] at h
      subst h
      exact ⟨made, place, rfl, locates, below, rfl, grows⟩

theorem writeSource_eq_error {workspace stopped : Workspace} {text : String} {path : FilePath}
    {failure : Failure} (h : workspace.writeSource text path = (stopped, .error failure)) :
    stopped.tree = (workspace.tree.makeDirectories path.parent).1 ∧
      ∃ error, failure = writingFailure path error := by
  unfold writeSource at h
  rcases directories : workspace.tree.makeDirectories path.parent with ⟨made, error | ⟨⟩⟩
  · simp only [directories, Prod.mk.injEq, Except.error.injEq] at h
    obtain ⟨rfl, rfl⟩ := h
    exact ⟨rfl, error, rfl⟩
  · rw [directories] at h
    cases written : made.write path text with
    | error error =>
      simp only [written, Prod.mk.injEq, Except.error.injEq] at h
      obtain ⟨rfl, rfl⟩ := h
      exact ⟨rfl, error, rfl⟩
    | ok after => simp [written] at h

/-! ## What a run leaves in the files -/

theorem step_tree {workspace rendered stored : Workspace} {reference name text : String}
    {log : List LogRecord} {path : FilePath}
    (shown : workspace.renderClass reference prelude = (rendered, ⟨log, .ok (name, text)⟩))
    (put : rendered.writeSource text path = (stored, .ok ())) :
    workspace.tree.Grows stored.tree ∧
      stored.tree.Locates path (path.place workspace.tree.working) ∧
      stored.tree.node? (path.place workspace.tree.working) = some (.text text) ∧
      ∀ place node, place ≠ path.place workspace.tree.working →
        workspace.tree.node? place = some node → stored.tree.node? place = some node := by
  have tree : rendered.tree = workspace.tree := by
    rw [← renderClass_tree workspace reference prelude, shown]
  obtain ⟨made, place, rfl, locates, below, after, grows⟩ := writeSource_eq_ok put
  rw [tree] at locates after grows
  have extended := FileTree.makeDirectories_extends workspace.tree path.parent
  obtain rfl : place = path.place workspace.tree.working := by
    rw [locates.place_eq, extended.working]
  refine ⟨extended.grows.trans grows, locates.grows grows, ?_, fun other node away found => ?_⟩
  · rw [after, FileTree.node?_put _ _ _ _ below, if_pos rfl]
  · rw [after, FileTree.node?_put _ _ _ _ below, if_neg away]
    exact extended.kept other node found

def lastText? (working place : Place) : List SourceFile → Option String
  | [] => none
  | file :: rest => (lastText? working place rest).or
      (if file.path.place working = place then some file.text else none)

namespace Writes

variable {workspace last : Workspace} {references : List String} {files : List SourceFile}

theorem grows (writes : Writes output prelude suffix workspace references files last) :
    workspace.tree.Grows last.tree := by
  induction writes with
  | nil => exact .refl _
  | cons shown put _ ih => exact (step_tree shown put).1.trans ih

theorem node? (writes : Writes output prelude suffix workspace references files last)
    {place : Place} {content : String}
    (h : workspace.tree.node? place = some (.text content)) :
    last.tree.node? place =
      some (.text ((lastText? workspace.tree.working place files).getD content)) := by
  induction writes generalizing content with
  | nil => simpa [lastText?] using h
  | @cons workspace rendered stored last reference name text rest files log shown put _ ih =>
    obtain ⟨grown, -, there, others⟩ := step_tree shown put
    rw [grown.working] at ih
    by_cases here :
        (output.child (Identifier.fileName name suffix)).place workspace.tree.working = place
    · rw [ih (here ▸ there), lastText?, if_pos here]
      cases lastText? workspace.tree.working place files <;> rfl
    · rw [ih (others place _ (Ne.symm here) h), lastText?, if_neg here, Option.or_none]

theorem read (writes : Writes output prelude suffix workspace references files last) :
    ∀ file ∈ files, ∃ content,
      lastText? workspace.tree.working (file.path.place workspace.tree.working) files =
        some content ∧ last.tree.read file.path = .ok (.text content) := by
  induction writes with
  | nil => exact fun file h => absurd h List.not_mem_nil
  | @cons workspace rendered stored last reference name text rest files log shown put writes ih =>
    generalize output.child (Identifier.fileName name suffix) = path at put
    obtain ⟨grown, locates, there, -⟩ := step_tree shown put
    have kept := writes.node? there
    rw [grown.working] at ih kept
    intro file inside
    rcases List.mem_cons.mp inside with rfl | later
    · refine ⟨_, ?_, (locates.grows writes.grows).read kept⟩
      rw [lastText?, if_pos rfl]
      cases lastText? workspace.tree.working (path.place workspace.tree.working) files <;> rfl
    · obtain ⟨content, found, held⟩ := ih file later
      exact ⟨content, by rw [lastText?, found, Option.some_or], held⟩

theorem rendered (writes : Writes output prelude suffix workspace references files last)
    {index : Nat} {reference : String} (h : references[index]? = some reference) :
    ∃ name text, ((generate output prelude suffix workspace (references.take index)).1.renderClass
        reference prelude).2.result = .ok (name, text) ∧
      files[index]? = some ⟨output.child (Identifier.fileName name suffix), text⟩ := by
  induction writes generalizing index with
  | nil => simp at h
  | @cons workspace rendered stored last first name text rest files log shown put writes ih =>
    cases index with
    | zero =>
      obtain rfl : first = reference := by simpa using h
      exact ⟨name, text, congrArg (fun outcome => outcome.2.result) shown, rfl⟩
    | succ index =>
      obtain ⟨name', text', result, there⟩ := ih (by simpa using h)
      rw [List.take_succ_cons, (generate_cons shown put _).1]
      exact ⟨name', text', result, by rw [List.getElem?_cons_succ, there]⟩

theorem length_eq (writes : Writes output prelude suffix workspace references files last) :
    files.length = references.length := by
  induction writes with
  | nil => rfl
  | cons _ _ _ ih => rw [List.length_cons, List.length_cons, ih]

end Writes

theorem lastText?_mem {working place : Place} {files : List SourceFile} {text : String}
    (h : lastText? working place files = some text) :
    ∃ file ∈ files, file.path.place working = place ∧ file.text = text := by
  induction files with
  | nil => cases h
  | cons first rest ih =>
    rw [lastText?, Option.or_eq_some_iff] at h
    rcases h with later | ⟨-, here⟩
    · obtain ⟨file, inside, found⟩ := ih later
      exact ⟨file, List.mem_cons_of_mem _ inside, found⟩
    · split at here
      · next same => exact ⟨first, List.mem_cons_self, same, Option.some.inj here⟩
      · cases here

theorem lastText?_of_last {working : Place} {files : List SourceFile} {index : Nat}
    {file : SourceFile} (h : files[index]? = some file)
    (last : ∀ later other, index < later → files[later]? = some other →
      other.path.place working ≠ file.path.place working) :
    lastText? working (file.path.place working) files = some file.text := by
  induction files generalizing index with
  | nil => simp at h
  | cons first rest ih =>
    rw [lastText?]
    cases index with
    | zero =>
      obtain rfl : first = file := by simpa using h
      have none : lastText? working (first.path.place working) rest = none := by
        rw [Option.eq_none_iff_forall_ne_some]
        intro text found
        obtain ⟨other, inside, same, -⟩ := lastText?_mem found
        obtain ⟨later, there⟩ := List.getElem?_of_mem inside
        exact last (later + 1) other (Nat.succ_pos _) (by simpa using there) same
      rw [none, if_pos rfl, Option.none_or]
    | succ index =>
      rw [ih (by simpa using h), Option.some_or]
      exact fun later other behind there =>
        last (later + 1) other (Nat.succ_lt_succ behind) (by simpa using there)

/-- A run that succeeds writes what every reference was rendered to into a file of its own path, and
that text is there after the run iff it is that of the last file at the same place. Files at places
of their own keep their texts. -/
theorem generate_read {workspace : Workspace} {references : List String} {written : List FilePath}
    (h : (generate output prelude suffix workspace references).2.result = .ok written) :
    ∃ files : List SourceFile, written = files.map SourceFile.path ∧
      files.length = references.length ∧
      (∀ (index : Nat) (reference : String), references[index]? = some reference → ∃ name text,
        ((generate output prelude suffix workspace (references.take index)).1.renderClass
          reference prelude).2.result = .ok (name, text) ∧
        files[index]? = some ⟨output.child (Identifier.fileName name suffix), text⟩) ∧
      (∀ file ∈ files,
        ((generate output prelude suffix workspace references).1.tree.read file.path =
            .ok (.text file.text) ↔
          lastText? workspace.tree.working (file.path.place workspace.tree.working) files =
            some file.text)) ∧
      ∀ (index : Nat) (file : SourceFile), files[index]? = some file →
        (∀ later other, index < later → files[later]? = some other →
          other.path.place workspace.tree.working ≠ file.path.place workspace.tree.working) →
        (generate output prelude suffix workspace references).1.tree.read file.path =
          .ok (.text file.text) := by
  obtain ⟨files, writes, rfl⟩ := exists_writes h
  have holds : ∀ file ∈ files,
      ((generate output prelude suffix workspace references).1.tree.read file.path =
          .ok (.text file.text) ↔
        lastText? workspace.tree.working (file.path.place workspace.tree.working) files =
          some file.text) := by
    intro file inside
    obtain ⟨content, found, held⟩ := writes.read file inside
    rw [found, held]
    simp
  exact ⟨files, rfl, writes.length_eq, fun index reference there => writes.rendered there, holds,
    fun index file there last => (holds file (List.mem_of_getElem? there)).mpr
      (lastText?_of_last there last)⟩

/-! ## Names that are spelled alike -/

def alike : ModuleModel where
  name := "m"
  classes := [.mk "HTTPCode" ["Enum"] [] [] [] none, .mk "Httpcode" ["Enum"] [] [] [] none]
  raises := none
  deferred := false

def alikeWorkspace : Workspace :=
  fresh .named ⟨[], [(["m.py"], .module alike)]⟩ [[]]

def alikeRun : Generated :=
  generate ⟨"/", ["out"]⟩ "use a;" ".rs" alikeWorkspace ["m:HTTPCode", "m:Httpcode"]

def alikePath : FilePath := ⟨"/", ["out", "httpcode.rs"]⟩

def content? (outcome : Except FileError Node) : Option String :=
  match outcome with
  | .ok (.text content) => some content
  | _ => none

theorem alikeRun_paths : alikeRun.2.result.toOption = some [alikePath, alikePath] := by
  decide +kernel

theorem alikeRun_overwrites :
    (alikeWorkspace.renderClass "m:HTTPCode" "use a;").2.result.toOption.isSome ∧
      content? (alikeRun.1.tree.read alikePath) ≠
        (alikeWorkspace.renderClass "m:HTTPCode" "use a;").2.result.toOption.map Prod.snd := by
  decide +kernel

theorem generate_read_alike : alikeRun.2.result = .ok [alikePath, alikePath] ∧
    ∃ files : List SourceFile, [alikePath, alikePath] = files.map SourceFile.path ∧
      ∀ file ∈ files, (alikeRun.1.tree.read file.path = .ok (.text file.text) ↔
        lastText? alikeWorkspace.tree.working (file.path.place alikeWorkspace.tree.working) files =
          some file.text) := by
  have run := toOption_eq_some.mp alikeRun_paths
  unfold alikeRun at run ⊢
  obtain ⟨files, paths, -, -, holds, -⟩ := generate_read run
  exact ⟨run, files, paths, holds⟩

theorem alikeRun_lost : ∃ name text,
    (alikeWorkspace.renderClass "m:HTTPCode" "use a;").2.result = .ok (name, text) ∧
      alikeRun.2.result = .ok [alikePath, alikePath] ∧
      alikeRun.1.tree.read alikePath ≠ .ok (.text text) := by
  obtain ⟨shown, other⟩ := alikeRun_overwrites
  obtain ⟨⟨name, text⟩, rendered⟩ := Option.isSome_iff_exists.mp shown
  refine ⟨name, text, toOption_eq_some.mp rendered, toOption_eq_some.mp alikeRun_paths, ?_⟩
  intro held
  apply other
  rw [held, rendered]
  rfl

end EnumTables.Workspace
