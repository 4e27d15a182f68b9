import EnumTables.Proofs.FileTree.Files
import EnumTables.Proofs.Generation

/-!
# The first failure of a run

A run goes through its references in order. It ends at the first one that has no source unit or whose
file cannot be written (`Stops`): the failure of that reference comes out, the files are those that
were there before, with the texts of the references in front of it written over them, and the
references behind it have no part in the run. If there is no such reference, all are written
(`generate_first_failure`).
-/

namespace EnumTables.Workspace

variable {output : FilePath} {prelude suffix : String}

def SourceFile.store (working : Place) (held : Place → Option Node) (file : SourceFile) :
    Place → Option Node :=
  Function.update held (file.path.place working) (some (.text file.text))

/-- A reference ends a run: its class has no source unit, or the file of the unit cannot be
written. -/
inductive Stops (output : FilePath) (prelude suffix : String) :
    Workspace → String → Failure → Workspace → Prop
  | rendering {workspace stopped : Workspace} {reference : String} {log : List LogRecord}
      {failure : Failure} :
      workspace.renderClass reference prelude = (stopped, ⟨log, .error failure⟩) →
      Stops output prelude suffix workspace reference failure stopped
  | writing {workspace rendered stopped : Workspace} {reference name text : String}
      {log : List LogRecord} {failure : Failure} :
      workspace.renderClass reference prelude = (rendered, ⟨log, .ok (name, text)⟩) →
      rendered.writeSource text (output.child (Identifier.fileName name suffix)) =
        (stopped, .error failure) →
      Stops output prelude suffix workspace reference failure stopped

/-! ## One reference -/

theorem file?_of_written {workspace rendered stored : Workspace} {reference name text : String}
    {log : List LogRecord} {path : FilePath}
    (shown : workspace.renderClass reference prelude = (rendered, ⟨log, .ok (name, text)⟩))
    (put : rendered.writeSource text path = (stored, .ok ())) :
    stored.tree.file? = SourceFile.store workspace.tree.working workspace.tree.file?
      ⟨path, text⟩ := by
  have tree : rendered.tree = workspace.tree := by
    rw [← renderClass_tree workspace reference prelude, shown]
  obtain ⟨made, place, rfl, locates, below, after, -⟩ := writeSource_eq_ok put
  rw [tree] at locates after
  have working := (FileTree.makeDirectories_extends workspace.tree path.parent).working
  have same := FileTree.file?_makeDirectories workspace.tree path.parent
  rw [after, FileTree.file?_put_text below, same, locates.place_eq, working, SourceFile.store]

theorem Stops.file? {workspace stopped : Workspace} {reference : String} {failure : Failure}
    (stops : Stops output prelude suffix workspace reference failure stopped) :
    stopped.tree.file? = workspace.tree.file? := by
  cases stops with
  | rendering failed => rw [← renderClass_tree workspace reference prelude, failed]
  | writing shown failed =>
    rw [(writeSource_eq_error failed).1, FileTree.file?_makeDirectories,
      ← renderClass_tree workspace reference prelude, shown]

theorem Stops.generate_cons {workspace stopped : Workspace} {reference : String}
    {failure : Failure} (stops : Stops output prelude suffix workspace reference failure stopped) :
    ∃ log, ∀ rest, generate output prelude suffix workspace (reference :: rest) =
      (stopped, ⟨log, .error failure⟩) := by
  cases stops with
  | rendering failed =>
    rename_i log
    exact ⟨log, fun rest => by rw [generate, failed]⟩
  | writing shown failed =>
    rename_i log
    exact ⟨log, fun rest => by simp only [generate, shown, failed]⟩

/-! ## The references in front -/

def writtenRecord (path : FilePath) : LogRecord :=
  ⟨.info, logSource, "Wrote " ++ path.text⟩

namespace Writes

variable {workspace reached : Workspace} {references : List String} {files : List SourceFile}

theorem file? (writes : Writes output prelude suffix workspace references files reached) :
    reached.tree.file? =
      files.foldl (SourceFile.store workspace.tree.working) workspace.tree.file? := by
  induction writes with
  | nil => rfl
  | cons shown put writes ih =>
    rw [ih, file?_of_written shown put, (step_tree shown put).1.working, List.foldl_cons]

theorem generate_eq (writes : Writes output prelude suffix workspace references files reached) :
    ∃ log, generate output prelude suffix workspace references =
      (reached, ⟨log, .ok (files.map SourceFile.path)⟩) := by
  induction writes with
  | nil => exact ⟨[], rfl⟩
  | @cons _ _ _ _ _ name _ _ _ first shown put writes ih =>
    obtain ⟨others, run⟩ := ih
    exact ⟨first ++ [writtenRecord (output.child (Identifier.fileName name suffix))] ++ others, by
      simp only [generate, shown, put, run, Except.map, List.map_cons, writtenRecord]⟩

theorem generate_append (writes : Writes output prelude suffix workspace references files reached)
    {reference : String} {failure : Failure} {stopped : Workspace}
    (stops : Stops output prelude suffix reached reference failure stopped) :
    ∃ log, ∀ rest, generate output prelude suffix workspace (references ++ reference :: rest) =
      (stopped, ⟨log, .error failure⟩) := by
  induction writes with
  | nil => exact stops.generate_cons
  | @cons _ _ _ _ _ name _ _ _ first shown put writes ih =>
    obtain ⟨others, run⟩ := ih stops
    refine ⟨first ++ [writtenRecord (output.child (Identifier.fileName name suffix))] ++ others,
      fun rest => ?_⟩
    simp only [List.cons_append, generate, shown, put, run rest, Except.map, writtenRecord]

end Writes

theorem writes_or_stops (output : FilePath) (prelude suffix : String) (workspace : Workspace)
    (references : List String) :
    (∃ files last, Writes output prelude suffix workspace references files last) ∨
      ∃ front reference back files reached failure stopped,
        references = front ++ reference :: back ∧
          Writes output prelude suffix workspace front files reached ∧
          Stops output prelude suffix reached reference failure stopped := by
  induction references generalizing workspace with
  | nil => exact Or.inl ⟨[], workspace, .nil⟩
  | cons reference rest ih =>
    rcases shown : workspace.renderClass reference prelude with
      ⟨rendered, log, failure | ⟨name, text⟩⟩
    · exact Or.inr ⟨[], reference, rest, [], workspace, failure, rendered, rfl, .nil,
        .rendering shown⟩
    · rcases put : rendered.writeSource text (output.child (Identifier.fileName name suffix)) with
        ⟨stored, failure | ⟨⟩⟩
      · exact Or.inr ⟨[], reference, rest, [], workspace, failure, stored, rfl, .nil,
          .writing shown put⟩
      · rcases ih stored with ⟨files, last, writes⟩ |
          ⟨front, other, back, files, reached, failure, stopped, rfl, writes, stops⟩
        · exact Or.inl ⟨_, last, .cons shown put writes⟩
        · exact Or.inr ⟨reference :: front, other, back, _, reached, failure, stopped, rfl,
            .cons shown put writes, stops⟩

/-- A run without a reference that ends it writes a file for each reference and returns their paths
in order. A run with one comes out with the failure of that reference; it has written the files of
the references in front of it and no other, whatever stands behind it. -/
theorem generate_first_failure (output : FilePath) (prelude suffix : String)
    (workspace : Workspace) (references : List String) :
    (∀ files last, Writes output prelude suffix workspace references files last →
      (generate output prelude suffix workspace references).1 = last ∧
        (generate output prelude suffix workspace references).2.result =
          .ok (files.map SourceFile.path) ∧
        files.length = references.length ∧
        last.tree.file? =
          files.foldl (SourceFile.store workspace.tree.working) workspace.tree.file?) ∧
    (∀ (k : Nat) (reference : String) files reached failure stopped,
      references[k]? = some reference →
      Writes output prelude suffix workspace (references.take k) files reached →
      Stops output prelude suffix reached reference failure stopped →
      (generate output prelude suffix workspace references).1 = stopped ∧
        (generate output prelude suffix workspace references).2.result = .error failure ∧
        files.length = k ∧
        stopped.tree.file? =
          files.foldl (SourceFile.store workspace.tree.working) workspace.tree.file? ∧
        stopped.tree.file? = reached.tree.file? ∧
        ∀ others, generate output prelude suffix workspace (references.take (k + 1) ++ others) =
          generate output prelude suffix workspace references) ∧
    ((∃ files last, Writes output prelude suffix workspace references files last) ∨
      ∃ (k : Nat) (reference : String), ∃ files reached failure stopped,
        references[k]? = some reference ∧
          Writes output prelude suffix workspace (references.take k) files reached ∧
          Stops output prelude suffix reached reference failure stopped) := by
  refine ⟨fun files last writes => ?_, ?_, ?_⟩
  · obtain ⟨log, run⟩ := writes.generate_eq
    rw [run]
    exact ⟨rfl, rfl, writes.length_eq, writes.file?⟩
  · intro k reference files reached failure stopped here writes stops
    obtain ⟨inside, rfl⟩ := List.getElem?_eq_some_iff.mp here
    have split := List.take_append_drop k references
    rw [List.drop_eq_getElem_cons inside] at split
    obtain ⟨log, run⟩ := writes.generate_append stops
    have whole := run (references.drop (k + 1))
    rw [split] at whole
    have front : references.take (k + 1) = references.take k ++ [references[k]] := by simp
    refine ⟨by rw [whole], by rw [whole], ?_, stops.file?.trans writes.file?, stops.file?, ?_⟩
    · rw [writes.length_eq, List.length_take, Nat.min_eq_left inside.le]
    · intro others
      rw [whole, front, List.append_assoc, List.singleton_append, run]
  · rcases writes_or_stops output prelude suffix workspace references with all |
      ⟨front, reference, back, files, reached, failure, stopped, rfl, writes, stops⟩
    · exact Or.inl all
    · refine Or.inr ⟨front.length, reference, files, reached, failure, stopped, by simp, ?_, stops⟩
      rw [List.take_left]
      exact writes

end EnumTables.Workspace
