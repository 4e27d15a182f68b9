import EnumTables.Proofs.Generation.FirstFailure

/-!
# Renderings without files

References can be rendered one after the other without writing anything (`renderings`). A run that
writes goes through the same renderings as long as what it has written does not change what the
references lead to (`LeavesReferences`): it writes the ones that succeed, and the first one that
fails ends it (`renderings_of_run`).
-/

namespace EnumTables.Workspace

variable {output : FilePath} {prelude suffix : String}

structure Rendering where
  reference : String
  log : List LogRecord
  result : Except Failure (String × String)

namespace Rendering

def isOk (rendering : Rendering) : Bool :=
  match rendering.result with
  | .ok _ => true
  | .error _ => false

def file? (output : FilePath) (suffix : String) (rendering : Rendering) : Option SourceFile :=
  match rendering.result with
  | .ok (name, text) => some ⟨output.child (Identifier.fileName name suffix), text⟩
  | .error _ => none

end Rendering

/-- Renders references one after the other, each in the workspace that the one before it leaves. -/
def renderings (prelude : String) (workspace : Workspace) : List String → List Rendering
  | [] => []
  | reference :: rest =>
    let rendered := workspace.renderClass reference prelude
    ⟨reference, rendered.2.log, rendered.2.result⟩ :: renderings prelude rendered.1 rest

theorem renderings_references (prelude : String) (workspace : Workspace)
    (references : List String) :
    (renderings prelude workspace references).map Rendering.reference = references := by
  induction references generalizing workspace with
  | nil => rfl
  | cons reference rest ih => rw [renderings, List.map_cons, ih]

theorem Rendering.isOk_of_files {found : List Rendering} {files : List SourceFile}
    (h : found.map (Rendering.file? output suffix) = files.map some) :
    ∀ rendering ∈ found, rendering.isOk = true := by
  intro rendering inside
  have written : rendering.file? output suffix ∈ files.map some := h ▸ List.mem_map_of_mem inside
  obtain ⟨file, -, same⟩ := List.mem_map.mp written
  unfold Rendering.file? at same
  unfold Rendering.isOk
  cases result : rendering.result with
  | ok named => rfl
  | error failure =>
    rw [result] at same
    cases same

/-! ## Workspaces that differ in their files -/

structure Alike (first second : Workspace) : Prop where
  roots : first.roots = second.roots
  modules : first.modules = second.modules
  spent : first.spent = second.spent

namespace Alike

variable {first second third : Workspace}

theorem refl (workspace : Workspace) : Alike workspace workspace := ⟨rfl, rfl, rfl⟩

theorem trans (h : Alike first second) (h' : Alike second third) : Alike first third :=
  ⟨h.roots.trans h'.roots, h.modules.trans h'.modules, h.spent.trans h'.spent⟩

theorem renderClass (h : Alike first second) (prelude : String) {reference : String}
    (same : Reference.resolve first.tree first.roots first.modules reference =
      Reference.resolve second.tree first.roots first.modules reference) :
    (first.renderClass reference prelude).2 = (second.renderClass reference prelude).2 ∧
      Alike (first.renderClass reference prelude).1 (second.renderClass reference prelude).1 := by
  unfold Workspace.renderClass Workspace.resolve
  rw [same, h.roots, h.modules, h.spent]
  rcases Reference.resolve second.tree second.roots second.modules reference with
    ⟨modules, failure | ⟨scope, cls⟩⟩
  · exact ⟨rfl, rfl, rfl, rfl⟩
  · exact ⟨rfl, rfl, rfl, rfl⟩

end Alike

theorem writeSource_alike (workspace : Workspace) (text : String) (path : FilePath) :
    Alike (workspace.writeSource text path).1 workspace := by
  unfold writeSource
  rcases workspace.tree.makeDirectories path.parent with ⟨made, failure | ⟨⟩⟩
  · exact ⟨rfl, rfl, rfl⟩
  · cases written : made.write path text with
    | error failure =>
      simp only [written]
      exact ⟨rfl, rfl, rfl⟩
    | ok after =>
      simp only [written]
      exact ⟨rfl, rfl, rfl⟩

/-- Whatever a run has written before a reference, the reference leads to what it leads to in a
tree. -/
def LeavesReferences (tree : FileTree) (output : FilePath) (prelude suffix : String)
    (workspace : Workspace) (references : List String) : Prop :=
  ∀ (k : Nat) (reference : String) files reached, references[k]? = some reference →
    Writes output prelude suffix workspace (references.take k) files reached →
    Reference.resolve reached.tree reached.roots reached.modules reference =
      Reference.resolve tree reached.roots reached.modules reference

/-! ## Runs and renderings -/

variable {tree : FileTree} {workspace reached rendered stopped : Workspace}

theorem LeavesReferences.head {reference : String} {rest : List String}
    (left : LeavesReferences tree output prelude suffix workspace (reference :: rest)) :
    Reference.resolve workspace.tree workspace.roots workspace.modules reference =
      Reference.resolve tree workspace.roots workspace.modules reference :=
  left 0 reference [] workspace rfl .nil

theorem LeavesReferences.tail {stored : Workspace} {reference name text : String}
    {rest : List String} {log : List LogRecord}
    (left : LeavesReferences tree output prelude suffix workspace (reference :: rest))
    (shown : workspace.renderClass reference prelude = (rendered, ⟨log, .ok (name, text)⟩))
    (put : rendered.writeSource text (output.child (Identifier.fileName name suffix)) =
      (stored, .ok ())) :
    LeavesReferences tree output prelude suffix stored rest :=
  fun k other _ reached here writes => left (k + 1) other _ reached here (.cons shown put writes)

theorem Writes.renderings {front : List String} {files : List SourceFile}
    (writes : Writes output prelude suffix workspace front files reached) (back : List String)
    {dry : Workspace} (alike : Alike workspace dry)
    (left : LeavesReferences dry.tree output prelude suffix workspace (front ++ back)) :
    ∃ found dry', renderings prelude dry (front ++ back) =
        found ++ Workspace.renderings prelude dry' back ∧
      found.map (Rendering.file? output suffix) = files.map some ∧
      Alike reached dry' ∧
      LeavesReferences dry'.tree output prelude suffix reached back := by
  induction writes generalizing dry with
  | nil => exact ⟨[], dry, rfl, rfl, alike, left⟩
  | @cons workspace rendered stored last reference name text rest files log shown put _ ih =>
    obtain ⟨outcome, after⟩ := alike.renderClass prelude left.head
    rw [shown] at outcome after
    have stored_alike := (writeSource_alike rendered text
      (output.child (Identifier.fileName name suffix))).trans after
    rw [put] at stored_alike
    have sameTree := renderClass_tree dry reference prelude
    obtain ⟨found, dry', shape, written, alike', left'⟩ := ih stored_alike
      (by rw [sameTree]; exact left.tail shown put)
    refine ⟨⟨reference, log, .ok (name, text)⟩ :: found, dry', ?_, ?_, alike', left'⟩
    · rw [List.cons_append, Workspace.renderings, ← outcome, shape, List.cons_append]
    · rw [List.map_cons, List.map_cons, written, Rendering.file?]

theorem Stops.failed {reference : String} {failure : Failure}
    (stops : Stops output prelude suffix workspace reference failure stopped)
    (foreseen : failure.report?.isSome) (stored : ∀ path cause, failure ≠ .unwritable path cause) :
    ∃ log, (workspace.renderClass reference prelude).2 = ⟨log, .error failure⟩ := by
  cases stops with
  | rendering failed => exact ⟨_, by rw [failed]⟩
  | writing shown failed =>
    obtain ⟨-, error, rfl⟩ := writeSource_eq_error failed
    cases error with
    | impossibleName => cases foreseen
    | _ => exact absurd rfl (stored _ _)

def Wrote (output : FilePath) (suffix : String) (before : FileTree) (found : List Rendering)
    (after : FileTree) : Prop :=
  ∃ files : List SourceFile, found.map (Rendering.file? output suffix) = files.map some ∧
    after.file? = files.foldl (SourceFile.store before.working) before.file?

theorem Wrote.isOk {before after : FileTree} {found : List Rendering}
    (h : Wrote output suffix before found after) : found.all Rendering.isOk = true := by
  obtain ⟨files, written, -⟩ := h
  exact List.all_eq_true.mpr (Rendering.isOk_of_files written)

/-- A run whose failures are none of writing goes through the renderings of its references: it
writes them all, or those in front of the first one that fails, and ends with its failure. -/
theorem renderings_of_run {references : List String}
    (left : LeavesReferences workspace.tree output prelude suffix workspace references)
    (foreseen : ∀ failure, (generate output prelude suffix workspace references).2.result =
      .error failure → failure.report?.isSome)
    (stored : ∀ path cause, (generate output prelude suffix workspace references).2.result ≠
      .error (.unwritable path cause)) :
    (∃ paths, (generate output prelude suffix workspace references).2.result = .ok paths ∧
      Wrote output suffix workspace.tree (renderings prelude workspace references)
        (generate output prelude suffix workspace references).1.tree) ∨
    ∃ front reference log failure others,
      (generate output prelude suffix workspace references).2.result = .error failure ∧
      renderings prelude workspace references =
        front ++ ⟨reference, log, .error failure⟩ :: others ∧
      Wrote output suffix workspace.tree front
        (generate output prelude suffix workspace references).1.tree := by
  rcases writes_or_stops output prelude suffix workspace references with
    ⟨files, last, writes⟩ | ⟨front, reference, back, files, reached, failure, stopped, rfl, writes,
      stops⟩
  · obtain ⟨found, dry, shape, written, -, -⟩ := writes.renderings [] (Alike.refl _)
      (by rwa [List.append_nil])
    obtain ⟨log, run⟩ := writes.generate_eq
    rw [List.append_nil, Workspace.renderings, List.append_nil] at shape
    rw [run, shape]
    exact Or.inl ⟨_, rfl, files, written, writes.file?⟩
  · obtain ⟨found, dry, shape, written, alike, left'⟩ := writes.renderings _ (Alike.refl _) left
    obtain ⟨_, run⟩ := writes.generate_append stops
    rw [run back] at foreseen stored ⊢
    obtain ⟨log, failed⟩ := stops.failed (foreseen failure rfl)
      fun path cause same => stored path cause (by rw [same])
    have outcome := (alike.renderClass prelude left'.head).1
    rw [failed] at outcome
    rw [Workspace.renderings, ← outcome] at shape
    exact Or.inr ⟨found, reference, log, failure, _, rfl, shape, files, written,
      stops.file?.trans writes.file?⟩

end EnumTables.Workspace
