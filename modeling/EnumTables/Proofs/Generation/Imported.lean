import EnumTables.Proofs.Generation.Renderings

/-!
# Modules that are imported already

A module is looked up in the files once: a reference into a module that was imported before leads to
what it leads to in any other tree (`Reference.resolve_of_imported`). A run over references into one
module therefore changes nothing that they lead to, whatever it writes (`leavesReferences_of_module`).
-/

namespace EnumTables

def Reference.IsInto (module text : String) : Prop :=
  ∀ reference, Reference.ofText? text = some reference → reference.module = module ∧
    module.toList.head? ≠ some '.' ∧ Text.split '.' module = [module]

namespace ModuleTable

variable {tree : FileTree} {roots : List Place} {table after : ModuleTable} {module : String}

theorem importModule_of_imported (top : module.toList.head? ≠ some '.')
    (simple : Text.split '.' module = [module]) (imported : (table.find? module).isSome) :
    table.importModule tree roots module = (table, .ok ()) := by
  obtain ⟨found, there⟩ := Option.isSome_iff_exists.mp imported
  simp [importModule, top, simple, importParts, importPart, there]

theorem importModule_imports (top : module.toList.head? ≠ some '.')
    (simple : Text.split '.' module = [module])
    (h : table.importModule tree roots module = (after, .ok ())) :
    (after.find? module).isSome := by
  simp only [importModule, top, simple, importParts, importPart, beq_iff_eq, if_false] at h
  cases there : table.find? module with
  | some found =>
    simp only [there] at h
    obtain ⟨rfl, -⟩ := Prod.mk.inj h
    simp [there]
  | none =>
    simp only [there] at h
    cases loaded : load tree table.release module module roots with
    | error raised => simp [loaded] at h
    | ok found =>
      simp only [loaded] at h
      obtain ⟨rfl, -⟩ := Prod.mk.inj h
      simp [find?, add, List.lookup_append]

end ModuleTable

namespace Reference

variable {tree other : FileTree} {roots : List Place} {table after : ModuleTable}
  {module text : String}

theorem resolve_of_imported (into : IsInto module text) (imported : (table.find? module).isSome) :
    resolve tree roots table text = resolve other roots table text ∧
      (resolve tree roots table text).1 = table := by
  unfold resolve
  cases read : ofText? text with
  | none => exact ⟨rfl, rfl⟩
  | some reference =>
    obtain ⟨rfl, top, simple⟩ := into reference read
    simp [ModuleTable.importModule_of_imported top simple imported]

theorem resolve_imports (into : IsInto module text) {found : Scope × ClassObject}
    (h : resolve tree roots table text = (after, .ok found)) : (after.find? module).isSome := by
  unfold resolve at h
  cases read : ofText? text with
  | none => simp [read] at h
  | some reference =>
    obtain ⟨rfl, top, simple⟩ := into reference read
    rw [read] at h
    rcases run : table.importModule tree roots reference.module with ⟨made, raised | ⟨⟩⟩
    · simp [run] at h
    · simp only [run] at h
      obtain ⟨rfl, -⟩ := Prod.mk.inj h
      exact ModuleTable.importModule_imports top simple run

end Reference

namespace Workspace

variable {output : FilePath} {prelude suffix module : String}

theorem renderClass_imports {workspace rendered : Workspace} {reference : String}
    {log : List LogRecord} {named : String × String} (into : Reference.IsInto module reference)
    (h : workspace.renderClass reference prelude = (rendered, ⟨log, .ok named⟩)) :
    (rendered.modules.find? module).isSome := by
  unfold renderClass resolve at h
  rcases run : Reference.resolve workspace.tree workspace.roots workspace.modules reference with
    ⟨modules, failure | ⟨scope, cls⟩⟩
  · simp [run] at h
  · rw [run] at h
    obtain ⟨rfl, -⟩ := Prod.mk.inj h
    exact Reference.resolve_imports into run

theorem writeSource_modules {workspace stored : Workspace} {text : String} {path : FilePath}
    {result : Except Failure Unit} (h : workspace.writeSource text path = (stored, result)) :
    stored.modules = workspace.modules := by
  rw [← (writeSource_alike workspace text path).modules, h]

theorem Writes.imported {workspace reached : Workspace} {references : List String}
    {files : List SourceFile}
    (writes : Writes output prelude suffix workspace references files reached)
    (into : ∀ reference ∈ references, Reference.IsInto module reference)
    (some_reference : references ≠ []) : (reached.modules.find? module).isSome := by
  induction writes with
  | nil => exact absurd rfl some_reference
  | @cons _ rendered stored _ reference _ _ rest _ _ shown put writes ih =>
    cases rest with
    | nil =>
      cases writes
      rw [writeSource_modules put]
      exact renderClass_imports (into _ List.mem_cons_self) shown
    | cons second rest =>
      exact ih (fun other inside => into other (List.mem_cons_of_mem _ inside))
        (List.cons_ne_nil _ _)

theorem leavesReferences_of_module {workspace : Workspace} {references : List String}
    (into : ∀ reference ∈ references, Reference.IsInto module reference) :
    LeavesReferences workspace.tree output prelude suffix workspace references := by
  intro k reference files reached here writes
  cases k with
  | zero =>
    cases writes
    rfl
  | succ k =>
    have inside := List.mem_of_getElem? here
    have nonempty : references.take (k + 1) ≠ [] := by
      rintro empty
      rw [List.take_eq_nil_iff] at empty
      rcases empty with impossible | rfl
      · cases impossible
      · cases inside
    have imported := writes.imported
      (fun other taken => into other (List.mem_of_mem_take taken)) nonempty
    exact (Reference.resolve_of_imported (into reference inside) imported).1

end Workspace

end EnumTables
