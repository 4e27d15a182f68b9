import EnumTables.Proofs.FileTree

/-!
# Files of a tree

The files of a tree are what is at its places and is no directory. Making directories changes none
of them, however far it gets (`file?_makeDirectories`); a write replaces the one at the place that
its path leads to (`file?_put_text`).
-/

namespace EnumTables.FileTree

variable {tree after : FileTree} {place : Place} {path : FilePath}

def file? (tree : FileTree) (place : Place) : Option Node :=
  (tree.node? place).filter fun node => !node.isDirectory

theorem file?_put_text (below : place ≠ []) (content : String) :
    (tree.put place (.text content)).file? =
      Function.update tree.file? place (some (.text content)) := by
  funext other
  unfold file?
  rw [node?_put _ _ _ _ below]
  by_cases here : other = place
  · subst here
    rw [if_pos rfl, Function.update_self]
    rfl
  · rw [if_neg here, Function.update_of_ne here]

theorem file?_put_directory (absent : tree.node? place = none) :
    (tree.put place .directory).file? = tree.file? := by
  funext other
  unfold file?
  rw [node?_put _ _ _ _ (ne_root_of_absent absent)]
  by_cases here : other = place
  · subst here
    rw [if_pos rfl, absent]
    rfl
  · rw [if_neg here]

theorem file?_makeDirectory (h : tree.makeDirectory path = .ok after) :
    after.file? = tree.file? := by
  obtain ⟨target, led, h⟩ := bind_eq_ok.mp h
  cases target with
  | found place node => cases h
  | absent place =>
    obtain rfl := Except.ok.inj h
    obtain ⟨-, there⟩ := locates_of_target led rfl
    exact file?_put_directory (node?_of_absent there)

theorem file?_makeDirectories (tree : FileTree) (path : FilePath) :
    (tree.makeDirectories path).1.file? = tree.file? :=
  makeDirectories_relates (fun before after => after.file? = before.file?) (fun _ => rfl)
    (fun _ _ _ first second => second.trans first) (fun _ _ _ => file?_makeDirectory) tree path

end EnumTables.FileTree
