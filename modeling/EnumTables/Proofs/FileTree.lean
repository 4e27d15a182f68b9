import EnumTables.FileTree
import EnumTables.Proofs.Outcome

/-!
# Growth of file trees

Making directories and writing files lets a tree grow: directories stay, files stay files, and a
path that leads to a place leads there ever after (`Locates.grows`). A written text is read again
(`write_eq_ok`, `Locates.read`), and making directories changes nothing that was there
(`makeDirectories_extends`).
-/

namespace EnumTables

theorem Node.eq_directory_of_isDirectory {node : Node} (h : node.isDirectory = true) :
    node = .directory := by
  cases node <;> simp_all [Node.isDirectory]

namespace FileTree

/-! ## Growth -/

structure Grows (before after : FileTree) : Prop where
  working : after.working = before.working
  directory : ∀ place, before.node? place = some .directory → after.node? place = some .directory
  file : ∀ place node, before.node? place = some node → node.isDirectory = false →
    ∃ other, after.node? place = some other ∧ other.isDirectory = false

namespace Grows

variable {first second third : FileTree}

theorem refl (tree : FileTree) : Grows tree tree :=
  ⟨rfl, fun _ h => h, fun _ node h file => ⟨node, h, file⟩⟩

theorem trans (h : Grows first second) (h' : Grows second third) : Grows first third where
  working := h'.working.trans h.working
  directory place found := h'.directory place (h.directory place found)
  file place node found isFile := by
    obtain ⟨other, found', isFile'⟩ := h.file place node found isFile
    exact h'.file place other found' isFile'

theorem present (h : Grows first second) {place : Place} {node : Node}
    (found : first.node? place = some node) : ∃ other, second.node? place = some other := by
  cases isDirectory : node.isDirectory with
  | true =>
    rw [Node.eq_directory_of_isDirectory isDirectory] at found
    exact ⟨.directory, h.directory place found⟩
  | false =>
    obtain ⟨other, found', -⟩ := h.file place node found isDirectory
    exact ⟨other, found'⟩

end Grows

theorem ne_root_of_absent {tree : FileTree} {place : Place} (h : tree.node? place = none) :
    place ≠ [] := by
  rintro rfl
  cases h

structure Extends (before after : FileTree) : Prop where
  working : after.working = before.working
  kept : ∀ place node, before.node? place = some node → after.node? place = some node

namespace Extends

variable {first second third : FileTree}

theorem refl (tree : FileTree) : Extends tree tree := ⟨rfl, fun _ _ h => h⟩

theorem trans (h : Extends first second) (h' : Extends second third) : Extends first third :=
  ⟨h'.working.trans h.working, fun place node found =>
    h'.kept place node (h.kept place node found)⟩

theorem grows (h : Extends first second) : Grows first second :=
  ⟨h.working, fun place found => h.kept place _ found, fun place node found isFile =>
    ⟨node, h.kept place node found, isFile⟩⟩

end Extends

theorem put_extends {tree : FileTree} {place : Place} (h : tree.node? place = none)
    (node : Node) : Extends tree (tree.put place node) := by
  refine ⟨rfl, fun other old found => ?_⟩
  rw [node?_put _ _ _ _ (ne_root_of_absent h), if_neg, found]
  rintro rfl
  rw [h] at found
  cases found

theorem ne_root_of_file {tree : FileTree} {place : Place} {node : Node}
    (h : tree.node? place = some node) (isFile : node.isDirectory = false) : place ≠ [] := by
  rintro rfl
  obtain rfl := Option.some.inj h
  cases isFile

theorem put_grows {tree : FileTree} {place : Place} {old : Node}
    (h : tree.node? place = some old) (isFile : old.isDirectory = false) (content : String) :
    Grows tree (tree.put place (.text content)) := by
  have below := ne_root_of_file h isFile
  refine ⟨rfl, fun other found => ?_, fun other node found isFile' => ?_⟩
  · rw [node?_put _ _ _ _ below, if_neg, found]
    rintro rfl
    rw [h] at found
    obtain rfl := Option.some.inj found
    cases isFile
  · rw [node?_put _ _ _ _ below]
    split
    · exact ⟨_, rfl, rfl⟩
    · exact ⟨node, found, isFile'⟩

/-! ## Paths -/

def atPlace (tree : FileTree) (place : Place) : Target :=
  match tree.node? place with
  | some node => .found place node
  | none => .absent place

theorem node?_of_found {tree : FileTree} {place : Place} {node : Node}
    (h : .found place node = tree.atPlace place) : tree.node? place = some node := by
  unfold atPlace at h
  split at h <;> simp_all

theorem node?_of_absent {tree : FileTree} {place : Place}
    (h : .absent place = tree.atPlace place) : tree.node? place = none := by
  unfold atPlace at h
  split at h <;> simp_all

def start (tree : FileTree) (path : FilePath) : Place :=
  if path.isAbsolute then [] else tree.working

theorem enter_eq_ok {tree : FileTree} {place : Place} {name : String} {target : Target} :
    tree.enter place name = .ok target ↔ tree.node? place = some .directory ∧
      (name = FilePath.upward ∧ target = .found place.dropLast .directory ∨
        name ≠ FilePath.upward ∧ name.utf8ByteSize ≤ longestName ∧
          target = tree.atPlace (place ++ [name])) := by
  unfold enter atPlace
  cases tree.node? place with
  | none => simp
  | some node =>
    cases node with
    | directory =>
      by_cases up : name = FilePath.upward
      · simp [up, eq_comm]
      · by_cases long : longestName < name.utf8ByteSize
        · simp [up, long]
        · cases tree.node? (place ++ [name]) <;> simp [up, long, Nat.le_of_not_lt long, eq_comm]
    | _ => simp

theorem follow_append (tree : FileTree) (target : Target) (front back : List String) :
    tree.follow target (front ++ back) =
      tree.follow target front >>= fun reached => tree.follow reached back := by
  induction front generalizing target with
  | nil => rfl
  | cons name front ih =>
    cases target with
    | absent place => rfl
    | found place node =>
      simp only [List.cons_append, follow]
      cases tree.enter place name with
      | error obstacle => rfl
      | ok reached => exact ih reached

theorem follow_atPlace {tree : FileTree} {place reached : Place} {names : List String}
    {found : Node} (h : tree.follow (tree.atPlace place) names = .ok (.found reached found)) :
    ∃ node, tree.node? place = some node ∧
      tree.follow (.found place node) names = .ok (.found reached found) := by
  unfold atPlace at h
  cases there : tree.node? place with
  | none =>
    rw [there] at h
    cases names <;> cases h
  | some node =>
    rw [there] at h
    exact ⟨node, rfl, h⟩

theorem follow_grows {before after : FileTree} (grows : Grows before after) {names : List String}
    {place reached : Place} {node node' found : Node}
    (h : before.follow (.found place node) names = .ok (.found reached found)) :
    ∃ found', after.follow (.found place node') names = .ok (.found reached found') := by
  induction names generalizing place node node' with
  | nil =>
    obtain ⟨rfl, rfl⟩ := Target.found.inj (Except.ok.inj h)
    exact ⟨node', rfl⟩
  | cons name rest ih =>
    obtain ⟨target, entered, h⟩ := bind_eq_ok.mp h
    obtain ⟨directory, next⟩ := enter_eq_ok.mp entered
    have directory' := grows.directory place directory
    rcases next with ⟨up, rfl⟩ | ⟨down, short, rfl⟩
    · have entered' : after.enter place name = .ok (.found place.dropLast .directory) :=
        enter_eq_ok.mpr ⟨directory', Or.inl ⟨up, rfl⟩⟩
      rw [follow, entered']
      exact ih h
    · obtain ⟨below, there, followed⟩ := follow_atPlace h
      obtain ⟨other, there'⟩ := grows.present there
      have entered' : after.enter place name = .ok (.found (place ++ [name]) other) :=
        enter_eq_ok.mpr ⟨directory', Or.inr ⟨down, short, by rw [atPlace, there']⟩⟩
      rw [follow, entered']
      exact ih followed

/-- A path leads to a place: its last name is one in a directory that the names before it lead
to. -/
structure Locates (tree : FileTree) (path : FilePath) (place : Place) : Prop where
  possible : path.hasNul = false
  short : path.text.utf8ByteSize ≤ longestPath
  last : ∃ above name directory node, path.parts = above ++ [name] ∧ name ≠ FilePath.upward ∧
    name.utf8ByteSize ≤ longestName ∧ tree.node? directory = some .directory ∧
    tree.follow (.found (tree.start path) .directory) above = .ok (.found directory node) ∧
    place = directory ++ [name]

namespace Locates

variable {tree before after : FileTree} {path : FilePath} {place : Place}

theorem target (h : Locates tree path place) : tree.target path = .ok (tree.atPlace place) := by
  obtain ⟨above, name, directory, node, parts, down, shortName, isDirectory, reached, rfl⟩ := h.last
  have entered : tree.enter directory name = .ok (tree.atPlace (directory ++ [name])) :=
    enter_eq_ok.mpr ⟨isDirectory, Or.inr ⟨down, shortName, rfl⟩⟩
  have followed : tree.follow (.found (tree.start path) .directory) path.parts =
      .ok (tree.atPlace (directory ++ [name])) := by
    rw [parts, follow_append, reached]
    change (tree.enter directory name >>= fun target => tree.follow target []) = _
    rw [entered]
    rfl
  rw [FileTree.target, if_neg (by simp [h.possible]), if_neg (Nat.not_lt.mpr h.short)]
  exact congrArg (Except.mapError (FileError.blocked · path)) followed

theorem grows (h : Locates before path place) (grown : Grows before after) :
    Locates after path place := by
  obtain ⟨above, name, directory, node, parts, down, shortName, isDirectory, reached, same⟩ :=
    h.last
  have start : after.start path = before.start path := by
    rw [FileTree.start, FileTree.start, grown.working]
  obtain ⟨node', reached'⟩ := follow_grows grown reached
  exact ⟨h.possible, h.short, above, name, directory, node', parts, down, shortName,
    grown.directory directory isDirectory, start ▸ reached', same⟩

end Locates

def IsFree (place : Place) : Target → Prop
  | .absent there => there = place
  | .found there node => there = place ∧ node.isDirectory = false

theorem IsFree.eq_of_atPlace {tree : FileTree} {place other : Place}
    (h : IsFree place (tree.atPlace other)) : other = place := by
  unfold atPlace at h
  split at h
  · exact h.1
  · exact h

theorem not_isFree_directory (place other : Place) : ¬IsFree place (.found other .directory) :=
  fun free => Bool.noConfusion free.2

theorem locates_of_target {tree : FileTree} {path : FilePath} {place : Place} {target : Target}
    (h : tree.target path = .ok target) (free : IsFree place target) :
    Locates tree path place ∧ target = tree.atPlace place := by
  unfold FileTree.target at h
  split at h
  · cases h
  · next possible =>
    split at h
    · cases h
    · next short =>
      have followed := mapError_eq_ok.mp h
      rcases List.eq_nil_or_concat path.parts with none | ⟨above, name, parts⟩
      · -- the path of the start itself leads to a directory
        rw [none] at followed
        obtain rfl := Except.ok.inj followed
        exact absurd free (not_isFree_directory place _)
      · rw [List.concat_eq_append] at parts
        rw [parts, follow_append] at followed
        obtain ⟨reached, before, last⟩ := bind_eq_ok.mp followed
        cases reached with
        | absent directory => cases last
        | found directory node =>
          obtain ⟨entered, step, done⟩ := bind_eq_ok.mp last
          obtain rfl := Except.ok.inj done
          obtain ⟨isDirectory, ⟨-, rfl⟩ | ⟨down, shortName, rfl⟩⟩ := enter_eq_ok.mp step
          · exact absurd free (not_isFree_directory place _)
          · obtain rfl := free.eq_of_atPlace
            have noNul : path.hasNul = false := by simpa using possible
            exact ⟨⟨noNul, Nat.not_lt.mp short, above, name, directory, node, parts, down,
              shortName, isDirectory, before, rfl⟩, rfl⟩

/-! ## Operations -/

theorem follow_place {tree : FileTree} {names : List String} {place reached : Place}
    {node found : Node} (h : tree.follow (.found place node) names = .ok (.found reached found)) :
    reached = names.foldl FilePath.follow place := by
  induction names generalizing place node with
  | nil => exact (Target.found.inj (Except.ok.inj h)).1.symm
  | cons name rest ih =>
    obtain ⟨target, entered, h⟩ := bind_eq_ok.mp h
    obtain ⟨-, ⟨up, rfl⟩ | ⟨down, -, rfl⟩⟩ := enter_eq_ok.mp entered
    · rw [List.foldl_cons, FilePath.follow, if_pos up]
      exact ih h
    · rw [List.foldl_cons, FilePath.follow, if_neg down]
      obtain ⟨below, -, followed⟩ := follow_atPlace h
      exact ih followed

theorem Locates.place_eq {tree : FileTree} {path : FilePath} {place : Place}
    (h : Locates tree path place) : place = path.place tree.working := by
  obtain ⟨above, name, directory, node, parts, down, -, -, reached, rfl⟩ := h.last
  rw [FilePath.place, parts, List.foldl_append, ← FileTree.start, ← follow_place reached,
    List.foldl_cons, List.foldl_nil, FilePath.follow, if_neg down]

theorem Locates.read {tree : FileTree} {path : FilePath} {place : Place}
    (h : Locates tree path place) {content : String}
    (found : tree.node? place = some (.text content)) : tree.read path = .ok (.text content) := by
  rw [FileTree.read, h.target, atPlace, found]
  rfl

theorem write_eq_ok {tree after : FileTree} {path : FilePath} {content : String}
    (h : tree.write path content = .ok after) : ∃ place, Locates tree path place ∧ place ≠ [] ∧
      after = tree.put place (.text content) ∧ Grows tree after := by
  obtain ⟨target, led, h⟩ := bind_eq_ok.mp h
  cases target with
  | found place node =>
    by_cases isDirectory : node.isDirectory
    · simp [isDirectory] at h
    · have isFile : node.isDirectory = false := Bool.eq_false_of_not_eq_true isDirectory
      obtain ⟨locates, there⟩ := locates_of_target led ⟨rfl, isFile⟩
      obtain rfl : tree.put place (.text content) = after := by simpa [isDirectory] using h
      have found := node?_of_found there
      exact ⟨place, locates, ne_root_of_file found isFile, rfl, put_grows found isFile content⟩
  | absent place =>
    obtain ⟨locates, there⟩ := locates_of_target led rfl
    obtain rfl := Except.ok.inj h
    have absent := node?_of_absent there
    exact ⟨place, locates, ne_root_of_absent absent, rfl, (put_extends absent _).grows⟩

theorem makeDirectory_extends {tree after : FileTree} {path : FilePath}
    (h : tree.makeDirectory path = .ok after) : Extends tree after := by
  obtain ⟨target, led, h⟩ := bind_eq_ok.mp h
  cases target with
  | found place node => cases h
  | absent place =>
    obtain rfl := Except.ok.inj h
    obtain ⟨-, there⟩ := locates_of_target led rfl
    exact put_extends (node?_of_absent there) _

section Directories

variable {relates : FileTree → FileTree → Prop}

theorem ensureDirectory_relates (refl : ∀ tree, relates tree tree)
    (made : ∀ tree after path, tree.makeDirectory path = .ok after → relates tree after)
    {tree after : FileTree} {path : FilePath} (h : tree.ensureDirectory path = .ok after) :
    relates tree after := by
  unfold ensureDirectory at h
  split at h
  · next succeeded =>
    obtain rfl := Except.ok.inj h
    exact made _ _ _ succeeded
  · cases h
  · split at h
    · obtain rfl := Except.ok.inj h
      exact refl _
    · cases h

variable (relates) in
theorem makeDirectories_relates (refl : ∀ tree, relates tree tree)
    (trans : ∀ first second third, relates first second → relates second third →
      relates first third)
    (made : ∀ tree after path, tree.makeDirectory path = .ok after → relates tree after)
    (tree : FileTree) (path : FilePath) : relates tree (tree.makeDirectories path).1 := by
  induction path using makeDirectories.induct tree with
  | case1 path after ensured =>
    rw [makeDirectories, ensured]
    exact ensureDirectory_relates refl made ensured
  | case2 path error blocked above after failure failed ih =>
    rw [failed] at ih
    simpa [makeDirectories, blocked, above, failed] using ih
  | case3 path error blocked above middle reached after ensured ih =>
    rw [reached] at ih
    simpa [makeDirectories, blocked, above, reached, ensured] using
      trans _ _ _ ih (ensureDirectory_relates refl made ensured)
  | case4 path error blocked above middle reached failure ensured ih =>
    rw [reached] at ih
    simpa [makeDirectories, blocked, above, reached, ensured] using ih
  | case5 path error blocked stuck =>
    rw [makeDirectories, blocked]
    simp only [dif_neg stuck]
    exact refl tree

end Directories

theorem makeDirectories_extends (tree : FileTree) (path : FilePath) :
    Extends tree (tree.makeDirectories path).1 :=
  makeDirectories_relates Extends Extends.refl (fun _ _ _ => Extends.trans)
    (fun _ _ _ => makeDirectory_extends) tree path

end FileTree

end EnumTables
