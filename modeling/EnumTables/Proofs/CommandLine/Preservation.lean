import EnumTables.Proofs.CommandLine.Agreement
import EnumTables.Proofs.Config.RoundTrip
import EnumTables.Proofs.Generation.Endings

/-!
# What `init` and `check` leave of the files

Runs of `init` and `check` change no file that is there (`kept_treeAfter`). A run of `check` leaves
the tree as it was, and so does a run of `init` that does not exit with 0. One that does adds the
starter configuration to the directory it names (`init_cases`); from then on every run of `init` on
that directory exits with 1, whatever such runs come between (`preserves_files`).
-/

namespace EnumTables

/-! ## Places -/

namespace FilePath

theorem upward_notMem_follow {place : Place} (proper : upward ∉ place) (name : String) :
    upward ∉ follow place name := by
  unfold follow
  split
  · exact fun inside => proper (List.dropLast_subset place inside)
  · next down =>
    rw [List.mem_append, not_or]
    exact ⟨proper, fun inside => down (List.mem_singleton.mp inside).symm⟩

theorem upward_notMem_place {working : Place} (proper : upward ∉ working) (path : FilePath) :
    upward ∉ path.place working := by
  unfold place
  have start : upward ∉ (if path.isAbsolute then [] else working) := by
    split
    · exact List.not_mem_nil
    · exact proper
  generalize (if path.isAbsolute then [] else working) = place at start
  induction path.parts generalizing place with
  | nil => exact start
  | cons name rest ih => exact ih _ (upward_notMem_follow start name)

theorem foldl_follow {names : List String} (proper : upward ∉ names) (place : Place) :
    names.foldl follow place = place ++ names := by
  induction names generalizing place with
  | nil => simp
  | cons name rest ih =>
    obtain ⟨here, later⟩ := not_or.mp (List.mem_cons.not.mp proper)
    rw [List.foldl_cons, ih later, follow, if_neg fun up => here up.symm, List.append_assoc,
      List.singleton_append]

theorem place_ofPlace {place : Place} (proper : upward ∉ place) (working : Place) :
    (ofPlace place).place working = place :=
  foldl_follow proper []

theorem utf8ByteSize_text_le (place : Place) (name : String) :
    (ofPlace place).text.utf8ByteSize ≤ (ofPlace (place ++ [name])).text.utf8ByteSize := by
  have rooted (place : Place) : (ofPlace place).text = "/" ++ String.intercalate "/" place := rfl
  rw [rooted, rooted, String.utf8ByteSize_append, String.utf8ByteSize_append]
  cases place with
  | nil => simp
  | cons first rest =>
    rw [String.intercalate_append_of_ne_nil (List.cons_ne_nil _ _) (List.cons_ne_nil _ _)]
    simp only [String.utf8ByteSize_append]
    omega

end FilePath

namespace FileTree

def startedIn (tree : FileTree) (working : Place) : FileTree :=
  { tree with working := working }

def Kept (before after : FileTree) : Prop :=
  ∀ place node, before.node? place = some node → after.node? place = some node

variable {tree before after : FileTree} {path : FilePath} {place : Place}

theorem follow_startedIn (tree : FileTree) (working : Place) (target : Target)
    (names : List String) : (tree.startedIn working).follow target names =
      tree.follow target names := by
  induction names generalizing target with
  | nil => cases target <;> rfl
  | cons name rest ih =>
    cases target with
    | absent place => rfl
    | found place node =>
      rw [follow, follow]
      simp only [ih]
      rfl

theorem Locates.startedIn (h : Locates tree path place) (absolute : path.isAbsolute = true)
    (working : Place) : Locates (tree.startedIn working) path place := by
  obtain ⟨above, name, directory, node, parts, down, short, isDirectory, reached, same⟩ := h.last
  refine ⟨h.possible, h.short, above, name, directory, node, parts, down, short, isDirectory, ?_,
    same⟩
  rw [follow_startedIn, ← reached, start, start, if_pos absolute, if_pos absolute]

theorem Kept.locates (kept : Kept before after) (h : Locates before path place)
    (absolute : path.isAbsolute = true) (working : Place) :
    Locates (after.startedIn working) path place :=
  (h.startedIn absolute working).grows (Extends.grows ⟨rfl, kept⟩)

theorem Locates.contains (h : Locates tree path place) :
    tree.contains path = .ok (tree.node? place).isSome := by
  rw [FileTree.contains, h.target, atPlace]
  cases tree.node? place <;> rfl

theorem Locates.contains_above {name : String}
    (h : Locates tree (FilePath.ofPlace (place ++ [name])) (place ++ [name])) :
    tree.contains (FilePath.ofPlace place) = .ok true ∧ tree.node? place = some .directory := by
  obtain ⟨above, last, directory, node, parts, -, -, isDirectory, reached, same⟩ := h.last
  obtain ⟨rfl, -⟩ := List.append_inj' (parts : place ++ [name] = above ++ [last]) rfl
  obtain ⟨rfl, -⟩ := List.append_inj' same rfl
  have possible : (FilePath.ofPlace place).hasNul = false := by
    refine Bool.eq_false_of_not_eq_true fun nul => ?_
    have above : (FilePath.ofPlace (place ++ [name])).parent = FilePath.ofPlace place := by
      simp [FilePath.parent, FilePath.ofPlace]
    have whole := FilePath.hasNul_of_parent (above.symm ▸ nul)
    rw [h.possible] at whole
    cases whole
  have short := (FilePath.utf8ByteSize_text_le place name).trans h.short
  have led : tree.target (FilePath.ofPlace place) = .ok (.found place node) := by
    rw [FileTree.target, if_neg (by simp [possible]), if_neg (Nat.not_lt.mpr short)]
    exact congrArg (Except.mapError (FileError.blocked · _)) reached
  rw [FileTree.contains, led]
  exact ⟨rfl, isDirectory⟩

end FileTree

namespace CommandLine

/-! ## Requests -/

def Names (words : List String) (name : CommandName) : Prop :=
  ∃ given, Interface.top.read words = .ok given ∧
    given.operands.head?.bind CommandName.ofText? = some name

def AsksHelp (words : List String) : Prop :=
  ∃ lines, Request.ofArguments words = .help lines

def IsMisused (words : List String) : Prop :=
  ∃ program cause, Request.ofArguments words = .misuse program cause

def Checks (words : List String) : Prop :=
  ∃ verbose source, Request.ofArguments words = .run verbose (.check source)

def Inits (words : List String) (directory : String) : Prop :=
  ∃ verbose, Request.ofArguments words = .run verbose (.init directory)

/-- Words that do not ask for a run of `generate`. Misused words and those for help are among
them. -/
def IsCautious (words : List String) : Prop :=
  ∀ verbose output source, Request.ofArguments words ≠ .run verbose (.generate output source)

theorem request_of_names {words : List String} {name : CommandName} (names : Names words name) :
    AsksHelp words ∨ IsMisused words ∨
      ∃ verbose given, Request.ofArguments words = .run verbose (name.command given) := by
  obtain ⟨given, read, named⟩ := names
  unfold AsksHelp IsMisused Request.ofArguments
  simp only [read, named, Request.ofCommand]
  split
  · next halt _ =>
    cases halt with
    | help => exact .inl ⟨_, rfl⟩
    | misuse cause => exact .inr (.inl ⟨_, _, rfl⟩)
  · next own _ =>
    unfold Request.unlessExtra
    split
    · exact .inr (.inr ⟨_, _, rfl⟩)
    · exact .inr (.inl ⟨_, _, rfl⟩)

theorem cases_of_isCautious {words : List String} (cautious : IsCautious words) :
    AsksHelp words ∨ IsMisused words ∨ Checks words ∨ ∃ directory, Inits words directory := by
  cases asked : Request.ofArguments words with
  | help lines => exact .inl ⟨lines, asked⟩
  | misuse program cause => exact .inr (.inl ⟨program, cause, asked⟩)
  | run verbose command =>
    cases command with
    | generate output source => exact absurd asked (cautious verbose output source)
    | check source => exact .inr (.inr (.inl ⟨verbose, source, asked⟩))
    | init directory => exact .inr (.inr (.inr ⟨directory, verbose, asked⟩))

/-! ## Checking -/

theorem ofConfigFailure_tree (tree : FileTree) (failure : ConfigFailure) :
    (Outcome.ofConfigFailure tree failure).tree = tree := by
  unfold Outcome.ofConfigFailure
  split <;> rfl

theorem checkAll_tree (workspace : Workspace) (verbose : Bool) (prelude : String) (sound : Bool)
    (references : List String) :
    (checkAll workspace verbose prelude sound references).tree = workspace.tree := by
  induction references generalizing workspace sound with
  | nil => cases sound <;> rfl
  | cons reference rest ih =>
    have same := Workspace.renderClass_tree workspace reference prelude
    rw [checkAll]
    rcases rendered : workspace.renderClass reference prelude with
      ⟨reached, log, failure | ⟨name, text⟩⟩
    · rw [rendered] at same
      cases spoken : failure.report? with
      | none => simpa only [spoken] using same
      | some report =>
        simp only [spoken]
        exact (ih reached false).trans same
    · rw [rendered] at same
      exact (ih reached sound).trans same

theorem check_tree (interpreter : Interpreter) (tree : FileTree) (verbose : Bool)
    (source : Source) : (check interpreter tree verbose source).tree = tree := by
  unfold check Source.withConfig
  split
  · exact ofConfigFailure_tree tree _
  · next config _ =>
    change (if config.domainClasses.isEmpty then _ else _ : Outcome).tree = tree
    split
    · rfl
    · exact checkAll_tree _ _ _ _ _

/-! ## Making a configuration -/

def placeOf (working : Place) (directory : String) : Place :=
  (FilePath.ofText directory).place working

structure Made (tree : FileTree) (place : Place) (after : FileTree) : Prop where
  located : tree.Locates (configPath place) (place ++ [Config.fileName])
  absent : tree.node? (place ++ [Config.fileName]) = none
  added : after = tree.put (place ++ [Config.fileName]) (.text (Config.starter []))
  loads : ∀ runtime, Config.load runtime after (configPath place) = .ok Config.default

theorem init_cases {tree : FileTree} (proper : FilePath.upward ∉ tree.working)
    (directory : String) :
    ((init tree directory).tree = tree ∧ ∀ code, (init tree directory).ending = .exit code →
      code = 1) ∨
    (init tree directory).ending = .exit 0 ∧
      Made tree (placeOf tree.working directory) (init tree directory).tree := by
  unfold init
  dsimp only
  rw [← placeOf]
  generalize found : placeOf tree.working directory = place
  have straight : FilePath.upward ∉ place ++ [Config.fileName] := by
    have straight : FilePath.upward ∉ place :=
      found ▸ FilePath.upward_notMem_place proper (FilePath.ofText directory)
    rw [List.mem_append, not_or]
    exact ⟨straight, by decide⟩
  have failed (error : FileError) (code : Nat) :
      (Outcome.ofFileError tree error).ending = .exit code → code = 1 := fun same => by cases same
  have refused (code : Nat) : Ending.exit 1 = .exit code → code = 1 := fun same => by
    cases same; rfl
  split
  · exact .inl ⟨rfl, failed _⟩
  · split
    · exact .inl ⟨rfl, failed _⟩
    · exact .inl ⟨rfl, refused⟩
    · exact .inl ⟨rfl, failed _⟩
    · exact .inl ⟨rfl, refused⟩
    · next empty =>
      split
      · exact .inl ⟨rfl, failed _⟩
      · next after written =>
        obtain ⟨there, located, -, same, -⟩ := FileTree.write_eq_ok written
        obtain rfl : there = place ++ [Config.fileName] :=
          located.place_eq.trans (FilePath.place_ofPlace straight tree.working)
        have absent : tree.node? (place ++ [Config.fileName]) = none := by
          have present := located.contains.symm.trans empty
          simpa using present
        exact .inr ⟨rfl, located, absent, same, fun _ => Config.load_write Config.default written⟩

theorem init_of_present {tree : FileTree} {directory : String} {node : Node}
    (possible : (FilePath.ofText directory).hasNul = false)
    (located : tree.Locates (configPath (placeOf tree.working directory))
      (placeOf tree.working directory ++ [Config.fileName]))
    (there : tree.node? (placeOf tree.working directory ++ [Config.fileName]) = some node) :
    (init tree directory).ending = .exit 1 := by
  have above := located.contains_above.1
  have present := located.contains
  rw [there] at present
  unfold init
  dsimp only
  rw [← placeOf]
  simp only [possible, above, present]
  rfl

/-! ## Runs one after another -/

/-- A run of the program: its words, and the directory that it is started in, which is a place
without steps upward. -/
structure Start where
  working : Place
  words : List String
  proper : FilePath.upward ∉ working

namespace Start

def outcome (interpreter : Interpreter) (start : Start) (tree : FileTree) : Outcome :=
  run interpreter (tree.startedIn start.working) start.words

def treeAfter (interpreter : Interpreter) (start : Start) (tree : FileTree) : FileTree :=
  (start.outcome interpreter tree).tree

end Start

def treeAfter (interpreter : Interpreter) (tree : FileTree) (starts : List Start) : FileTree :=
  starts.foldl (fun tree start => start.treeAfter interpreter tree) tree

variable {interpreter : Interpreter} {start : Start}

theorem nodes_of_check (checks : Checks start.words) (tree : FileTree) :
    (start.treeAfter interpreter tree).nodes = tree.nodes := by
  obtain ⟨verbose, source, asked⟩ := checks
  unfold Start.treeAfter Start.outcome run
  rw [asked]
  have left := check_tree interpreter (tree.startedIn start.working) verbose source
  exact (congrArg FileTree.nodes left).trans rfl

theorem nodes_of_help (help : AsksHelp start.words) (tree : FileTree) :
    (start.treeAfter interpreter tree).nodes = tree.nodes := by
  obtain ⟨lines, asked⟩ := help
  unfold Start.treeAfter Start.outcome run
  rw [asked]
  rfl

theorem outcome_of_misuse (misused : IsMisused start.words) (tree : FileTree) :
    (start.treeAfter interpreter tree).nodes = tree.nodes ∧
      (start.outcome interpreter tree).ending = .exit 2 := by
  obtain ⟨program, cause, asked⟩ := misused
  unfold Start.treeAfter Start.outcome run
  rw [asked]
  exact ⟨rfl, rfl⟩

theorem start_init_cases {directory : String} (inits : Inits start.words directory)
    (tree : FileTree) :
    ((start.treeAfter interpreter tree).nodes = tree.nodes ∧
      (start.outcome interpreter tree).ending ≠ .exit 0) ∨
    (start.outcome interpreter tree).ending = .exit 0 ∧
      Made (tree.startedIn start.working) (placeOf start.working directory)
        (start.treeAfter interpreter tree) := by
  obtain ⟨verbose, asked⟩ := inits
  unfold Start.treeAfter Start.outcome run
  rw [asked]
  have runs := @init_cases (tree.startedIn start.working) start.proper directory
  rcases runs with ⟨left, code⟩ | ⟨ends, made⟩
  · refine .inl ⟨(congrArg FileTree.nodes left).trans rfl, fun ends => ?_⟩
    cases code 0 ends
  · exact .inr ⟨ends, made⟩

theorem kept_of_nodes {tree after : FileTree} (left : after.nodes = tree.nodes) :
    tree.Kept after := by
  intro place node found
  rw [FileTree.node?, left]
  exact found

theorem kept_of_start (cautious : IsCautious start.words) (tree : FileTree) :
    tree.Kept (start.treeAfter interpreter tree) := by
  rcases cases_of_isCautious cautious with help | misused | checks | ⟨directory, inits⟩
  · exact kept_of_nodes (nodes_of_help help tree)
  · exact kept_of_nodes (outcome_of_misuse misused tree).1
  · exact kept_of_nodes (nodes_of_check checks tree)
  · rcases start_init_cases inits tree with ⟨left, -⟩ | ⟨-, made⟩
    · exact kept_of_nodes left
    · rw [made.added]
      exact (FileTree.put_extends made.absent _).kept

theorem kept_treeAfter {starts : List Start} (cautious : ∀ start ∈ starts, IsCautious start.words)
    (tree : FileTree) : tree.Kept (treeAfter interpreter tree starts) := by
  induction starts generalizing tree with
  | nil => exact fun _ _ found => found
  | cons start rest ih =>
    obtain ⟨first, others⟩ := List.forall_mem_cons.mp cautious
    intro place node found
    exact ih others (start.treeAfter interpreter tree) place node
      (kept_of_start first tree place node found)

theorem nodes_of_failure (cautious : IsCautious start.words) {tree : FileTree}
    (failed : (start.outcome interpreter tree).ending ≠ .exit 0) :
    (start.treeAfter interpreter tree).nodes = tree.nodes := by
  rcases cases_of_isCautious cautious with help | misused | checks | ⟨directory, inits⟩
  · exact nodes_of_help help tree
  · exact (outcome_of_misuse misused tree).1
  · exact nodes_of_check checks tree
  · rcases start_init_cases inits tree with ⟨left, -⟩ | ⟨ends, -⟩
    · exact left
    · exact absurd ends failed

theorem init_again {tree after later : FileTree} {place : Place} (made : Made tree place after)
    (kept : after.Kept later) {last : Start} {directory : String}
    (inits : Inits last.words directory) (there : placeOf last.working directory = place)
    (possible : (FilePath.ofText directory).hasNul = false) :
    (last.outcome interpreter later).ending = .exit 1 := by
  obtain ⟨verbose, same⟩ := inits
  subst there
  unfold Start.outcome run
  rw [same]
  have below := FileTree.ne_root_of_absent made.absent
  have present : after.node? (placeOf last.working directory ++ [Config.fileName]) =
      some (.text (Config.starter [])) := by
    rw [made.added, FileTree.node?_put _ _ _ _ below, if_pos rfl]
  have located := made.located.grows (made.added ▸ FileTree.put_extends made.absent _).grows
  exact @init_of_present (later.startedIn last.working) _ _ possible
    (kept.locates located rfl last.working) (kept _ _ present)

/-- Words that name a command ask for it or for help, or are misused. Runs of anything but
`generate` keep every file. A check changes nothing, nor does a run that does not exit with 0; a run
of `init` that does adds the starter configuration to the directory it names, and every later one on
this directory exits with 1. (A name with a null character cannot be given on a command line.) -/
theorem preserves_files (interpreter : Interpreter) :
    (∀ words name, Names words name → AsksHelp words ∨ IsMisused words ∨
      ∃ verbose given, Request.ofArguments words = .run verbose (name.command given)) ∧
    (∀ (tree : FileTree) (starts : List Start), (∀ start ∈ starts, IsCautious start.words) →
      tree.Kept (treeAfter interpreter tree starts)) ∧
    (∀ (tree : FileTree) (start : Start), Checks start.words →
      (start.treeAfter interpreter tree).nodes = tree.nodes) ∧
    (∀ (tree : FileTree) (start : Start), IsCautious start.words →
      (start.outcome interpreter tree).ending ≠ .exit 0 →
      (start.treeAfter interpreter tree).nodes = tree.nodes) ∧
    ∀ (tree : FileTree) (start : Start), IsCautious start.words →
      (start.outcome interpreter tree).ending = .exit 0 →
      AsksHelp start.words ∨ Checks start.words ∨ ∃ directory place, Inits start.words directory ∧
        place = placeOf start.working directory ∧ tree.node? place = some .directory ∧
        tree.node? (place ++ [Config.fileName]) = none ∧
        (start.treeAfter interpreter tree).node? =
          Function.update tree.node? (place ++ [Config.fileName])
            (some (.text (Config.starter []))) ∧
        (∀ runtime, Config.load runtime (start.treeAfter interpreter tree) (configPath place) =
          .ok Config.default) ∧
        ∀ (starts : List Start) (last : Start) (again : String),
          (∀ start ∈ starts, IsCautious start.words) → Inits last.words again →
          placeOf last.working again = place → (FilePath.ofText again).hasNul = false →
          (last.outcome interpreter
            (treeAfter interpreter (start.treeAfter interpreter tree) starts)).ending =
              .exit 1 := by
  refine ⟨fun _ _ => request_of_names, fun tree _ cautious => kept_treeAfter cautious tree,
    fun tree _ checks => nodes_of_check checks tree,
    fun _ _ cautious failed => nodes_of_failure cautious failed,
    fun tree start cautious ends => ?_⟩
  rcases cases_of_isCautious cautious with help | misused | checks | ⟨directory, inits⟩
  · exact .inl help
  · rw [(outcome_of_misuse misused tree).2] at ends
    cases ends
  · exact .inr (.inl checks)
  · rcases start_init_cases inits tree with ⟨-, failed⟩ | ⟨-, made⟩
    · exact absurd ends failed
    · refine .inr (.inr ⟨directory, _, inits, rfl, made.located.contains_above.2, made.absent, ?_,
        made.loads, fun starts last again cautious onAgain there possible =>
          init_again made (kept_treeAfter cautious _) onAgain there possible⟩)
      rw [made.added]
      funext other
      rw [FileTree.node?_put _ _ _ _ (FileTree.ne_root_of_absent made.absent),
        Function.update_apply]
      rfl

def busyTree : FileTree :=
  ⟨[], [(["a"], .directory), (["a", "notes"], .text "keep"), (["m.py"], .text "")]⟩

def initHere : Start :=
  ⟨[], ["init", "a"], by decide⟩

def checkInside : Start :=
  ⟨["a"], ["check", "--class", "m:C"], by decide⟩

def initAbove : Start :=
  ⟨["a", "b"], ["-v", "init", "../"], by decide⟩

def treeBegun : FileTree :=
  initHere.treeAfter .usual busyTree

theorem preserves_files_again :
    (Names initHere.words .init ∧ IsCautious initHere.words ∧
      (initHere.outcome .usual busyTree).ending = .exit 0) ∧
    Checks checkInside.words ∧
    busyTree.Kept (treeAfter .usual busyTree [initHere, checkInside]) ∧
    Inits initAbove.words "../" ∧ placeOf initAbove.working "../" = ["a"] ∧
    (initAbove.outcome .usual (treeAfter .usual treeBegun [initHere, checkInside])).ending =
      .exit 1 := by
  have here : Request.ofArguments initHere.words = .run false (.init "a") := by decide +kernel
  have inside : Request.ofArguments checkInside.words = .run false (.check ⟨none, ["m:C"]⟩) := by
    decide +kernel
  have above : Request.ofArguments initAbove.words = .run true (.init "../") := by decide +kernel
  have read : (Interface.top.read initHere.words).toOption = some ⟨[], ["init", "a"], []⟩ := by
    decide +kernel
  have ends : (initHere.outcome .usual busyTree).ending = .exit 0 := eq_exit (by decide +kernel)
  have hereCautious : IsCautious initHere.words := by
    intro _ _ _ same
    cases here.symm.trans same
  have insideCautious : IsCautious checkInside.words := by
    intro _ _ _ same
    cases inside.symm.trans same
  have cautious : ∀ start ∈ [initHere, checkInside], IsCautious start.words := by
    simp only [List.forall_mem_cons]
    exact ⟨hereCautious, insideCautious, fun _ none => absurd none List.not_mem_nil⟩
  have onAgain : Inits initAbove.words "../" := ⟨true, above⟩
  obtain ⟨-, kept, -, -, succeeded⟩ := preserves_files .usual
  rcases succeeded busyTree initHere hereCautious ends with
    ⟨_, help⟩ | ⟨_, _, check⟩ | ⟨directory, place, ⟨_, on⟩, same, -, -, -, -, later⟩
  · cases here.symm.trans help
  · cases here.symm.trans check
  · obtain ⟨-, command⟩ := Request.run.inj (here.symm.trans on)
    obtain rfl := Command.init.inj command
    have there : placeOf initAbove.working "../" = ["a"] := by decide +kernel
    have onPlace : placeOf initAbove.working "../" = place := by
      rw [same]
      decide +kernel
    exact ⟨⟨⟨_, toOption_eq_some.mp read, rfl⟩, hereCautious, ends⟩, ⟨_, _, inside⟩,
      kept _ _ cautious, onAgain, there, later _ _ _ cautious onAgain onPlace (by decide +kernel)⟩

end CommandLine

end EnumTables
