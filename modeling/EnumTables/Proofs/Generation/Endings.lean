import EnumTables.Proofs.DomainClass.Table
import EnumTables.Proofs.Generation.FirstFailure
import EnumTables.Proofs.Reference

/-!
# Endings of a run

A run ends with the paths of its files, with a documented error, or with something else. The last is
traced back through the steps of a reference: it is found, its members are read, its rows are shown
and its file is stored, and each step has its own list of what it lets through
(`DomainClass.readingUncaught_iff`, `Workspace.uncaught_iff`). A run ends with an error that is not
documented iff it comes to a reference at which something of the lists is the case
(`Workspace.generate_uncaught_iff`).
-/

namespace EnumTables

/-! ## Names with a null character -/

namespace FilePath

theorem hasNul_ofText {text : String} (nul : '\x00' ∈ text.toList) :
    (ofText text).hasNul = true := by
  have slash : '\x00' ∉ ['/'] := by decide
  obtain ⟨piece, inside, held⟩ : ∃ piece ∈ text.toList.splitOn '/', '\x00' ∈ piece := by
    by_contra none
    push Not at none
    have apart := Text.notMem_intercalate slash none
    rw [List.intercalate_splitOn] at apart
    exact apart nul
  have name : String.ofList piece ≠ "" ∧ String.ofList piece ≠ "." := by
    constructor <;> intro same <;> rw [← String.toList_ofList (l := piece), same] at held <;>
      simp at held
  refine List.any_eq_true.mpr ⟨String.ofList piece, ?_, by simpa using held⟩
  exact List.mem_filter.mpr ⟨List.mem_map_of_mem inside, by simpa using name⟩

theorem hasNul_child {output : FilePath} {name : String} (nul : '\x00' ∈ name.toList) :
    (output.child name).hasNul = true := by
  obtain ⟨part, inside, held⟩ := List.any_eq_true.mp (hasNul_ofText nul)
  unfold child join
  split
  · exact hasNul_ofText nul
  · exact List.any_eq_true.mpr ⟨part, List.mem_append_right _ inside, held⟩

theorem hasNul_of_parent {path : FilePath} (h : path.parent.hasNul = true) :
    path.hasNul = true := by
  obtain ⟨name, inside, nul⟩ := List.any_eq_true.mp h
  exact List.any_eq_true.mpr ⟨name, List.dropLast_subset _ inside, nul⟩

end FilePath

namespace FileTree

open FilePath (hasNul_of_parent)

variable (tree : FileTree) (path : FilePath)

theorem target_impossible_iff :
    tree.target path = .error .impossibleName ↔ path.hasNul = true := by
  unfold target
  split
  · next nul => exact iff_of_true rfl nul
  · next noNul =>
    refine iff_of_false (fun h => ?_) noNul
    split at h
    · cases h
    · dsimp only at h
      generalize (if path.isAbsolute = true then [] else tree.working) = start at h
      cases led : tree.follow (.found start .directory) path.parts <;> rw [led] at h <;> cases h

theorem write_impossible_iff (content : String) :
    tree.write path content = .error .impossibleName ↔ path.hasNul = true := by
  rw [write, bind_eq_error, target_impossible_iff]
  refine or_iff_left ?_
  rintro ⟨target, -, h⟩
  cases target with
  | found place node =>
    dsimp only at h
    split at h <;> cases h
  | absent place => cases h

theorem makeDirectory_impossible_iff :
    tree.makeDirectory path = .error .impossibleName ↔ path.hasNul = true := by
  rw [makeDirectory, bind_eq_error, target_impossible_iff]
  refine or_iff_left ?_
  rintro ⟨target, -, h⟩
  cases target <;> cases h

theorem ensureDirectory_impossible_iff :
    tree.ensureDirectory path = .error .impossibleName ↔ path.hasNul = true := by
  rw [← makeDirectory_impossible_iff tree path]
  unfold ensureDirectory
  constructor
  · intro h
    cases made : tree.makeDirectory path with
    | ok after => simp [made] at h
    | error error =>
      rw [made] at h
      split at h
      · cases h
      · cases h
      · next other _ same =>
        split at h
        · cases h
        · rw [same, Except.error.inj h]
  · intro h
    have nul := (makeDirectory_impossible_iff tree path).mp h
    have led : tree.target path = .error .impossibleName := (target_impossible_iff tree path).mpr nul
    simp [h, isDirectory, led]

theorem makeDirectories_impossible_iff :
    (tree.makeDirectories path).2 = .error .impossibleName ↔ path.hasNul = true := by
  -- a directory is looked for above only if the path is one that could be there
  have possible : ∀ (path : FilePath) (error : FileError),
      tree.ensureDirectory path = .error error → error ≠ .impossibleName →
      path.hasNul ≠ true := by
    intro path error blocked other nul
    rw [(ensureDirectory_impossible_iff tree path).mpr nul] at blocked
    exact other (Except.error.inj blocked).symm
  induction path using makeDirectories.induct tree with
  | case1 path after ensured =>
    rw [makeDirectories, ensured, ← ensureDirectory_impossible_iff tree path, ensured]
    simp
  | case2 path error blocked above after failure failed ih =>
    have noNul := possible path error blocked (by rintro rfl; cases above.1)
    rw [failed] at ih
    have stopped : failure ≠ .impossibleName := fun same =>
      noNul (hasNul_of_parent (ih.mp (by rw [same])))
    simp [makeDirectories, blocked, above, failed, stopped, noNul]
  | case3 path error blocked above middle reached after ensured ih =>
    have noNul := possible path error blocked (by rintro rfl; cases above.1)
    simp [makeDirectories, blocked, above, reached, ensured, noNul]
  | case4 path error blocked above middle reached failure ensured ih =>
    have noNul := possible path error blocked (by rintro rfl; cases above.1)
    have stopped : failure ≠ .impossibleName := fun same =>
      noNul ((ensureDirectory_impossible_iff _ path).mp (same ▸ ensured))
    simp [makeDirectories, blocked, above, reached, ensured, stopped, noNul]
  | case5 path error blocked stuck =>
    rw [makeDirectories, blocked]
    simp only [dif_neg stuck]
    rw [← ensureDirectory_impossible_iff tree path, blocked]
    simp

end FileTree

/-! ## Reading members -/

def ClassObject.listedMembers (cls : ClassObject) : List Value :=
  match cls.enumeration with
  | some enumeration => enumeration.listed.map (cls.memberValue enumeration)
  | none => []

namespace Accessor

variable {scope : Scope} {cls : ClassObject} {cause : Raised}

def HasUndescribed (scope : Scope) (cls : ClassObject) (cause : Raised) : Prop :=
  ∃ name ∈ candidates scope cls, ∃ (function : Function) (types : List (String × TypeForm)),
    ∃ result, function.signature scope = .ok types ∧
      types.lookup Function.resultKey = some result ∧ result.describe = .error cause

theorem undescribed_of_ofFunction {className name : String} {function : Function} {isMethod : Bool}
    (h : ofFunction scope className name function isMethod = .error (.raised cause)) :
    ∃ (types : List (String × TypeForm)) (result : TypeForm), function.signature scope = .ok types ∧
      types.lookup Function.resultKey = some result ∧ result.describe = .error cause := by
  unfold ofFunction at h
  split at h
  · cases h
  · next types signature =>
    split at h
    · cases h
    · next result declared =>
      split at h
      · cases h
      · split at h
        · cases h
        · next described =>
          obtain rfl := DiscoveryError.raised.inj (Except.error.inj h)
          exact ⟨types, result, signature, declared, described⟩

theorem undescribed_of_discoverFrom {names : List String}
    (h : (discoverFrom scope cls names).result = .error (.raised cause)) :
    ∃ name ∈ names, ∃ (function : Function) (types : List (String × TypeForm)),
      ∃ result, function.signature scope = .ok types ∧
        types.lookup Function.resultKey = some result ∧ result.describe = .error cause := by
  induction names with
  | nil => cases h
  | cons name rest ih =>
    have later (h : (discoverFrom scope cls rest).result = .error (.raised cause)) :=
      (ih h).imp fun _ found => And.imp_left (List.mem_cons_of_mem name) found
    rw [discoverFrom] at h
    split at h
    · exact later h
    · split at h
      · exact later h
      · exact later h
      · split at h
        · next failed =>
          obtain rfl := Except.error.inj h
          exact ⟨name, List.mem_cons_self, _, undescribed_of_ofFunction failed⟩
        · exact later h
        · exact later (map_eq_error.mp h)

theorem hasUndescribed_of_discover
    (h : (discover scope cls).result = .error (.raised cause)) : HasUndescribed scope cls cause :=
  undescribed_of_discoverFrom h

end Accessor

namespace DomainClass

variable {scope : Scope} {cls : ClassObject} {accessors : List Accessor} {member : Value}

inductive ReadingUncaught (scope : Scope) (accessors : List Accessor) (member : Value) :
    Failure → Prop
  | ending {before after : List Accessor} {accessor : Accessor} {raised : Raised} :
      accessors = before ++ accessor :: after →
      (∀ other ∈ before, Readable scope member other) →
      scope.readValue member accessor.name accessor.isMethod = .error raised →
      raised.endsRun = true → ReadingUncaught scope accessors member (.exception raised)
  /-- An accessor fails, and the name by which the member would be reported does as well. -/
  | nameless {before after : List Accessor} {accessor : Accessor} {raised other : Raised} :
      accessors = before ++ accessor :: after →
      (∀ other ∈ before, Readable scope member other) →
      scope.readValue member accessor.name accessor.isMethod = .error raised →
      raised.endsRun = false → scope.shownName member = .error other →
      ReadingUncaught scope accessors member (.exception other)
  | naming {raised : Raised} : (∀ accessor ∈ accessors, Readable scope member accessor) →
      NameRaises scope member raised →
      ReadingUncaught scope accessors member (.exception raised)
  | notText {name : Value} {faults : List Fault} :
      (∀ accessor ∈ accessors, Readable scope member accessor) →
      scope.readValue member "name" false = .ok name →
      (scope.dressed name).textRefusal? = none →
      name.readText.within (.key "name") = .error faults →
      ReadingUncaught scope accessors member (.invalid faults)

theorem flatMap_readFailures (readable : ∀ other ∈ accessors, Readable scope member other) :
    accessors.flatMap (readFailures scope cls member) = [] := by
  refine List.flatMap_eq_nil_iff.mpr fun other inside => ?_
  obtain ⟨value, read⟩ := readable other inside
  rw [readFailures, read]

theorem memberFailures_of_accessor {before after : List Accessor} {accessor : Accessor}
    {raised : Raised} (split : accessors = before ++ accessor :: after)
    (readable : ∀ other ∈ before, Readable scope member other)
    (failed : scope.readValue member accessor.name accessor.isMethod = .error raised) :
    (memberFailures scope cls accessors member).head? =
      some (unreadable scope cls member accessor raised) := by
  have here : readFailures scope cls member accessor =
      [unreadable scope cls member accessor raised] := by
    rw [readFailures, failed]
  rw [memberFailures, split, List.flatMap_append, flatMap_readFailures readable, List.flatMap_cons,
    here]
  rfl

theorem memberFailures_of_readable
    (readable : ∀ accessor ∈ accessors, Readable scope member accessor) :
    memberFailures scope cls accessors member = nameFailures scope member := by
  rw [memberFailures, flatMap_readFailures readable, List.nil_append]

theorem readingUncaught_iff {failure : Failure} :
    (memberFailures scope cls accessors member).head? = some failure ∧
        failure.errorClass? = none ↔ ReadingUncaught scope accessors member failure := by
  constructor
  · rintro ⟨first, undocumented⟩
    rcases failsAt_of_memberFailures first with
      ⟨before, accessor, after, raised, split, readable, failed, reported⟩ |
      ⟨readable, ⟨raised, failed, rfl⟩ | ⟨name, faults, read, taken, wrong, rfl⟩⟩
    · cases reported with
      | caught => cases undocumented
      | nameless caught shown => exact .nameless split readable failed caught shown
      | uncaught ends => exact .ending split readable failed ends
    · exact .naming readable failed
    · exact .notText readable read taken wrong
  · intro uncaught
    cases uncaught with
    | ending split readable failed ends =>
      rw [memberFailures_of_accessor split readable failed, unreadable, if_pos ends]
      exact ⟨rfl, rfl⟩
    | nameless split readable failed caught shown =>
      have nameless := shown
      unfold Scope.shownName at nameless
      rw [memberFailures_of_accessor split readable failed, unreadable, caught, nameless]
      exact ⟨rfl, rfl⟩
    | naming readable failed =>
      rw [memberFailures_of_readable readable, nameFailures]
      rcases failed with unread | ⟨name, read, refused⟩
      · rw [unread]
        exact ⟨rfl, rfl⟩
      · simp only [read, refused]
        exact ⟨rfl, rfl⟩
    | notText readable read taken wrong =>
      rw [memberFailures_of_readable readable, nameFailures, read]
      simp only [taken, wrong]
      exact ⟨rfl, rfl⟩

theorem ofAccessors_reports (scope : Scope) (cls : ClassObject) (accessors : List Accessor) :
    Reports (ofAccessors scope cls accessors)
      (cls.listedMembers.flatMap (memberFailures scope cls accessors)) :=
  (variantsFrom_reports scope cls accessors 0 cls.listedMembers).map _

theorem loadUncaught_iff {failure : Failure} :
    (load scope cls).result = .error failure ∧ failure.errorClass? = none ↔
      (∃ cause, (Accessor.discover scope cls).result = .error (.raised cause) ∧
        failure = .exception cause) ∨
      ∃ accessors front member back, (Accessor.discover scope cls).result = .ok accessors ∧
        cls.listedMembers = front ++ member :: back ∧
        (∀ earlier ∈ front, memberFailures scope cls accessors earlier = []) ∧
        ReadingUncaught scope accessors member failure := by
  rw [load_result]
  cases found : (Accessor.discover scope cls).result with
  | error error =>
    constructor
    · rintro ⟨h, undocumented⟩
      obtain rfl := Except.error.inj h
      cases error with
      | signature => cases undocumented
      | raised cause => exact .inl ⟨cause, rfl, rfl⟩
    · rintro (⟨cause, same, rfl⟩ | ⟨_, _, _, _, other, -⟩)
      · obtain rfl := Except.error.inj same
        exact ⟨rfl, rfl⟩
      · cases other
  | ok accessors =>
    rw [(ofAccessors_reports scope cls accessors).eq_error_iff, List.head?_flatMap,
      List.findSome?_eq_some_iff]
    constructor
    · rintro ⟨⟨front, member, back, split, first, earlier⟩, undocumented⟩
      exact .inr ⟨accessors, front, member, back, rfl, split,
        fun other inside => List.head?_eq_none_iff.mp (earlier other inside),
        readingUncaught_iff.mp ⟨first, undocumented⟩⟩
    · rintro (⟨_, other, -⟩ | ⟨_, front, member, back, same, split, earlier, uncaught⟩)
      · cases other
      · obtain rfl := Except.ok.inj same
        have ⟨first, undocumented⟩ : (memberFailures scope cls accessors member).head? =
            some failure ∧ failure.errorClass? = none := readingUncaught_iff.mpr uncaught
        exact ⟨⟨front, member, back, split, first,
          fun other inside => List.head?_eq_none_iff.mpr (earlier other inside)⟩, undocumented⟩

end DomainClass

/-! ## Classes and files -/

namespace Workspace

variable {output : FilePath} {prelude suffix : String} {workspace : Workspace} {reference : String}
  {failure : Failure}

/-- What ends a run at a reference without a documented error. -/
inductive Uncaught (output : FilePath) (prelude suffix : String) (workspace : Workspace)
    (reference : String) : Failure → Prop
  | finding {failure : Failure} :
      Reference.Uncaught workspace.tree workspace.roots workspace.modules reference failure →
      Uncaught output prelude suffix workspace reference failure
  | describing {imported : ModuleTable} {scope : Scope} {cls : ClassObject} {cause : Raised} :
      Reference.resolve workspace.tree workspace.roots workspace.modules reference =
        (imported, .ok (scope, cls)) →
      (Accessor.discover scope cls).result = .error (.raised cause) →
      Accessor.HasUndescribed scope cls cause →
      Uncaught output prelude suffix workspace reference (.exception cause)
  | loading {imported : ModuleTable} {scope : Scope} {cls : ClassObject}
      {accessors : List Accessor} {front back : List Value} {member : Value} {failure : Failure} :
      Reference.resolve workspace.tree workspace.roots workspace.modules reference =
        (imported, .ok (scope, cls)) →
      (Accessor.discover scope cls).result = .ok accessors →
      cls.listedMembers = front ++ member :: back →
      (∀ earlier ∈ front, DomainClass.memberFailures scope cls accessors earlier = []) →
      DomainClass.ReadingUncaught scope accessors member failure →
      Uncaught output prelude suffix workspace reference failure
  | showing {imported : ModuleTable} {scope : Scope} {cls : ClassObject} {loaded : DomainClass}
      {cause : Raised} :
      Reference.resolve workspace.tree workspace.roots workspace.modules reference =
        (imported, .ok (scope, cls)) →
      (DomainClass.load scope cls).result = .ok loaded →
      (loaded.drained.run workspace.spent).1.failures.head? = some (.raised cause) →
      loaded.HasWild → Uncaught output prelude suffix workspace reference (.exception cause)
  /-- The path of the file has a null character, and nothing else stands in the way of it. -/
  | storing {name text : String} :
      (workspace.renderClass reference prelude).2.result = .ok (name, text) →
      (output.child (Identifier.fileName name suffix)).hasNul = true →
      (∀ obstacle place, (workspace.tree.makeDirectories
        (output.child (Identifier.fileName name suffix)).parent).2 ≠
          .error (.blocked obstacle place)) →
      Uncaught output prelude suffix workspace reference
        (.exception FileError.impossibleName.raised)

theorem renderClass_result (workspace : Workspace) (reference prelude : String) :
    (workspace.renderClass reference prelude).2.result =
      match (Reference.resolve workspace.tree workspace.roots workspace.modules reference).2 with
      | .error failure => .error failure
      | .ok (scope, cls) => (render workspace.spent scope cls prelude).2.result := by
  unfold renderClass resolve
  rcases Reference.resolve workspace.tree workspace.roots workspace.modules reference with
    ⟨imported, failure | ⟨scope, cls⟩⟩ <;> rfl

theorem render_of_failed_load {spent : Spent} {scope : Scope} {cls : ClassObject}
    (h : (DomainClass.load scope cls).result = .error failure) :
    (render spent scope cls prelude).2.result = .error failure := by
  unfold render
  rcases loads : DomainClass.load scope cls with ⟨log, result⟩
  rw [loads] at h
  obtain rfl : result = .error failure := h
  rfl

theorem hasWild_of_load {spent : Spent} {scope : Scope} {cls : ClassObject}
    {loaded : DomainClass} {cause : Raised} (loads : (DomainClass.load scope cls).result = .ok loaded)
    (h : (loaded.drained.run spent).1.failures.head? = some (.raised cause)) : loaded.HasWild := by
  have wild : DomainClass.HasWild (loaded.drained.run spent).1 := by
    rcases List.mem_append.mp (List.mem_of_head? h) with ofSchema | ofVariant
    · rcases Property.isOfSchema_of_mem ofSchema with ⟨_, _, _, duplicate⟩ | ⟨_, unsupported⟩
      · cases duplicate
      · cases unsupported
    · have inPlace := DomainClass.inPlace_of_keeps (DomainClass.drained_keeps loaded spent).2.2
        (DomainClass.inPlace_of_load loads)
      obtain ⟨variant, inside, property, -, ofValue⟩ :=
        DomainClass.valueFailure_of_mem inPlace ofVariant
      obtain ⟨value, held, wild⟩ := Variant.isWild_of_raised ofValue
      exact ⟨variant, inside, _, mem_of_lookup held, wild⟩
  exact DomainClass.hasWild_of_drained wild

theorem errorClass?_emissionFailure {className : String} {error : EmissionError} :
    (emissionFailure className error).errorClass? = none ↔ ∃ cause, error = .raised cause := by
  cases error <;> simp [emissionFailure, Failure.errorClass?]

theorem render_uncaught_iff {spent : Spent} {scope : Scope} {cls : ClassObject} :
    (render spent scope cls prelude).2.result = .error failure ∧ failure.errorClass? = none ↔
      ((DomainClass.load scope cls).result = .error failure ∧ failure.errorClass? = none) ∨
      ∃ loaded cause, (DomainClass.load scope cls).result = .ok loaded ∧
        (loaded.drained.run spent).1.failures.head? = some (.raised cause) ∧
        failure = .exception cause := by
  cases loads : (DomainClass.load scope cls).result with
  | error other =>
    rw [render_of_failed_load loads]
    simp
  | ok loaded =>
    have reports := SourceUnit.emit_reports (loaded.drained.run spent).1 prelude
    rw [DomainClass.render_result loads]
    constructor
    · rintro ⟨h, undocumented⟩
      cases written : (SourceUnit.emit (loaded.drained.run spent).1 prelude).result with
      | ok text => simp [written] at h
      | error error =>
        rw [written] at h
        obtain rfl := Except.error.inj h
        obtain ⟨cause, rfl⟩ := errorClass?_emissionFailure.mp undocumented
        exact .inr ⟨loaded, cause, rfl, reports.eq_error_iff.mp written, rfl⟩
    · rintro (⟨h, -⟩ | ⟨_, cause, same, first, rfl⟩)
      · cases h
      · obtain rfl := Except.ok.inj same
        rw [reports.eq_error_iff.mpr first]
        exact ⟨rfl, rfl⟩

theorem renderClass_uncaught_iff :
    (workspace.renderClass reference prelude).2.result = .error failure ∧
        failure.errorClass? = none ↔
      Reference.Uncaught workspace.tree workspace.roots workspace.modules reference failure ∨
      ∃ imported scope cls,
        Reference.resolve workspace.tree workspace.roots workspace.modules reference =
          (imported, .ok (scope, cls)) ∧
        (render workspace.spent scope cls prelude).2.result = .error failure ∧
        failure.errorClass? = none := by
  rw [renderClass_result, ← Reference.uncaught_iff]
  rcases Reference.resolve workspace.tree workspace.roots workspace.modules reference with
    ⟨imported, other | ⟨scope, cls⟩⟩ <;> simp

theorem writeSource_uncaught_iff {text : String} {path : FilePath} :
    (workspace.writeSource text path).2 = .error failure ∧ failure.errorClass? = none ↔
      path.hasNul = true ∧
        (∀ obstacle place, (workspace.tree.makeDirectories path.parent).2 ≠
          .error (.blocked obstacle place)) ∧
        failure = .exception FileError.impossibleName.raised := by
  unfold writeSource
  rcases made : workspace.tree.makeDirectories path.parent with ⟨tree, (⟨obstacle, place⟩ | _) | ⟨⟩⟩
  · -- a directory on the way cannot be made, and that is reported
    refine iff_of_false ?_ fun h => h.2.1 obstacle place rfl
    rintro ⟨same, undocumented⟩
    obtain rfl := Except.error.inj same
    cases undocumented
  · have above := (FileTree.makeDirectories_impossible_iff _ _).mp (congrArg Prod.snd made)
    have nul := FilePath.hasNul_of_parent above
    constructor
    · rintro ⟨same, -⟩
      exact ⟨nul, fun _ _ other => (nomatch other), (Except.error.inj same).symm⟩
    · rintro ⟨-, -, rfl⟩
      exact ⟨rfl, rfl⟩
  · have possible := FileTree.write_impossible_iff tree path text
    cases written : tree.write path text with
    | ok after =>
      rw [written] at possible
      refine iff_of_false ?_ fun h => (nomatch possible.mpr h.1)
      rintro ⟨same, -⟩
      simp [written] at same
    | error error =>
      simp only [written, Except.error.injEq]
      rw [written] at possible
      cases error with
      | blocked obstacle place =>
        refine iff_of_false ?_ fun h => (nomatch possible.mpr h.1)
        rintro ⟨rfl, undocumented⟩
        cases undocumented
      | impossibleName =>
        constructor
        · rintro ⟨rfl, -⟩
          exact ⟨possible.mp rfl, fun _ _ other => (nomatch other), rfl⟩
        · rintro ⟨-, -, rfl⟩
          exact ⟨rfl, rfl⟩

theorem uncaught_iff :
    (∃ stopped, Stops output prelude suffix workspace reference failure stopped) ∧
        failure.errorClass? = none ↔
      Uncaught output prelude suffix workspace reference failure := by
  constructor
  · rintro ⟨⟨stopped, stops⟩, undocumented⟩
    cases stops with
    | rendering failed =>
      have result : (workspace.renderClass reference prelude).2.result = .error failure := by
        rw [failed]
      rcases renderClass_uncaught_iff.mp ⟨result, undocumented⟩ with finding |
        ⟨imported, scope, cls, resolved, rendered⟩
      · exact .finding finding
      · rcases render_uncaught_iff.mp rendered with loading | ⟨loaded, cause, loads, first, rfl⟩
        · rcases DomainClass.loadUncaught_iff.mp loading with ⟨cause, undescribed, rfl⟩ |
            ⟨accessors, front, member, back, found, split, earlier, uncaught⟩
          · exact .describing resolved undescribed (Accessor.hasUndescribed_of_discover undescribed)
          · exact .loading resolved found split earlier uncaught
        · exact .showing resolved loads first (hasWild_of_load loads first)
    | writing shown failed =>
      have tree := renderClass_tree workspace reference prelude
      obtain ⟨nul, clear, rfl⟩ := writeSource_uncaught_iff.mp
        ⟨congrArg Prod.snd failed, undocumented⟩
      rw [shown] at tree
      exact .storing (by rw [shown]) nul (tree ▸ clear)
  · intro uncaught
    have rendering : (workspace.renderClass reference prelude).2.result = .error failure ∧
        failure.errorClass? = none →
        (∃ stopped, Stops output prelude suffix workspace reference failure stopped) ∧
          failure.errorClass? = none := by
      rintro ⟨result, undocumented⟩
      rcases shown : workspace.renderClass reference prelude with ⟨stopped, log, outcome⟩
      rw [shown] at result
      obtain rfl : outcome = .error failure := result
      exact ⟨⟨stopped, .rendering shown⟩, undocumented⟩
    cases uncaught with
    | finding finding => exact rendering (renderClass_uncaught_iff.mpr (.inl finding))
    | describing resolved undescribed _ =>
      have loading := DomainClass.loadUncaught_iff.mpr (.inl ⟨_, undescribed, rfl⟩)
      exact rendering (renderClass_uncaught_iff.mpr (.inr
        ⟨_, _, _, resolved, render_uncaught_iff.mpr (.inl loading)⟩))
    | loading resolved found split earlier uncaught =>
      have loading := DomainClass.loadUncaught_iff.mpr
        (.inr ⟨_, _, _, _, found, split, earlier, uncaught⟩)
      exact rendering (renderClass_uncaught_iff.mpr (.inr
        ⟨_, _, _, resolved, render_uncaught_iff.mpr (.inl loading)⟩))
    | showing resolved loads first own =>
      exact rendering (renderClass_uncaught_iff.mpr (.inr
        ⟨_, _, _, resolved, render_uncaught_iff.mpr (.inr ⟨_, _, loads, first, rfl⟩)⟩))
    | @storing name text result nul clear =>
      have tree := renderClass_tree workspace reference prelude
      rcases shown : workspace.renderClass reference prelude with ⟨rendered, log, outcome⟩
      rw [shown] at result tree
      obtain rfl : outcome = .ok (name, text) := result
      rw [← show rendered.tree = workspace.tree from tree] at clear
      obtain ⟨failed, undocumented⟩ := writeSource_uncaught_iff.mpr ⟨nul, clear, rfl⟩
      exact ⟨⟨_, .writing shown (Prod.ext rfl failed)⟩, undocumented⟩

def EndsUncaught (output : FilePath) (prelude suffix : String) (workspace : Workspace)
    (references : List String) (failure : Failure) : Prop :=
  ∃ (k : Nat) (reference : String), ∃ files reached, references[k]? = some reference ∧
    Writes output prelude suffix workspace (references.take k) files reached ∧
    Uncaught output prelude suffix reached reference failure

variable {references : List String}

theorem generate_uncaught_iff :
    (generate output prelude suffix workspace references).2.result = .error failure ∧
        failure.errorClass? = none ↔
      EndsUncaught output prelude suffix workspace references failure := by
  obtain ⟨all, first, total⟩ := generate_first_failure output prelude suffix workspace references
  constructor
  · rintro ⟨failed, undocumented⟩
    rcases total with ⟨files, last, writes⟩ |
      ⟨k, reference, files, reached, other, stopped, here, writes, stops⟩
    · rw [(all files last writes).2.1] at failed
      cases failed
    · rw [(first k reference files reached other stopped here writes stops).2.1] at failed
      obtain rfl := Except.error.inj failed
      exact ⟨k, reference, files, reached, here, writes,
        uncaught_iff.mp ⟨⟨stopped, stops⟩, undocumented⟩⟩
  · rintro ⟨k, reference, files, reached, here, writes, uncaught⟩
    obtain ⟨⟨stopped, stops⟩, undocumented⟩ := uncaught_iff.mpr uncaught
    exact ⟨(first k reference files reached failure stopped here writes stops).2.1, undocumented⟩

theorem generate_documented_iff :
    ((∃ paths, (generate output prelude suffix workspace references).2.result = .ok paths) ∨
        ∃ failure error, (generate output prelude suffix workspace references).2.result =
          .error failure ∧ failure.errorClass? = some error) ↔
      ∀ failure, ¬EndsUncaught output prelude suffix workspace references failure := by
  simp only [← generate_uncaught_iff]
  cases (generate output prelude suffix workspace references).2.result with
  | ok paths => simp
  | error failure => simpa using Option.ne_none_iff_exists'.symm

end Workspace

end EnumTables
