import EnumTables.CommandLine.Run
import EnumTables.Proofs.Generation.Imported

/-!
# Checking and generating

`check` goes through the renderings of the configured references and says one line of each
(`checkAll_eq`). `generate` goes through the same renderings and stops at the first failure, so the
two commands end with the same code, report the same first failure, and `generate` has written what
`check` finds in order in front of it (`check_agrees`).
-/

namespace EnumTables.CommandLine

open Workspace (Rendering renderings LeavesReferences Wrote)

/-! ## What a check says -/

def lineOf? (rendering : Rendering) : Option Line :=
  match rendering.result with
  | .ok (name, _) => some (.output ("  " ++ name ++ ": ok"))
  | .error failure =>
    failure.report?.map fun report => .report (rendering.reference ++ ": " ++ report)

def linesOf (verbose : Bool) (rendering : Rendering) : List Line :=
  Line.ofLog verbose rendering.log ++ (lineOf? rendering).toList

def closing (sound : Bool) : List Line :=
  if sound then [.output "No issues found."] else []

def exitCode (sound : Bool) : Nat :=
  if sound then 0 else 1

theorem checkAll_eq {workspace : Workspace} {verbose sound : Bool} {prelude : String}
    {references : List String} {code : Nat}
    (ends : (checkAll workspace verbose prelude sound references).ending = .exit code) :
    (∀ rendering ∈ renderings prelude workspace references, (lineOf? rendering).isSome) ∧
      checkAll workspace verbose prelude sound references =
        ⟨workspace.tree,
          (renderings prelude workspace references).flatMap (linesOf verbose) ++
            closing (sound && (renderings prelude workspace references).all Rendering.isOk),
          .exit (exitCode
            (sound && (renderings prelude workspace references).all Rendering.isOk))⟩ := by
  induction references generalizing workspace sound with
  | nil => cases sound <;> exact ⟨fun _ inside => absurd inside List.not_mem_nil, rfl⟩
  | cons reference rest ih =>
    have tree := Workspace.renderClass_tree workspace reference prelude
    rw [checkAll] at ends ⊢
    rcases shown : workspace.renderClass reference prelude with
      ⟨rendered, log, failure | ⟨name, text⟩⟩
    · rw [shown] at tree ends
      cases spoken : failure.report? with
      | none =>
        simp only [spoken] at ends
        cases ends
      | some report =>
        simp only [spoken] at ends ⊢
        obtain ⟨lines, same⟩ := ih ends
        rw [renderings, shown]
        refine ⟨List.forall_mem_cons.mpr ⟨by simp [lineOf?, spoken], lines⟩, ?_⟩
        rw [same]
        simp [Outcome.after, linesOf, lineOf?, spoken, Rendering.isOk, ← tree]
    · rw [shown] at tree ends
      obtain ⟨lines, same⟩ := ih ends
      rw [renderings, shown]
      refine ⟨List.forall_mem_cons.mpr ⟨rfl, lines⟩, ?_⟩
      simp only [same]
      simp [Outcome.after, linesOf, lineOf?, Rendering.isOk, ← tree]

/-! ## What a run of `generate` says -/

def outputDirectory (tree : FileTree) (output : String) : FilePath :=
  FilePath.ofPlace ((FilePath.ofText output).place tree.working)

def generated (interpreter : Interpreter) (tree : FileTree) (output : String) (source : Source)
    (config : Config) : Workspace.Generated :=
  (source.workspace interpreter.release tree).generate (outputDirectory tree output)
    config.prelude config.suffix config.domainClasses

def announcement (interpreter : Interpreter) (tree : FileTree) (verbose : Bool) (output : String)
    (source : Source) (config : Config) : List Line :=
  Line.ofLog verbose (source.rootRecords tree.working) ++
    .output ("Generating " ++ Decimal.numeral config.domainClasses.length ++
      " domain class(es) into " ++ quoted (outputDirectory tree output) ++ "...") ::
    Line.ofLog verbose (generated interpreter tree output source config).2.log

def conclusion (generated : Workspace.Generated) : Outcome :=
  match generated.2.result with
  | .ok paths =>
    ⟨generated.1.tree, paths.map fun path => .output ("  " ++ path.name), .exit 0⟩
  | .error failure => .ofFailure generated.1.tree failure

variable {interpreter : Interpreter} {tree : FileTree} {verbose : Bool} {output : String}
  {source : Source} {config : Config}

theorem after_after (front back : List Line) (outcome : Outcome) :
    (outcome.after back).after front = outcome.after (front ++ back) := by
  simp only [Outcome.after, List.append_assoc]

theorem generate_eq (loaded : source.load interpreter.yaml tree = .ok config)
    (some_class : config.domainClasses ≠ [])
    (possible : (FilePath.ofText output).hasNul = false) :
    generate interpreter tree verbose output source =
      (conclusion (generated interpreter tree output source config)).after
        (announcement interpreter tree verbose output source config) := by
  have filled : config.domainClasses.isEmpty = false := by simpa using some_class
  simp only [generate, Source.withConfig, loaded, filled, possible, Bool.false_eq_true, if_false,
    after_after]
  rfl

theorem possible_of_generate {code : Nat} (loaded : source.load interpreter.yaml tree = .ok config)
    (some_class : config.domainClasses ≠ [])
    (ends : (generate interpreter tree verbose output source).ending = .exit code) :
    (FilePath.ofText output).hasNul = false := by
  have filled : config.domainClasses.isEmpty = false := by simpa using some_class
  simp only [generate, Source.withConfig, loaded, filled, Bool.false_eq_true, if_false] at ends
  cases impossible : (FilePath.ofText output).hasNul with
  | false => rfl
  | true =>
    rw [impossible] at ends
    cases ends

/-! ## Agreement -/

structure Agree (interpreter : Interpreter) (tree : FileTree) (verbose : Bool) (output : String)
    (source : Source) (config : Config) (checked made : Nat) (found : List Rendering) : Prop where
  references : found.map Rendering.reference = config.domainClasses
  spoken : ∀ rendering ∈ found, (lineOf? rendering).isSome
  lines : (check interpreter tree verbose source).lines =
    Line.ofLog verbose (source.rootRecords tree.working) ++
      (found.flatMap (linesOf verbose) ++ closing (found.all Rendering.isOk))
  checked : checked = exitCode (found.all Rendering.isOk)
  made : made = exitCode (found.all Rendering.isOk)
  sound : found.all Rendering.isOk = true →
    Wrote (outputDirectory tree output) config.suffix tree found
      (generate interpreter tree verbose output source).tree
  unsound : found.all Rendering.isOk = false → ∃ front reference log failure others report,
    found = front ++ ⟨reference, log, .error failure⟩ :: others ∧
      front.all Rendering.isOk = true ∧
      lineOf? ⟨reference, log, .error failure⟩ = some (.report (reference ++ ": " ++ report)) ∧
      (generate interpreter tree verbose output source).lines =
        announcement interpreter tree verbose output source config ++ [.report report] ∧
      Wrote (outputDirectory tree output) config.suffix tree front
        (generate interpreter tree verbose output source).tree

theorem report_of_exit {generated : Workspace.Generated} {code : Nat} {failure : Failure}
    (ends : (conclusion generated).ending = .exit code)
    (failed : generated.2.result = .error failure) : ∃ report, failure.report? = some report ∧
      conclusion generated = ⟨generated.1.tree, [.report report], .exit 1⟩ := by
  unfold conclusion at ends ⊢
  rw [failed] at ends ⊢
  simp only [Outcome.ofFailure] at ends ⊢
  cases spoken : failure.report? with
  | none =>
    rw [spoken] at ends
    cases ends
  | some report => exact ⟨report, rfl, rfl⟩

theorem agree_of_load {checked made : Nat} (loaded : source.load interpreter.yaml tree = .ok config)
    (some_class : config.domainClasses ≠ [])
    (check_ends : (check interpreter tree verbose source).ending = .exit checked)
    (generate_ends : (generate interpreter tree verbose output source).ending = .exit made)
    (stored : ∀ path cause, (generated interpreter tree output source config).2.result ≠
      .error (.unwritable path cause))
    (left : LeavesReferences tree (outputDirectory tree output) config.prelude config.suffix
      (source.workspace interpreter.release tree) config.domainClasses) :
    Agree interpreter tree verbose output source config checked made
      (renderings config.prelude (source.workspace interpreter.release tree)
        config.domainClasses) := by
  have filled : config.domainClasses.isEmpty = false := by simpa using some_class
  have checking : check interpreter tree verbose source =
      (checkAll (source.workspace interpreter.release tree) verbose config.prelude true
        config.domainClasses).after (Line.ofLog verbose (source.rootRecords tree.working)) := by
    simp only [check, Source.withConfig, loaded, filled, Bool.false_eq_true, if_false]
  have generating : generate interpreter tree verbose output source =
      (conclusion (generated interpreter tree output source config)).after
        (announcement interpreter tree verbose output source config) :=
    generate_eq loaded some_class (possible_of_generate loaded some_class generate_ends)
  rw [checking] at check_ends
  rw [generating] at generate_ends
  obtain ⟨spoken, checks⟩ := checkAll_eq check_ends
  rw [checks] at check_ends checking
  have checked_eq : checked = exitCode ((renderings config.prelude
    (source.workspace interpreter.release tree) config.domainClasses).all Rendering.isOk) :=
    (Ending.exit.inj check_ends).symm
  have foreseen : ∀ failure,
      (generated interpreter tree output source config).2.result = .error failure →
      failure.report?.isSome := by
    intro failure failed
    obtain ⟨report, reported, -⟩ := report_of_exit generate_ends failed
    simp [reported]
  rcases Workspace.renderings_of_run left foreseen stored with ⟨paths, succeeded, wrote⟩ |
    ⟨front, reference, log, failure, others, failed, shape, wrote⟩
  · have concluded : conclusion (generated interpreter tree output source config) =
        ⟨(generated interpreter tree output source config).1.tree,
          paths.map fun path => .output ("  " ++ path.name), .exit 0⟩ := by
      unfold conclusion
      rw [generated, succeeded]
    rw [concluded] at generate_ends generating
    exact {
      references := Workspace.renderings_references _ _ _
      spoken := spoken
      lines := by rw [checking]; rfl
      checked := checked_eq
      made := by rw [wrote.isOk]; exact (Ending.exit.inj generate_ends).symm
      sound := fun _ => by rw [generating]; exact wrote
      unsound := fun unsound => by rw [wrote.isOk] at unsound; cases unsound }
  · obtain ⟨report, reported, concluded⟩ := report_of_exit generate_ends failed
    rw [concluded] at generate_ends generating
    have unsound : (renderings config.prelude (source.workspace interpreter.release tree)
        config.domainClasses).all Rendering.isOk = false := by
      rw [shape]
      simp [Rendering.isOk]
    exact {
      references := Workspace.renderings_references _ _ _
      spoken := spoken
      lines := by rw [checking]; rfl
      checked := checked_eq
      made := by rw [unsound]; exact (Ending.exit.inj generate_ends).symm
      sound := fun sound => by rw [unsound] at sound; cases sound
      unsound := fun _ => ⟨front, reference, log, failure, others, report, shape, wrote.isOk,
        by simp [lineOf?, reported], by rw [generating]; rfl, by rw [generating]; exact wrote⟩ }

/-- A check and a run of `generate` that end with exit codes, with files that can be written and
references that lead to the same before and after, end with the same code. A configuration that
cannot be loaded is reported alike; without a reference both say that there is nothing to do; else
the two agree on every reference up to the first failure. -/
theorem check_agrees {checked made : Nat}
    (check_ends : (check interpreter tree verbose source).ending = .exit checked)
    (generate_ends : (generate interpreter tree verbose output source).ending = .exit made)
    (stored : ∀ config, source.load interpreter.yaml tree = .ok config → ∀ path cause,
      (generated interpreter tree output source config).2.result ≠ .error (.unwritable path cause))
    (left : ∀ config, source.load interpreter.yaml tree = .ok config →
      LeavesReferences tree (outputDirectory tree output) config.prelude config.suffix
        (source.workspace interpreter.release tree) config.domainClasses) :
    (checked = 0 ↔ made = 0) ∧
    (∀ failure, source.load interpreter.yaml tree = .error failure →
      check interpreter tree verbose source = generate interpreter tree verbose output source) ∧
    (∀ config, source.load interpreter.yaml tree = .ok config → config.domainClasses = [] →
      checked = 0 ∧
      (check interpreter tree verbose source).lines =
        Line.ofLog verbose (source.rootRecords tree.working) ++
          [.output "No domain classes configured. Nothing to check."] ∧
      (generate interpreter tree verbose output source).lines =
        Line.ofLog verbose (source.rootRecords tree.working) ++
          [.output "No domain classes configured. Nothing to generate."]) ∧
    ∀ config, source.load interpreter.yaml tree = .ok config → config.domainClasses ≠ [] →
      Agree interpreter tree verbose output source config checked made
        (renderings config.prelude (source.workspace interpreter.release tree)
        config.domainClasses) := by
  cases loaded : source.load interpreter.yaml tree with
  | error failure =>
    have same : check interpreter tree verbose source =
        generate interpreter tree verbose output source := by
      simp only [check, generate, Source.withConfig, loaded]
    rw [same, generate_ends] at check_ends
    obtain rfl := Ending.exit.inj check_ends
    exact ⟨Iff.rfl, fun _ _ => same, fun _ other => (nomatch other), fun _ other => (nomatch other)⟩
  | ok config =>
    by_cases empty : config.domainClasses = []
    · have checks : check interpreter tree verbose source = ⟨tree,
          Line.ofLog verbose (source.rootRecords tree.working) ++
            [.output "No domain classes configured. Nothing to check."], .exit 0⟩ := by
        simp [check, Source.withConfig, loaded, empty, Outcome.after]
      have makes : generate interpreter tree verbose output source = ⟨tree,
          Line.ofLog verbose (source.rootRecords tree.working) ++
            [.output "No domain classes configured. Nothing to generate."], .exit 0⟩ := by
        simp [generate, Source.withConfig, loaded, empty, Outcome.after]
      rw [checks] at check_ends ⊢
      rw [makes] at generate_ends ⊢
      obtain rfl := Ending.exit.inj check_ends
      obtain rfl := Ending.exit.inj generate_ends
      refine ⟨Iff.rfl, fun _ other => (nomatch other), fun _ _ _ => ⟨rfl, rfl, rfl⟩,
        fun other same some_class => ?_⟩
      obtain rfl := Except.ok.inj same
      exact absurd empty some_class
    · have agree := agree_of_load loaded empty check_ends generate_ends (stored config loaded)
        (left config loaded)
      refine ⟨by rw [agree.checked, agree.made], fun _ other => (nomatch other),
        fun other same none => ?_, fun other same _ => ?_⟩
      · obtain rfl := Except.ok.inj same
        exact absurd none empty
      · obtain rfl := Except.ok.inj same
        exact agree

/-! ## A run with a failure in the middle -/

def units : ModuleModel where
  name := "m"
  classes := [.mk "Unit" ["Enum"] [] [] [] none,
    .mk "Bad" ["Enum"] [("A", .int 1)]
      [⟨"cost", .property, [⟨"self", .ordinary, none, false⟩], none,
        .raise "ValueError" "boom"⟩] [] none,
    .mk "Last" ["Enum"] [] [] [] none]
  raises := none
  deferred := false

def unitsTree : FileTree := ⟨[], [(["m.py"], .module units)]⟩

def unitsSource : Source := ⟨none, ["m:Unit", "m:Bad", "m:Last"]⟩

def unitsConfig : Config := { Config.default with domainClasses := unitsSource.classes }

def isExit (code : Nat) : Ending → Bool
  | .exit other => other = code
  | _ => false

theorem eq_exit {code : Nat} {ending : Ending} (h : isExit code ending = true) :
    ending = .exit code := by
  cases ending with
  | exit other => rw [of_decide_eq_true h]
  | _ => cases h

def failsToRead (generated : Workspace.Generated) : Bool :=
  match generated.2.result with
  | .error (.unreadable _ _ _ _) => true
  | _ => false

theorem exists_unreadable {generated : Workspace.Generated} (h : failsToRead generated = true) :
    ∃ className memberName accessor raised,
      generated.2.result = .error (.unreadable className memberName accessor raised) := by
  unfold failsToRead at h
  split at h
  · exact ⟨_, _, _, _, ‹_›⟩
  · cases h

theorem units_into : ∀ reference ∈ unitsConfig.domainClasses, Reference.IsInto "m" reference := by
  have rows : ∀ text ∈ unitsConfig.domainClasses,
      (Reference.ofText? text).map Reference.module = some "m" := by decide +kernel
  intro text inside reference read
  have named := rows text inside
  rw [read] at named
  exact ⟨Option.some.inj named, by decide +kernel, by decide +kernel⟩

theorem check_agrees_units : (check .usual unitsTree false unitsSource).ending = .exit 1 ∧
    (generate .usual unitsTree false "out" unitsSource).ending = .exit 1 ∧
    unitsSource.load Interpreter.usual.yaml unitsTree = .ok unitsConfig ∧
    Agree .usual unitsTree false "out" unitsSource unitsConfig 1 1
      (renderings unitsConfig.prelude (unitsSource.workspace Interpreter.usual.release unitsTree)
        unitsConfig.domainClasses) := by
  have loads : unitsSource.load Interpreter.usual.yaml unitsTree = .ok unitsConfig :=
    toOption_eq_some.mp (by decide +kernel)
  have checks : (check .usual unitsTree false unitsSource).ending = .exit 1 :=
    eq_exit (by decide +kernel)
  have stops : failsToRead (generated .usual unitsTree "out" unitsSource unitsConfig) = true := by
    decide +kernel
  obtain ⟨className, memberName, accessor, raised, failed⟩ := exists_unreadable stops
  have generates : (generate .usual unitsTree false "out" unitsSource).ending = .exit 1 := by
    have possible : (FilePath.ofText "out").hasNul = false := by decide +kernel
    refine (congrArg Outcome.ending (generate_eq loads (by decide) possible)).trans ?_
    simp only [Outcome.after, conclusion, failed]
    rfl
  refine ⟨checks, generates, loads, ?_⟩
  refine (check_agrees checks generates (fun other same => ?_)
    (fun other same => ?_)).2.2.2 unitsConfig loads (by decide)
  · obtain rfl := Except.ok.inj (loads.symm.trans same)
    intro path cause unwritable
    rw [failed] at unwritable
    cases unwritable
  · obtain rfl := Except.ok.inj (loads.symm.trans same)
    exact Workspace.leavesReferences_of_module units_into

def emptyTree : FileTree := ⟨[], []⟩

def emptySource : Source := ⟨none, []⟩

def packageTree : FileTree := ⟨[], [(["m.py"], .module Workspace.alike)]⟩

def packageSource : Source := ⟨none, ["m:HTTPCode", "out:Foo"]⟩

/-- Without references a check finds no issue and does not say so. A directory that `generate` makes
for its files can be imported, so that a later reference fails in another way than in a check. -/
theorem check_disagrees :
    ((emptySource.load Interpreter.usual.yaml emptyTree).toOption = some Config.default ∧
      (renderings Config.default.prelude
        (emptySource.workspace Interpreter.usual.release emptyTree)
        Config.default.domainClasses).all Rendering.isOk = true ∧
      (check .usual emptyTree false emptySource).lines =
        [.output "No domain classes configured. Nothing to check."]) ∧
    (check .usual packageTree false packageSource).lines =
      [.output "  HTTPCode: ok",
        .report "out:Foo: Cannot import module 'out': No module named 'out'"] ∧
    (generate .usual packageTree false "out" packageSource).lines =
      [.output "Generating 2 domain class(es) into '/out'...",
        .report "'out:Foo' not found: no attribute 'Foo'"] := by
  have empty_loads : (emptySource.load Interpreter.usual.yaml emptyTree).toOption =
      some Config.default := by decide +kernel
  have empty_checks : (check .usual emptyTree false emptySource).lines =
      [.output "No domain classes configured. Nothing to check."] := by decide +kernel
  refine ⟨⟨empty_loads, rfl, empty_checks⟩, ?_, ?_⟩
  · -- the package is not there yet
    decide +kernel
  · -- the run has made a directory that is imported as the package
    decide +kernel

end EnumTables.CommandLine
