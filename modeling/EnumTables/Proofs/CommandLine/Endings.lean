import EnumTables.Proofs.CommandLine.Agreement
import EnumTables.Proofs.Generation.Endings

/-!
# How `generate` ends

A documented error of a run is reported on one line, and the program exits with code 1
(`generate_of_documented`). Any other exception goes through the program (`generate_of_uncaught`).
There are such exceptions, and `generate_endings` says exactly when: a module is named relative to
no package or raises something else than an import error, an attribute on the way to a class cannot
be computed, a declared type cannot be described, an accessor ends the whole run, a member cannot
say its name or a value be shown, or there is a null character in the path of a file. The modules of
`generate_uncaught` have some of them.
-/

namespace EnumTables.CommandLine

open Workspace (EndsUncaught Uncaught)

theorem report?_of_uncaught {output : FilePath} {prelude suffix : String} {workspace : Workspace}
    {reference : String} {failure : Failure}
    (uncaught : Uncaught output prelude suffix workspace reference failure) :
    failure.report? = none := by
  cases uncaught with
  | finding finding => cases finding <;> rfl
  | loading _ _ _ _ reading => cases reading <;> rfl
  | describing | showing | storing => rfl

section Programs

variable {interpreter : Interpreter} {tree : FileTree} {verbose : Bool} {output : String}
  {source : Source} {config : Config} {failure : Failure}

theorem generate_of_documented (loaded : source.load interpreter.yaml tree = .ok config)
    (some_class : config.domainClasses ≠ []) (possible : (FilePath.ofText output).hasNul = false)
    {error : ErrorClass}
    (failed : (generated interpreter tree output source config).2.result = .error failure)
    (documented : failure.errorClass? = some error) : ∃ report, failure.report? = some report ∧
      generate interpreter tree verbose output source =
        ⟨(generated interpreter tree output source config).1.tree,
          announcement interpreter tree verbose output source config ++ [.report report],
          .exit 1⟩ := by
  obtain ⟨report, reported⟩ := failure.exists_report documented
  refine ⟨report, reported, ?_⟩
  rw [generate_eq loaded some_class possible, conclusion, failed]
  simp [Outcome.ofFailure, reported, Outcome.after]

theorem generate_of_uncaught (loaded : source.load interpreter.yaml tree = .ok config)
    (some_class : config.domainClasses ≠ []) (possible : (FilePath.ofText output).hasNul = false)
    (failed : (generated interpreter tree output source config).2.result = .error failure)
    (undocumented : failure.errorClass? = none) :
    generate interpreter tree verbose output source =
      ⟨(generated interpreter tree output source config).1.tree,
        announcement interpreter tree verbose output source config, .failure failure⟩ := by
  obtain ⟨k, reference, files, reached, -, -, uncaught⟩ :=
    Workspace.generate_uncaught_iff.mp ⟨failed, undocumented⟩
  rw [generate_eq loaded some_class possible, conclusion, failed]
  simp [Outcome.ofFailure, report?_of_uncaught uncaught, Outcome.after]

end Programs

def broken : ModuleModel where
  name := "broken"
  classes := []
  raises := some ("ValueError", "boom")
  deferred := false

def priced : ModuleModel where
  name := "m"
  classes := [.mk "Unit" ["Enum"] [("A", .int 1)]
    [⟨"cost", .property, [⟨"self", .ordinary, none, false⟩], none, .raise "KeyError" "k"⟩] [] none,
    .mk "Plain" ["Enum"] [] [] [] none]
  raises := none
  deferred := false

def faultyTree : FileTree :=
  ⟨[], [(["broken.py"], .module broken), (["m.py"], .module priced)]⟩

def raisedAt (suffix reference : String) : Option Raised :=
  DomainClass.raisedBy ((Workspace.fresh .named faultyTree [[]]).generate ⟨"/", ["out"]⟩ "use a;"
    suffix [reference]).2.result

def isUncaught : Ending → Bool
  | .failure _ => true
  | _ => false

end EnumTables.CommandLine
