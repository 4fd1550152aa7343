import Groundwork.Cli.Execution
import Groundwork.Proofs.Report.Complete

/-!
# What commands accept

Five ways to call the program read a description and compile it: to validate it, to show its plan as
text or as JSON, and to show its program as text or as JSON.  Each of them checks, compiles and
renders in an order of its own, but whatever comes after compiling cannot fail.  So all of them
succeed on the same files, and one that fails has not shown or written anything before.

An action is carried out here in any file system that answers reads and writes, whatever the answers
are; `Directory` is one of them.

Main definitions:

- `FileSystem`, `Action.runOn`: actions in any file system.
- `FileSystem.Accepts`: a file is read, is a description, and the description compiles.

Main results:

- `Action.runOn_fileSystem`: in a directory an action does what `Action.runIn` says.
- `runOn_withPlan`, `failure_check_eq_none_iff`: where commands stop.
- `commands_agree`: the commands succeed exactly on the files that are accepted.
-/

namespace Groundwork.Cli

/-! ## File systems -/

/-- What answers reads and writes; `σ` is the state of its files. -/
structure FileSystem (σ : Type) where
  read : σ → String → Except FileError String
  /-- The answer to a write, and the state after it. -/
  write : σ → String → String → Except FileError Unit × σ

/-- Directories as a file system. -/
def Directory.fileSystem : FileSystem Directory where
  read := Directory.read
  write d path text :=
    match d.write path text with
    | .ok d => (.ok (), d)
    | .error e => (.error e, d)

variable {σ : Type} {fs : FileSystem σ} {s : σ}

/-- Carries out an action in a file system. -/
def Action.runOn (fs : FileSystem σ) (s : σ) : Action → Outcome × σ
  | .finish o => (o, s)
  | .read path next => (next (fs.read s path)).runOn fs s
  | .write path text next =>
    (next (fs.write s path text).1).runOn fs (fs.write s path text).2

/-- Directories are one file system among others. -/
theorem Action.runOn_fileSystem (a : Action) (d : Directory) :
    a.runOn Directory.fileSystem d = a.runIn d := by
  induction a generalizing d with
  | finish o => rfl
  | read path next ih => exact ih _ d
  | write path text next ih =>
    simp only [runOn, runIn, Directory.fileSystem]
    cases d.write path text with
    | ok d => exact ih _ d
    | error e => exact ih _ d

/-- The file is read, its text is a description in its format, and the description compiles. -/
def FileSystem.Accepts (fs : FileSystem σ) (s : σ) (file : String) : Prop :=
  ∃ text d p, fs.read s file = .ok text ∧ Description.parse (.ofPath file) text = .ok d ∧
    d.compile = .ok p

/-! ## Where commands stop -/

/-- The plan of the description in a file, or why there is none. -/
def planOf (fs : FileSystem σ) (s : σ) (file : String) : Except CompileError Plan :=
  describe file (fs.read s file) >>= Description.compile

/-- A file is accepted exactly if it has a plan. -/
theorem accepts_iff {file : String} : fs.Accepts s file ↔ ∃ p, planOf fs s file = .ok p := by
  simp only [FileSystem.Accepts, planOf, bind_eq_ok_iff]
  cases fs.read s file with
  | error e => simp [describe]
  | ok text =>
    constructor
    · rintro ⟨_, d, p, ⟨⟩, hparse, hcompile⟩
      exact ⟨p, d, hparse, hcompile⟩
    · rintro ⟨p, d, hparse, hcompile⟩
      exact ⟨text, d, p, rfl, hparse, hcompile⟩

/-- Whoever needs a plan goes on with it, or fails before anything else is done. -/
theorem runOn_withPlan (file : String) (next : Plan → Action) :
    (withPlan file next).runOn fs s =
      match planOf fs s file with
      | .ok p => (next p).runOn fs s
      | .error e => (.failed e.message, s) := by
  simp only [withPlan, withDescription, Action.runOn, planOf]
  cases describe file (fs.read s file) with
  | error e => rfl
  | ok d =>
    simp only [orFail, bind, Except.bind]
    cases d.compile with
    | error e => rfl
    | ok p => rfl

/-- On a file that is accepted, what is done with the plan is all that is done. -/
theorem runOn_withPlan_of_accepts {file : String} (h : fs.Accepts s file) (next : Plan → Action) :
    ∃ d p, Description.Compiles d p ∧ (withPlan file next).runOn fs s = (next p).runOn fs s := by
  obtain ⟨p, hp⟩ := accepts_iff.1 h
  obtain ⟨d, -, hcompile⟩ := bind_eq_ok_iff.1 hp
  exact ⟨d, p, Description.compile_eq_ok_iff.1 hcompile, by rw [runOn_withPlan, hp]⟩

/-- On another file there is a failure and nothing else. -/
theorem runOn_withPlan_of_not_accepts {file : String} (h : ¬fs.Accepts s file)
    (next : Plan → Action) :
    ∃ reason, (withPlan file next).runOn fs s = (.failed reason, s) := by
  rw [runOn_withPlan]
  cases hp : planOf fs s file with
  | ok p => exact absurd (accepts_iff.2 ⟨p, hp⟩) h
  | error e => exact ⟨e.message, rfl⟩

/-- If all that is done with a plan is to show something, the file decides about success. -/
theorem runOn_withPlan_finish (file : String) {next : Plan → Action} {shown : Plan → Outcome}
    (hnext : ∀ p, next p = .finish (shown p)) (hshown : ∀ p, (shown p).failure = none) :
    (((withPlan file next).runOn fs s).1.failure = none ↔ fs.Accepts s file) ∧
      ((withPlan file next).runOn fs s).2 = s := by
  by_cases h : fs.Accepts s file
  · obtain ⟨d, p, -, hrun⟩ := runOn_withPlan_of_accepts h next
    rw [hrun, hnext]
    exact ⟨iff_of_true (hshown p) h, rfl⟩
  · obtain ⟨reason, hrun⟩ := runOn_withPlan_of_not_accepts h next
    rw [hrun]
    exact ⟨iff_of_false (Option.some_ne_none reason) h, rfl⟩

/-- Validation goes on to compile what is well-formed, so it accepts what compiles. -/
theorem failure_check_eq_none_iff (d : Description) :
    ((check d).runOn fs s).1.failure = none ↔ ∃ p, d.compile = .ok p := by
  simp only [check]
  by_cases hvalid : d.validate.isEmpty = true
  · rw [if_pos hvalid]
    cases d.compile with
    | error e => simp [orFail, Action.runOn, Outcome.failed]
    | ok p => simp [orFail, Action.runOn, Outcome.success]
  · rw [if_neg hvalid]
    simp only [Action.runOn, reduceCtorEq, false_iff, not_exists]
    intro p hcompile
    rw [(Description.compile_eq_ok_iff.1 hcompile).valid] at hvalid
    exact hvalid rfl

/-- Checking a description changes no file. -/
theorem runOn_check (d : Description) : ((check d).runOn fs s).2 = s := by
  simp only [check]
  split
  · cases d.compile <;> rfl
  · rfl

/-- Validation of a file accepts what compiles, and leaves all files alone. -/
theorem runOn_validate (file : String) :
    (((Command.validate file).action.runOn fs s).1.failure = none ↔ fs.Accepts s file) ∧
      ((Command.validate file).action.runOn fs s).2 = s := by
  rw [accepts_iff]
  simp only [Command.action, withDescription, Action.runOn, planOf]
  cases describe file (fs.read s file) with
  | error e => simp [orFail, Action.runOn, Outcome.failed, bind, Except.bind]
  | ok d => exact ⟨failure_check_eq_none_iff d, runOn_check d⟩

/-! ## Delivering a program -/

/-- What is said about warnings does not depend on where the program goes. -/
theorem diagnostics_deliver (report : Report) (output : Option String) (asJson : Bool) :
    ((deliver report output asJson).runOn fs s).1.diagnostics =
      linesOf (report.warnings.map fun w =>
        "  WARNING: " ++ w.resourceId ++ ": " ++ w.message) := by
  cases output with
  | none => rfl
  | some path =>
    simp only [deliver, Action.runOn]
    cases (fs.write s path _).1 <;> rfl

/-- A program that could not be written is not reported as written. -/
theorem output_deliver {report : Report} {output : Option String} {asJson : Bool}
    (h : ((deliver report output asJson).runOn fs s).1.failure ≠ none) :
    ((deliver report output asJson).runOn fs s).1.output = "" := by
  cases output with
  | none => exact absurd rfl h
  | some path =>
    simp only [deliver, Action.runOn] at h ⊢
    cases hwrite : (fs.write s path _).1 with
    | ok u =>
      rw [hwrite] at h
      exact absurd rfl h
    | error e => rfl

/-! ## The commands -/

/-- The commands that compile the description in a file and write no file. -/
def compiling (file : String) : List Command :=
  [.validate file, .plan file false, .plan file true, .generate file none false,
    .generate file none true]

/-- A command shows what is made of a plan. -/
def Command.ShowsPlan (file : String) (c : Command) : Prop :=
  (∃ asJson, c = .plan file asJson) ∨ ∃ output asJson, c = .generate file output asJson

/-- What a command says and leaves behind in a file system, as far as failing goes: a failure has no
output, a file that is not accepted is a failure that changes nothing, and one that is accepted is
not warned about. -/
structure Discreet (fs : FileSystem σ) (s : σ) (file : String) (a : Action) : Prop where
  output_eq : (a.runOn fs s).1.failure ≠ none → (a.runOn fs s).1.output = ""
  refused : ¬fs.Accepts s file → (a.runOn fs s).1.failure ≠ none ∧ (a.runOn fs s).2 = s
  diagnostics_eq : fs.Accepts s file → (a.runOn fs s).1.diagnostics = ""

/-- Whoever needs a plan is discreet if what is done with compiled plans is. -/
theorem discreet_withPlan (file : String) {next : Plan → Action}
    (houtput : ∀ p, ((next p).runOn fs s).1.failure ≠ none → ((next p).runOn fs s).1.output = "")
    (hdiagnostics : ∀ d p, Description.Compiles d p →
      ((next p).runOn fs s).1.diagnostics = "") :
    Discreet fs s file (withPlan file next) := by
  by_cases h : fs.Accepts s file
  · obtain ⟨d, p, hcompiles, hrun⟩ := runOn_withPlan_of_accepts h next
    refine ⟨?_, fun hrefused => absurd h hrefused, fun _ => ?_⟩
    · rw [hrun]
      exact houtput p
    · rw [hrun]
      exact hdiagnostics d p hcompiles
  · obtain ⟨reason, hrun⟩ := runOn_withPlan_of_not_accepts h next
    refine ⟨fun _ => ?_, fun _ => ?_, fun haccepts => absurd haccepts h⟩
    · rw [hrun]
      rfl
    · rw [hrun]
      exact ⟨Option.some_ne_none reason, rfl⟩

/-- The commands that compile a description agree: each of them succeeds exactly if the file is
accepted.  One that shows a plan and fails has no output; if the file is not accepted it fails and
leaves all files as they are, also where a program should be written to one; and if the file is
accepted it warns of nothing.  The registry that they use is complete. -/
theorem commands_agree {σ : Type} (fs : FileSystem σ) (s : σ) (file : String) :
    (∀ c ∈ compiling file,
      ((c.action.runOn fs s).1.failure = none ↔ fs.Accepts s file) ∧
        (c.action.runOn fs s).2 = s) ∧
    (∀ c : Command, c.ShowsPlan file → Discreet fs s file c.action) ∧
    (Registry.empty.registerAll Registry.builtinPlugins).2 = none := by
  refine ⟨?_, ?_, Registry.registerAll_builtinPlugins.2⟩
  · intro c hc
    simp only [compiling, List.mem_cons, List.not_mem_nil, or_false] at hc
    rcases hc with rfl | rfl | rfl | rfl | rfl
    · exact runOn_validate file
    · exact runOn_withPlan_finish file (fun p => rfl) fun p => rfl
    · exact runOn_withPlan_finish file (fun p => rfl) fun p => rfl
    · exact runOn_withPlan_finish file (fun p => rfl) fun p => rfl
    · exact runOn_withPlan_finish file (fun p => rfl) fun p => rfl
  · rintro c (⟨asJson, rfl⟩ | ⟨output, asJson, rfl⟩)
    · exact discreet_withPlan file (fun p hfailure => absurd rfl hfailure) fun d p _ => rfl
    · refine discreet_withPlan file (fun p => output_deliver) fun d p hcompiles => ?_
      rw [diagnostics_deliver, Plan.warnings_eq_nil hcompiles]
      rfl

/-- A directory with the description of a shop that has one container. -/
def shopDirectory : Directory :=
  .ofFiles [("shop.yaml", "project: \x7bname: shop, backend: flat\x7d\nnetworks:\n"
    ++ "  - name: main\n    containers: [\x7bname: api\x7d]\n")]

/-- All commands succeed on the description of the shop, and on a file that is not there they fail
and write nothing. -/
theorem commands_agree_shop :
    Directory.fileSystem.Accepts shopDirectory "shop.yaml" ∧
      (∀ c ∈ compiling "shop.yaml", (c.action.runIn shopDirectory).1.failure = none) ∧
      ¬Directory.fileSystem.Accepts shopDirectory "cafe.yaml" ∧
      ((Command.generate "cafe.yaml" (some "cafe.ts") true).action.runIn shopDirectory).2 =
        shopDirectory := by
  obtain ⟨hshop, -, -⟩ := commands_agree Directory.fileSystem shopDirectory "shop.yaml"
  obtain ⟨hcafe, hdiscreet, -⟩ := commands_agree Directory.fileSystem shopDirectory "cafe.yaml"
  simp only [Action.runOn_fileSystem] at hshop hcafe
  have haccepts : Directory.fileSystem.Accepts shopDirectory "shop.yaml" :=
    (hshop (.validate "shop.yaml") List.mem_cons_self).1.1 (by decide +kernel)
  have hrefused : ¬Directory.fileSystem.Accepts shopDirectory "cafe.yaml" := by
    rw [← (hcafe (.validate "cafe.yaml") List.mem_cons_self).1]
    decide +kernel
  refine ⟨haccepts, fun c hc => (hshop c hc).1.2 haccepts, hrefused, ?_⟩
  rw [← Action.runOn_fileSystem]
  exact ((hdiscreet _ (Or.inr ⟨some "cafe.ts", true, rfl⟩)).refused hrefused).2

end Groundwork.Cli
