import Mathlib.Logic.Relation
import AgentProbe.Proofs.Run.Independence

set_option autoImplicit false

/-!
The course of one file through a run.

A file goes from its scan to a terminal state by allowed moves only, and what is noted on the way
names the file.  How a file ended can be read off its errors: one that was rolled back has a single
error, from the edits, the validation or the write; a committed one has none; and a skipped one has an
error exactly if its plan had a conflict.

The result of the write is taken from outside, so that all of this holds for whatever a file system
answers.
-/

namespace AgentProbe

structure Diagnostic.IsFrom (stage : Stage) (severity : Severity) (diagnostic : Diagnostic) :
    Prop where
  file : diagnostic.file = none
  stage : diagnostic.stage = stage
  severity : diagnostic.severity = severity

/-! ### Steps of an outcome -/

namespace FileOutcome

/-- One step on the way of a file: a note about it, an allowed move, or the mark that a pattern was
found. -/
inductive Step : FileOutcome → FileOutcome → Prop
  | note {outcome : FileOutcome} {diagnostic : Diagnostic} (unnamed : diagnostic.file = none)
      (ordinary : diagnostic.stage ≠ .pipeline) : Step outcome (outcome.push diagnostic)
  | move {outcome : FileOutcome} {next : FileState} (allowed : outcome.state.allows next = true) :
      Step outcome { outcome with state := next }
  | use {outcome : FileOutcome} : Step outcome { outcome with platformUsed := true }

def errors (outcome : FileOutcome) : List Diagnostic :=
  outcome.diagnostics.filter Diagnostic.isError

variable {outcome next : FileOutcome}

theorem advance_of_allows {state : FileState} (allowed : outcome.state.allows state = true) :
    outcome.advance state = { outcome with state } := by
  simp only [advance, FileState.advance, allowed, if_true]

theorem Step.state (step : Step outcome next) :
    next.state = outcome.state ∨ outcome.state.allows next.state = true := by
  cases step with
  | note unnamed ordinary => exact Or.inl rfl
  | move allowed => exact Or.inr allowed
  | use => exact Or.inl rfl

theorem Step.path (step : Step outcome next) : next.path = outcome.path := by
  cases step with
  | note unnamed ordinary => rfl
  | move allowed => rfl
  | use => rfl

/-- A step adds at most one diagnostic, which names the file and reports no illegal move. -/
theorem Step.diagnostics (step : Step outcome next) {diagnostic : Diagnostic}
    (member : diagnostic ∈ next.diagnostics) :
    diagnostic ∈ outcome.diagnostics ∨
      diagnostic.file = some outcome.path ∧ diagnostic.stage ≠ .pipeline := by
  cases step with
  | move allowed => exact Or.inl member
  | use => exact Or.inl member
  | note unnamed ordinary =>
      rcases List.mem_append.mp member with old | new
      · exact Or.inl old
      · have same := List.mem_singleton.mp new
        subst same
        apply Or.inr
        constructor
        · rw [unnamed]
          rfl
        · exact ordinary

/-! ### From the scan to here -/

theorem moves_of_steps (steps : Relation.ReflTransGen Step outcome next) :
    Relation.ReflTransGen (fun state later : FileState => state.allows later = true)
      outcome.state next.state := by
  induction steps with
  | refl => exact .refl
  | tail _ step ih =>
      rcases step.state with same | allowed
      · rw [same]
        exact ih
      · exact ih.tail allowed

theorem path_of_steps (steps : Relation.ReflTransGen Step outcome next) :
    next.path = outcome.path := by
  induction steps with
  | refl => rfl
  | tail _ step ih => exact step.path.trans ih

theorem diagnostics_of_steps {path : Path} (steps : Relation.ReflTransGen Step { path } outcome) :
    ∀ diagnostic ∈ outcome.diagnostics,
      diagnostic.file = some path ∧ diagnostic.stage ≠ .pipeline := by
  induction steps with
  | refl =>
      intro diagnostic member
      cases member
  | tail earlier step ih =>
      intro diagnostic member
      rcases step.diagnostics member with old | new
      · exact ih diagnostic old
      · have same := path_of_steps earlier
        rw [same] at new
        exact new

/-- Where a file has come from its scan, and the errors on the way. -/
structure Arrives (path : Path) (state : FileState) (errors : List Diagnostic)
    (outcome : FileOutcome) : Prop where
  steps : Relation.ReflTransGen Step { path } outcome
  state : outcome.state = state
  errors : outcome.errors = errors

namespace Arrives

variable {path : Path} {state later : FileState} {errors : List Diagnostic}
  {diagnostic : Diagnostic} {stage : Stage}

theorem start (path : Path) : Arrives path .scanned [] { path } :=
  ⟨.refl, rfl, rfl⟩

theorem advance (arrives : Arrives path state errors outcome)
    (allowed : state.allows later = true) : Arrives path later errors (outcome.advance later) := by
  have here : outcome.state.allows later = true := by
    rw [arrives.state]
    exact allowed
  rw [advance_of_allows here]
  exact ⟨arrives.steps.tail (.move here), rfl, arrives.errors⟩

theorem use (arrives : Arrives path state errors outcome) :
    Arrives path state errors { outcome with platformUsed := true } :=
  ⟨arrives.steps.tail .use, arrives.state, arrives.errors⟩

theorem push {severity : Severity} (arrives : Arrives path state errors outcome)
    (made : diagnostic.IsFrom stage severity) (ordinary : stage ≠ .pipeline) :
    Arrives path state
      (errors ++ ([{ diagnostic with file := some path }].filter Diagnostic.isError))
      (outcome.push diagnostic) := by
  have named : outcome.path = path := path_of_steps arrives.steps
  have noted : Step outcome (outcome.push diagnostic) := by
    apply Step.note made.file
    rw [made.stage]
    exact ordinary
  refine ⟨arrives.steps.tail noted, arrives.state, ?_⟩
  have old := arrives.errors
  unfold FileOutcome.errors at old ⊢
  rw [FileOutcome.push, List.filter_append, old, made.file, named]
  rfl

theorem warn (arrives : Arrives path state errors outcome)
    (made : diagnostic.IsFrom stage .warning) (ordinary : stage ≠ .pipeline) :
    Arrives path state errors (outcome.push diagnostic) := by
  have pushed := arrives.push made ordinary
  have none : [{ diagnostic with file := some path }].filter Diagnostic.isError = [] := by
    apply List.filter_cons_of_neg
    simp only [Diagnostic.isError, made.severity]
    decide
  rw [none, List.append_nil] at pushed
  exact pushed

theorem fail (arrives : Arrives path state [] outcome) (made : diagnostic.IsFrom stage .error)
    (ordinary : stage ≠ .pipeline) :
    Arrives path state [{ diagnostic with file := some path }] (outcome.push diagnostic) := by
  have pushed := arrives.push made ordinary
  have one : [{ diagnostic with file := some path }].filter Diagnostic.isError =
      [{ diagnostic with file := some path }] := by
    apply List.filter_cons_of_pos
    simp only [Diagnostic.isError, made.severity]
    decide
  rw [one, List.nil_append] at pushed
  exact pushed

end Arrives

end FileOutcome

/-! ### Diagnostics of the exits -/

theorem brokenBefore_isFrom (first : Syntax.SyntaxTree.Fault) (count : Nat) :
    (brokenBefore first count).IsFrom .scan .warning :=
  ⟨rfl, rfl, rfl⟩

theorem RunContext.missing_isFrom (context : RunContext) (usage : Usage) (error : PatternError) :
    (context.missing usage error).IsFrom .pattern .warning :=
  ⟨rfl, rfl, rfl⟩

theorem Conflict.diagnostic_isFrom (conflict : Conflict) :
    conflict.diagnostic.IsFrom .plan .error :=
  ⟨rfl, rfl, rfl⟩

theorem EditError.diagnostic_isFrom (plan : EditPlan) (error : EditError) :
    (error.diagnostic plan).IsFrom .inject .error := by
  unfold EditError.diagnostic
  dsimp only
  split
  · split
    · exact ⟨rfl, rfl, rfl⟩
    · exact ⟨rfl, rfl, rfl⟩
  · exact ⟨rfl, rfl, rfl⟩

theorem Verdict.diagnostic_isFrom (verdict : Verdict) (error : ValidationError) :
    (verdict.diagnostic error).IsFrom .validate .error := by
  unfold Verdict.diagnostic
  dsimp only
  split
  · exact ⟨rfl, rfl, rfl⟩
  · exact ⟨rfl, rfl, rfl⟩

theorem keptUnformatted_isFrom (reason : String) :
    (keptUnformatted reason).IsFrom .format .warning :=
  ⟨rfl, rfl, rfl⟩

theorem CommitError.diagnostic_isFrom (error : CommitError) :
    error.diagnostic.IsFrom .commit .error :=
  ⟨rfl, rfl, rfl⟩

/-! ### How a file ends -/

inductive FileOutcome.Ending (conflicted : Prop) : FileState → List Diagnostic → Prop
  | skipped (clear : ¬ conflicted) : Ending conflicted .skipped []
  | refused {diagnostic : Diagnostic} (conflict : conflicted) (stage : diagnostic.stage = .plan) :
      Ending conflicted .skipped [diagnostic]
  | rolledBack {diagnostic : Diagnostic} (clear : ¬ conflicted)
      (stage : diagnostic.stage ∈ [Stage.inject, .validate, .commit]) :
      Ending conflicted .rolledBack [diagnostic]
  | committed (clear : ¬ conflicted) : Ending conflicted .committed []

def FileOutcome.Ends (conflicted : Prop) (path : Path) (outcome : FileOutcome) : Prop :=
  ∃ state errors, outcome.Arrives path state errors ∧ Ending conflicted state errors

theorem FileOutcome.Arrives.undo {conflicted : Prop} {path : Path} {state : FileState}
    {outcome : FileOutcome} {diagnostic : Diagnostic} {stage : Stage} (clear : ¬ conflicted)
    (arrives : outcome.Arrives path state []) (made : diagnostic.IsFrom stage .error)
    (late : stage ∈ [Stage.inject, .validate, .commit])
    (allowed : state.allows .rolledBack = true) :
    ((outcome.push diagnostic).advance .rolledBack).Ends conflicted path := by
  have ordinary : stage ≠ .pipeline := by
    intro same
    subst same
    revert late
    decide
  have failed := arrives.fail made ordinary
  refine ⟨_, _, failed.advance allowed, .rolledBack clear ?_⟩
  rw [← made.stage] at late
  exact late

def Prepared.Ends (conflicted : Prop) (path : Path) : Prepared → Prop
  | .ended outcome => outcome.Ends conflicted path
  | .ready outcome _ => outcome.Arrives path .validated [] ∧ ¬ conflicted

namespace RunContext

open FileOutcome (Arrives)

variable {context : RunContext} {file : SourceFile} {outcome : FileOutcome} {path : Path}

def settle (context : RunContext) (written : Except CommitError Unit) : Prepared → FileOutcome
  | .ended outcome => outcome
  | .ready outcome _ =>
    if context.dryRun then outcome.advance .committed
    else
      match written with
      | .ok _ => outcome.advance .committed
      | .error error => (outcome.push error.diagnostic).advance .rolledBack

theorem conclude_eq_settle (context : RunContext) (disk : Disk) (file : SourceFile)
    (prepared : Prepared) :
    ∃ written, (context.conclude disk file prepared).1 = context.settle written prepared := by
  cases prepared with
  | ended outcome => exact ⟨.ok (), rfl⟩
  | ready outcome text =>
      refine ⟨(disk.commit file.path file.digest (Utf8.encode text)).1, ?_⟩
      simp only [conclude, settle]
      generalize disk.commit file.path file.digest (Utf8.encode text) = result
      obtain ⟨answer, after⟩ := result
      cases context.dryRun with
      | true => rfl
      | false =>
          cases answer with
          | ok done => rfl
          | error error => rfl

theorem settle_ends {conflicted : Prop} {prepared : Prepared}
    (ends : prepared.Ends conflicted path) (written : Except CommitError Unit) :
    (context.settle written prepared).Ends conflicted path := by
  cases prepared with
  | ended outcome => exact ends
  | ready outcome text =>
      obtain ⟨arrives, clear⟩ := ends
      simp only [settle]
      split
      · exact ⟨_, _, arrives.advance rfl, .committed clear⟩
      · cases written with
        | ok done => exact ⟨_, _, arrives.advance rfl, .committed clear⟩
        | error error => exact arrives.undo clear error.diagnostic_isFrom (by decide) rfl

theorem prepareText_ends {conflicted : Prop} {plan : EditPlan} {injection : Injection}
    (clear : ¬ conflicted) (arrives : outcome.Arrives path .injected []) :
    (context.prepareText file plan injection outcome).Ends conflicted path := by
  have validated : (outcome.advance .validated).Arrives path .validated [] := arrives.advance rfl
  simp only [prepareText]
  cases judged : (validate context.formatter file.text plan injection).error with
  | some error => exact arrives.undo clear (Verdict.diagnostic_isFrom _ error) (by decide) rfl
  | none =>
      dsimp only
      split
      · exact ⟨validated.warn (keptUnformatted_isFrom _) (by decide), clear⟩
      · exact ⟨validated, clear⟩

theorem preparePlan_ends {plan : EditPlan} (arrives : outcome.Arrives path .planned []) :
    (context.preparePlan file plan outcome).Ends (plan.conflict.isSome = true) path := by
  unfold preparePlan
  cases found : plan.conflict with
  | some conflict =>
      have failed := arrives.fail conflict.diagnostic_isFrom (by decide)
      exact ⟨_, _, failed.advance rfl, .refused rfl rfl⟩
  | none =>
      have clear : ¬ (none : Option Conflict).isSome = true := by decide
      dsimp only
      split
      · exact ⟨_, _, arrives.advance rfl, .skipped clear⟩
      · cases injected : inject file.tree plan with
        | ok injection => exact prepareText_ends clear (arrives.advance rfl)
        | error error =>
            exact arrives.undo clear (error.diagnostic_isFrom plan) (by decide) rfl

/-! ### The plan of a file -/

def plan? (context : RunContext) (memo : PatternMemo) (file : SourceFile) : Option EditPlan :=
  if context.needsPatterns file then
    match (context.resolve memo (detected file) (context.usages file)).1 with
    | [] => none
    | inputs => some (planFile context.targets file.path.text file.tree inputs)
  else none

/-- Whether a plan is made for a file and has a conflict. -/
def HasConflict (context : RunContext) (memo : PatternMemo) (file : SourceFile) : Prop :=
  ∃ plan, context.plan? memo file = some plan ∧ plan.conflict.isSome = true

theorem resolve_arrives (memo : PatternMemo) (usages : List Usage)
    (arrives : outcome.Arrives path .detected []) :
    (context.resolve memo outcome usages).2.1.Arrives path .detected [] := by
  induction usages generalizing memo outcome with
  | nil => exact arrives
  | cons usage usages ih =>
      rw [resolve]
      split
      · exact ih _ arrives
      · exact ih _ (arrives.warn (context.missing_isFrom usage _) (by decide))

/-- A file is skipped before it has a plan, or its plan is carried out. -/
theorem prepare_cases (context : RunContext) (memo : PatternMemo) (file : SourceFile) :
    (context.plan? memo file = none ∧ ∃ outcome : FileOutcome,
        outcome.Arrives file.path .skipped [] ∧
          (context.prepare memo file).1 = .ended outcome) ∨
      ∃ plan, context.plan? memo file = some plan ∧ ∃ outcome : FileOutcome,
        outcome.Arrives file.path .planned [] ∧
          (context.prepare memo file).1 = context.preparePlan file plan outcome := by
  have found : (detected file).Arrives file.path .detected [] :=
    (Arrives.start file.path).advance rfl
  cases needs : context.needsPatterns file with
  | true =>
      have resolved := context.resolve_arrives memo (context.usages file) found
      rw [prepare_of_needsPatterns needs, prepareUsages_eq]
      simp only [plan?, needs, if_true]
      cases inputs : (context.resolve memo (detected file) (context.usages file)).1 with
      | nil => exact Or.inl ⟨rfl, _, resolved.advance rfl, rfl⟩
      | cons input others => exact Or.inr ⟨_, rfl, _, resolved.use.advance rfl, rfl⟩
  | false =>
      apply Or.inl
      have without : context.plan? memo file = none := by
        simp only [plan?, needs, Bool.false_eq_true, if_false]
      refine ⟨without, ?_⟩
      simp only [prepare]
      cases used : context.usages file with
      | nil => exact ⟨_, found.advance rfl, rfl⟩
      | cons usage usages =>
          cases broken : file.tree.faults with
          | cons first others =>
              have noted := found.warn (brokenBefore_isFrom first (others.length + 1)) (by decide)
              exact ⟨_, noted.advance rfl, rfl⟩
          | nil =>
              rw [needsPatterns, used, broken] at needs
              cases needs

theorem prepare_ends (context : RunContext) (memo : PatternMemo) (file : SourceFile) :
    (context.prepare memo file).1.Ends (context.HasConflict memo file) file.path := by
  rcases context.prepare_cases memo file with
    ⟨without, outcome, arrives, same⟩ | ⟨plan, planned, outcome, arrives, same⟩
  · have clear : ¬ context.HasConflict memo file := by
      rintro ⟨plan, made, _⟩
      rw [without] at made
      cases made
    rw [same]
    exact ⟨_, _, arrives, .skipped clear⟩
  · have conflict : context.HasConflict memo file ↔ plan.conflict.isSome = true := by
      constructor
      · rintro ⟨other, made, conflict⟩
        rw [planned] at made
        cases made
        exact conflict
      · intro conflict
        exact ⟨plan, planned, conflict⟩
    rw [same, propext conflict]
    exact preparePlan_ends arrives

end RunContext

/-! ### What an outcome tells -/

structure FileOutcome.Reports (conflicted : Prop) (path : Path) (outcome : FileOutcome) : Prop where
  terminal : outcome.state.isTerminal = true
  course : Relation.ReflTransGen FileOutcome.Step { path } outcome
  moves : Relation.ReflTransGen (fun state next : FileState => state.allows next = true)
    .scanned outcome.state
  legal : ∀ diagnostic ∈ outcome.diagnostics, diagnostic.stage ≠ .pipeline
  named : ∀ diagnostic ∈ outcome.diagnostics, diagnostic.file = some path
  rolledBack : outcome.state = .rolledBack ↔
    ∃ diagnostic, outcome.errors = [diagnostic] ∧
      diagnostic.stage ∈ [Stage.inject, .validate, .commit]
  /-- Counted among all errors, there is one from these stages. -/
  undone : outcome.state = .rolledBack ↔
    (outcome.errors.countP fun diagnostic =>
      [Stage.inject, .validate, .commit].contains diagnostic.stage) = 1
  committed : outcome.state = .committed → outcome.errors = []
  skipped : outcome.state = .skipped → (outcome.errors ≠ [] ↔ conflicted)

theorem FileOutcome.Ends.reports {conflicted : Prop} {path : Path} {outcome : FileOutcome}
    (ends : outcome.Ends conflicted path) : outcome.Reports conflicted path := by
  obtain ⟨state, errors, arrives, ending⟩ := ends
  have noted := diagnostics_of_steps arrives.steps
  have told : state.isTerminal = true ∧
      (state = .rolledBack ↔ ∃ diagnostic, errors = [diagnostic] ∧
        diagnostic.stage ∈ [Stage.inject, .validate, .commit]) ∧
      (state = .rolledBack ↔ (errors.countP fun diagnostic =>
        [Stage.inject, .validate, .commit].contains diagnostic.stage) = 1) ∧
      (state = .committed → errors = []) ∧
      (state = .skipped → (errors ≠ [] ↔ conflicted)) := by
    cases ending with
    | skipped clear => simp [FileState.isTerminal, clear]
    | refused conflict stage => simp [FileState.isTerminal, stage, conflict]
    | committed clear => simp [FileState.isTerminal]
    | rolledBack clear stage =>
        have counted := List.contains_iff_mem.mpr stage
        refine ⟨rfl, ?_, ?_, ?_, ?_⟩
        · exact ⟨fun _ => ⟨_, rfl, stage⟩, fun _ => rfl⟩
        · simp only [List.countP_singleton, counted, if_true]
        · intro impossible
          cases impossible
        · intro impossible
          cases impossible
  rw [← arrives.state, ← arrives.errors] at told
  obtain ⟨terminal, rolledBack, undone, committed, skipped⟩ := told
  exact
    { terminal, rolledBack, undone, committed, skipped
      course := arrives.steps
      moves := moves_of_steps arrives.steps
      legal := fun diagnostic member => (noted diagnostic member).2
      named := fun diagnostic member => (noted diagnostic member).1 }

/-- A file is taken from its scan to a terminal state by allowed moves, and its outcome tells how it
ended, whatever patterns were found, whatever the formatter does and whatever becomes of the write. -/
theorem RunContext.process_reports (context : RunContext) (memo : PatternMemo) (file : SourceFile) :
    (∀ disk, ∃ written, (context.process { memo, disk } file).1 =
        context.settle written (context.prepare memo file).1) ∧
      ∀ written, (context.settle written (context.prepare memo file).1).Reports
        (context.HasConflict memo file) file.path := by
  constructor
  · intro disk
    exact context.conclude_eq_settle disk file (context.prepare memo file).1
  · intro written
    exact (settle_ends (context.prepare_ends memo file) written).reports

end AgentProbe
