import AgentProbe.Proofs.Edit.Realisation
import AgentProbe.Proofs.Syntax.Fault
import AgentProbe.Run.Process

set_option autoImplicit false

/-!
What is known of a prepared file.

A file that ends without anything to write is not committed.  A file that is ready to be written had
no syntax errors before, and its new text has none, whatever the formatter did.
-/

namespace AgentProbe

open Syntax (SyntaxTree)

/-! ### Outcomes -/

namespace FileOutcome

variable (outcome : FileOutcome) (diagnostic : Diagnostic) (next : FileState)

@[simp] theorem push_path : (outcome.push diagnostic).path = outcome.path := rfl

@[simp] theorem push_state : (outcome.push diagnostic).state = outcome.state := rfl

@[simp] theorem advance_path : (outcome.advance next).path = outcome.path := by
  unfold advance
  split <;> rfl

theorem advance_state :
    (outcome.advance next).state = if outcome.state.allows next then next else outcome.state := by
  unfold advance FileState.advance
  by_cases allowed : outcome.state.allows next = true
  · simp only [allowed, if_true]
  · simp only [allowed, Bool.false_eq_true, if_false, push_state]

variable {outcome next}

theorem advance_state_ne (before : outcome.state ≠ .committed) (other : next ≠ .committed) :
    (outcome.advance next).state ≠ .committed := by
  rw [advance_state]
  split
  · exact other
  · exact before

end FileOutcome

/-! ### Validation -/

theorem Formatter.run_clean {formatter : Formatter} {text : Text} (clean : breaks text = false) :
    breaks (formatter.run text).1 = false := by
  unfold run
  split
  · split
    · exact clean
    · rename_i formatted _ accepted
      exact Bool.not_eq_true _ ▸ accepted
  · exact clean

theorem validate_clean {formatter : Formatter} {source : Text} {plan : EditPlan}
    {injection : Injection} (read : injection.tree = SyntaxTree.parse injection.text)
    (accepted : (validate formatter source plan injection).error = none) :
    breaks (validate formatter source plan injection).text = false := by
  unfold validate at accepted ⊢
  split at accepted
  · cases accepted
  · rename_i clean
    rw [if_neg clean]
    refine Formatter.run_clean ?_
    rw [Bool.not_eq_true, read] at clean
    exact clean

/-! ### Preparing -/

def Prepared.Sound (file : SourceFile) : Prepared → Prop
  | .ended outcome => outcome.path = file.path ∧ outcome.state ≠ .committed
  | .ready outcome text =>
    outcome.path = file.path ∧ outcome.state = .validated ∧ file.tree.faults = [] ∧
      breaks text = false

namespace RunContext

variable {context : RunContext} {file : SourceFile} {outcome : FileOutcome}

theorem prepareText_sound {plan : EditPlan} {injection : Injection}
    (clear : file.tree.faults = []) (read : injection.tree = SyntaxTree.parse injection.text)
    (named : outcome.path = file.path) (injected : outcome.state = .injected) :
    (context.prepareText file plan injection outcome).Sound file := by
  have validated : (outcome.advance .validated).state = .validated := by
    rw [FileOutcome.advance_state, injected]
    rfl
  simp only [prepareText]
  cases judged : (validate context.formatter file.text plan injection).error with
  | some error =>
      refine ⟨by simp [named], FileOutcome.advance_state_ne ?_ (by decide)⟩
      rw [FileOutcome.push_state, injected]
      decide
  | none =>
      have clean := validate_clean read judged
      dsimp only
      split
      · exact ⟨by simp [named], validated, clear, clean⟩
      · exact ⟨by simp [named], validated, clear, clean⟩

theorem preparePlan_sound {plan : EditPlan} (clear : file.tree.faults = [])
    (named : outcome.path = file.path) (planned : outcome.state = .planned) :
    (context.preparePlan file plan outcome).Sound file := by
  have open_ : outcome.state ≠ .committed := by
    rw [planned]
    decide
  unfold preparePlan
  split
  · exact ⟨by simp [named], FileOutcome.advance_state_ne open_ (by decide)⟩
  · split
    · exact ⟨by simp [named], FileOutcome.advance_state_ne open_ (by decide)⟩
    · cases injected : inject file.tree plan with
      | error error => exact ⟨by simp [named], FileOutcome.advance_state_ne open_ (by decide)⟩
      | ok injection =>
          refine prepareText_sound clear (inject_eq_ok injected).2.2 (by simp [named]) ?_
          rw [FileOutcome.advance_state, planned]
          rfl

/-- Looking up patterns adds diagnostics and nothing else. -/
theorem resolve_outcome (memo : PatternMemo) (outcome : FileOutcome) (usages : List Usage) :
    (context.resolve memo outcome usages).2.1.path = outcome.path ∧
      (context.resolve memo outcome usages).2.1.state = outcome.state := by
  induction usages generalizing memo outcome with
  | nil => exact ⟨rfl, rfl⟩
  | cons usage usages ih =>
      rw [resolve]
      split
      · exact ih _ outcome
      · rename_i error later _
        exact ih later (outcome.push (context.missing usage error))

theorem prepareUsages_sound {memo : PatternMemo} {usages : List Usage}
    (clear : file.tree.faults = []) (named : outcome.path = file.path)
    (detected : outcome.state = .detected) :
    (context.prepareUsages memo file usages outcome).1.Sound file := by
  obtain ⟨path, state⟩ := context.resolve_outcome memo outcome usages
  unfold prepareUsages
  split
  · rename_i resolved later same
    rw [same] at path state
    refine ⟨(FileOutcome.advance_path _ _).trans (path.trans named),
      FileOutcome.advance_state_ne ?_ (by decide)⟩
    rw [state, detected]
    decide
  · rename_i inputs resolved later _ same
    rw [same] at path state
    refine preparePlan_sound clear ((FileOutcome.advance_path _ _).trans (path.trans named)) ?_
    rw [FileOutcome.advance_state]
    change (if resolved.state.allows .planned then FileState.planned else resolved.state) = .planned
    rw [state, detected]
    rfl

theorem prepare_sound (memo : PatternMemo) (file : SourceFile) :
    (context.prepare memo file).1.Sound file := by
  have detected : (({ path := file.path } : FileOutcome).advance .detected).state = .detected := rfl
  have open_ : (({ path := file.path } : FileOutcome).advance .detected).state ≠ .committed := by
    rw [detected]
    decide
  simp only [prepare]
  split
  · exact ⟨by simp, FileOutcome.advance_state_ne open_ (by decide)⟩
  · split
    · exact ⟨by simp, FileOutcome.advance_state_ne open_ (by decide)⟩
    · rename_i clear
      exact prepareUsages_sound clear rfl detected

end RunContext

end AgentProbe
