import Mathlib.Data.List.Nodup
import AgentProbe.Proofs.Files.Order
import AgentProbe.Run.Report

set_option autoImplicit false

/-!
What a report says after some outcomes were recorded.

Each outcome puts its file on one of three lists and adds diagnostics, whatever was recorded before.
Recorded in another order, the outcomes give the same lists once these are sorted, and the same
diagnostics in another order.
-/

namespace AgentProbe.Report

/-! ### Recorded outcomes -/

def reaching (state : FileState) (outcomes : List FileOutcome) : List Path :=
  (outcomes.filter fun outcome => outcome.state == state).map FileOutcome.path

def leftAlone (outcomes : List FileOutcome) : List Path :=
  (outcomes.filter fun outcome =>
    !(outcome.state == .committed) && !(outcome.state == .rolledBack)).map FileOutcome.path

def notes (outcome : FileOutcome) : List Diagnostic :=
  (if outcome.state.isTerminal then [] else [unfinished outcome]) ++ outcome.diagnostics

def platformsAfter (report : Report) (outcomes : List FileOutcome) : List String :=
  if outcomes.any FileOutcome.platformUsed && !report.platformsUsed.contains report.platform then
    report.platformsUsed ++ [report.platform]
  else report.platformsUsed

def after (report : Report) (outcomes : List FileOutcome) : Report :=
  { report with
    platformsUsed := report.platformsAfter outcomes
    modified := report.modified ++ reaching .committed outcomes
    rolledBack := report.rolledBack ++ reaching .rolledBack outcomes
    skipped := report.skipped ++ leftAlone outcomes
    diagnostics := report.diagnostics ++ outcomes.flatMap notes }

theorem after_nil (report : Report) : report.after [] = report := by
  simp [after, reaching, leftAlone, platformsAfter]

theorem record_eq_after (report : Report) (outcome : FileOutcome) :
    report.record outcome = report.after [outcome] := by
  obtain ⟨path, state, diagnostics, used⟩ := outcome
  cases used <;> cases known : report.platformsUsed.contains report.platform <;> cases state <;>
    simp [record, file, usePlatform, push, after, reaching, leftAlone, notes, platformsAfter,
      FileState.isTerminal, -List.contains_eq_mem, known]

theorem platformsAfter_append (report : Report) (first second : List FileOutcome) :
    (report.after first).platformsAfter second = report.platformsAfter (first ++ second) := by
  unfold platformsAfter after platformsAfter
  rw [List.any_append]
  cases first.any FileOutcome.platformUsed <;>
    cases known : report.platformsUsed.contains report.platform <;>
    simp [-List.contains_eq_mem, known]

theorem after_append (report : Report) (first second : List FileOutcome) :
    (report.after first).after second = report.after (first ++ second) := by
  rw [after, platformsAfter_append]
  simp only [after, reaching, leftAlone, List.filter_append, List.map_append, List.flatMap_append,
    List.append_assoc]

/-- Recording is a sum: what was recorded before does not change what an outcome adds. -/
theorem foldl_record (report : Report) (outcomes : List FileOutcome) :
    outcomes.foldl record report = report.after outcomes := by
  induction outcomes generalizing report with
  | nil => exact report.after_nil.symm
  | cons outcome outcomes ih =>
      rw [List.foldl_cons, ih, record_eq_after, after_append, List.singleton_append]

theorem lists_perm (outcomes : List FileOutcome) :
    (reaching .committed outcomes ++ reaching .rolledBack outcomes ++ leftAlone outcomes).Perm
      (outcomes.map FileOutcome.path) := by
  unfold reaching leftAlone
  rw [← List.map_append, ← List.map_append]
  refine List.Perm.map FileOutcome.path ?_
  have others := List.filter_append_perm (fun outcome : FileOutcome => outcome.state == .rolledBack)
    (outcomes.filter fun outcome => !(outcome.state == .committed))
  have apart (outcome : FileOutcome) :
      (outcome.state == .rolledBack && !(outcome.state == .committed)) =
        (outcome.state == .rolledBack) := by
    cases outcome.state <;> rfl
  have swap (outcome : FileOutcome) :
      (!(outcome.state == .rolledBack) && !(outcome.state == .committed)) =
        (!(outcome.state == .committed) && !(outcome.state == .rolledBack)) :=
    Bool.and_comm _ _
  simp only [List.filter_filter, apart, swap] at others
  rw [List.append_assoc]
  exact (others.append_left _).trans (List.filter_append_perm _ outcomes)

/-! ### The end of a run -/

/-- A report that has every one of some files on one of its lists, each list in order. -/
structure Accounts (report : Report) (files : List Path) : Prop where
  listed : (report.modified ++ report.rolledBack ++ report.skipped).Perm files
  scanned : report.scanned =
    report.modified.length + report.rolledBack.length + report.skipped.length
  modifiedOrdered : report.modified.Pairwise fun left right => left.le right = true
  rolledBackOrdered : report.rolledBack.Pairwise fun left right => left.le right = true
  skippedOrdered : report.skipped.Pairwise fun left right => left.le right = true

/-- Reports that say the same, with their diagnostics in any order. -/
structure Agrees (left right : Report) : Prop where
  modified : left.modified = right.modified
  rolledBack : left.rolledBack = right.rolledBack
  skipped : left.skipped = right.skipped
  platformsUsed : left.platformsUsed = right.platformsUsed
  frameworks : left.frameworks = right.frameworks
  diagnostics : left.diagnostics.Perm right.diagnostics

variable {report : Report} {files : List Path}

theorem finish_accounts {outcomes : List FileOutcome}
    (all : (report.modified ++ report.rolledBack ++ report.skipped ++
      outcomes.map FileOutcome.path).Perm files)
    (counted : report.scanned = files.length) : ((report.after outcomes).finish).Accounts files := by
  have listed : ((report.after outcomes).finish.modified ++
      (report.after outcomes).finish.rolledBack ++
      (report.after outcomes).finish.skipped).Perm files := by
    refine List.Perm.trans ?_ all
    refine (((Path.sorted_perm _).append (Path.sorted_perm _)).append (Path.sorted_perm _)).trans ?_
    have parts := (lists_perm outcomes).append_left
      (report.modified ++ report.rolledBack ++ report.skipped)
    refine List.Perm.trans ?_ parts
    simp only [after, List.perm_iff_count, List.count_append]
    intro path
    omega
  refine ⟨listed, ?_, Path.sorted_ordered _, Path.sorted_ordered _, Path.sorted_ordered _⟩
  have total := listed.length_eq
  rw [List.length_append, List.length_append] at total
  exact counted.trans total.symm

/-- The order in which outcomes are recorded does not matter. -/
theorem finish_agrees {first second : List FileOutcome} (same : first.Perm second)
    (all : (report.modified ++ report.rolledBack ++ report.skipped ++
      first.map FileOutcome.path).Perm files)
    (distinct : (files.map Path.steps).Nodup) :
    ((report.after first).finish).Agrees ((report.after second).finish) := by
  -- A list that holds only some of the files is sorted alike in every order.
  have alike {old : List Path} {test : FileOutcome → Bool}
      (among : ∀ path ∈ old, path ∈ files) :
      Path.sorted (old ++ (first.filter test).map FileOutcome.path) =
        Path.sorted (old ++ (second.filter test).map FileOutcome.path) := by
    have inside (path : Path) (member : path ∈ old ++ (first.filter test).map FileOutcome.path) :
        path ∈ files := by
      rcases List.mem_append.mp member with earlier | added
      · exact among path earlier
      · refine all.mem_iff.mp (List.mem_append_right _ ?_)
        exact List.map_subset FileOutcome.path (List.filter_subset_self first) added
    refine Path.sorted_eq_of_perm (((same.filter test).map FileOutcome.path).append_left old) ?_
    intro left inLeft right inRight steps
    exact List.inj_on_of_nodup_map distinct (inside left inLeft) (inside right inRight) steps
  have opening (path : Path)
      (member : path ∈ report.modified ++ report.rolledBack ++ report.skipped) : path ∈ files :=
    all.mem_iff.mp (List.mem_append_left _ member)
  refine ⟨alike ?_, alike ?_, alike ?_, ?_, rfl, ?_⟩
  · intro path member
    exact opening path (List.mem_append_left _ (List.mem_append_left _ member))
  · intro path member
    exact opening path (List.mem_append_left _ (List.mem_append_right _ member))
  · intro path member
    exact opening path (List.mem_append_right _ member)
  · change report.platformsAfter first = report.platformsAfter second
    rw [platformsAfter, platformsAfter, same.any_eq]
  · exact (same.flatMap_right notes).append_left report.diagnostics

end AgentProbe.Report
