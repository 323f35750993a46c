import AgentProbe.Proofs.Run.Accounting

set_option autoImplicit false

/-!
No run corrupts a file.

However a run is scheduled, at its end the paths that lead to no modified file hold what they held,
and every modified file reads without an error.  A file is only worked on if no fault of it is
listed; the end of a statement that was taken for granted is not listed, so that a file whose only
errors are of this kind is modified all the same.
-/

namespace AgentProbe

open Syntax (SyntaxTree)

namespace RunContext

variable {context : RunContext} {files : List SourceFile} {before after : Disk}
  {outcomes : List FileOutcome} {path : Path}

/-- A path that leads to no committed file holds what it held. -/
theorem Worked.read_eq_ok (worked : context.Worked files before outcomes after)
    (elsewhere : ∀ outcome ∈ outcomes, outcome.state = .committed →
      before.locate true outcome.path ≠ before.locate true path) (bytes : Bytes) :
    after.read path = .ok bytes ↔ before.read path = .ok bytes := by
  have same (place : Location) (located : before.locate true path = .ok place) :
      after.top.viewAt place = before.top.viewAt place := by
    rcases worked.rewritten.changed place with unchanged | ⟨⟨outcome, member, done, there⟩, _⟩
    · exact unchanged
    · exact absurd (there.trans located.symm) (elsewhere outcome member done)
  rw [Disk.read_eq_ok_iff, Disk.read_eq_ok_iff]
  refine exists_congr fun place => exists_congr fun mode => ?_
  rw [worked.rewritten.locate]
  refine and_congr_right fun located => ?_
  rw [same place located]

end RunContext

/-- Without a listed fault, the only errors of a tree are statement ends that were taken for
granted. -/
theorem Syntax.SyntaxTree.hasErrors_of_faults {tree : SyntaxTree} (clear : tree.faults = []) :
    tree.hasErrors = tree.endAssumed := by
  rw [hasErrors, hasError_of_faults clear, Bool.false_or]

namespace Setup

variable {setup : Setup} {disk after : Disk} {root : Path} {report : Report}

/-- How a run over a project ends: with a report and a file system.  It takes the files one after
another, perhaps only some of them, or many workers take them. -/
inductive Ends (setup : Setup) (disk : Disk) (root : Path) : Report → Disk → Prop
  | alone {limit : Option Nat} {execution : Execution}
      (ran : setup.run disk root limit = .ok execution) :
      Ends setup disk root execution.report execution.disk
  | together {jobs : Nat} {pool reached : Pool}
      (opened : setup.openPool disk root jobs = .ok pool)
      (reaches : Relation.ReflTransGen Pool.Step pool reached) (ended : reached.IsOver) :
      Ends setup disk root reached.close reached.shared.disk

/-- At the end of a run, the file system shows what the outcomes say that the report was made of. -/
theorem Ends.worked (ends : setup.Ends disk root report after) (proper : disk.top.isProper = true) :
    ∃ platform scan outcomes, setup.scan disk root = .ok scan ∧
      (setup.context disk platform scan.detection.found).Worked scan.files disk outcomes after ∧
      ∀ path, path ∈ report.modified ↔
        ∃ outcome ∈ outcomes, outcome.state = .committed ∧ outcome.path = path := by
  cases ends with
  | alone ran =>
      obtain ⟨platform, scan, order, _, scanned, among, rfl⟩ := run_eq_ok ran
      refine ⟨platform, scan, _, scanned, ?_, fun path => mem_execute_modified⟩
      exact RunContext.processAll_worked { disk } (.none _ scan.files disk)
        (scan_pending proper scanned).placed among
  | @together jobs pool reached opened reaches ended =>
      obtain ⟨platform, scan, _, scanned, _, rfl⟩ := openPool_eq_ok opened
      have invariant := (pool_invariant proper scanned platform jobs).reached reaches
      obtain ⟨recorded, told, worked, _⟩ := invariant.recorded ended
      refine ⟨platform, scan, recorded, scanned, worked, ?_⟩
      intro path
      have listed : path ∈ reached.close.modified ↔ path ∈ reached.report.modified :=
        (List.mergeSort_perm _ _).mem_iff
      rw [listed, told, ← Report.foldl_record, Report.mem_modified]
      simp only [openReport, List.not_mem_nil, false_or]

/-- No run corrupts a file.  A path that leads to no modified file holds what it held.  In a modified
file no fault was listed, so that it had no error but perhaps the end of a statement that was taken
for granted; unless the run was dry, it now reads without an error.  A dry run changes nothing. -/
theorem run_intact (proper : disk.top.isProper = true)
    (ends : setup.Ends disk root report after) :
    (∀ path, (∀ modified ∈ report.modified,
          disk.locate true modified ≠ disk.locate true path) →
        ∀ bytes, after.read path = .ok bytes ↔ disk.read path = .ok bytes) ∧
      (∀ path ∈ report.modified,
        (∃ before, SourceFile.load disk path = .ok before ∧ before.tree.faults = [] ∧
          before.tree.hasErrors = before.tree.endAssumed) ∧
        (setup.settings.dryRun = false → ∃ later,
          SourceFile.load after path = .ok later ∧ later.tree.hasErrors = false)) ∧
      (setup.settings.dryRun = true → after = disk) := by
  obtain ⟨platform, scan, outcomes, scanned, worked, modified⟩ := ends.worked proper
  refine ⟨?_, ?_, worked.dry⟩
  · intro path elsewhere bytes
    refine worked.read_eq_ok ?_ bytes
    intro outcome member done
    exact elsewhere outcome.path ((modified _).mpr ⟨outcome, member, done, rfl⟩)
  · intro path listed
    obtain ⟨outcome, member, done, rfl⟩ := (modified path).mp listed
    obtain ⟨file, present, path, clear, cleaned⟩ := worked.committed outcome member done
    constructor
    · refine ⟨file, ?_, clear, SyntaxTree.hasErrors_of_faults clear⟩
      rw [path]
      exact (mem_scan_files scanned present).2
    · intro wet
      obtain ⟨place, located, clean⟩ := cleaned wet
      exact SourceFile.load_of_clean (worked.rewritten.locate.mpr located) clean

end Setup

/-- In a project that is one file, that file is written once it is ready. -/
theorem RunContext.processAll_soloProject {context : RunContext} {text new : Text}
    {outcome : FileOutcome}
    (ready : (context.prepare {} (.ofText ⟨"./agent.py"⟩ text)).1 = .ready outcome new) :
    (context.processAll { disk := soloProject text } [.ofText ⟨"./agent.py"⟩ text]).1 =
      [outcome.advance .committed] := by
  have opened : (soloProject text).entry ⟨"."⟩ = .ok (soloProject text).top := Disk.entry_dot _
  have parent : Path.directory ⟨"./agent.py"⟩ = ⟨"."⟩ := by decide +kernel
  have listed : (soloProject text).list (Path.directory ⟨"./agent.py"⟩) = .ok ["agent.py"] := by
    rw [parent, Disk.list, opened]
    rfl
  have shown : (soloProject text).top.viewAt ["agent.py"] =
      some (.file 0o644 (Utf8.encode text)) := rfl
  have written : (context.conclude (soloProject text) (.ofText ⟨"./agent.py"⟩ text)
      (.ready outcome new)).1 = outcome.advance .committed := by
    refine conclude_ready (soloProject_placed text).1 shown ?_ rfl outcome new
    exact ⟨_, listed⟩
  rw [← ready] at written
  exact congrArg (fun ended => [ended]) written

/-- Two statements on a line with nothing between them, and a call. -/
def runOnText : Text := "from agents import Agent [0]\nAgent()\n".toList

def writingSetup : Setup :=
  { settings := { Settings.preset .standard with excludes := [], minConfidence := 0 }
    registry := { platforms := [Platform.langfuse] }, excludes := []
    catalog := { signatures :=
      [{ name := "openai-agents", packages := [], modules := ["agents"], anchors := ["Agent"] }] }
    manifest := fun _ _ => .ok {}
    source := fun _ => some fun _ _ _ => .ok { initCode := some "h = x" }
    formatter := Formatter.ofWords [] }

private theorem writingSetup_prepare :
    ((writingSetup.context (soloProject runOnText) Platform.langfuse
      (detect Scoring.floating writingSetup.catalog (.ok {})
        [.ofText ⟨"./agent.py"⟩ runOnText]).found).prepare {} (.ofText ⟨"./agent.py"⟩ runOnText)).1 =
      .ready { path := ⟨"./agent.py"⟩, state := .validated, platformUsed := true }
        "from agents import Agent\n\nh = x [0]\nAgent()\n".toList := by
  decide +kernel

/-- The file has an error, is modified, and then has none. -/
theorem run_intact_runOn :
    (soloProject runOnText).top.isProper = true ∧
      ∃ report after, writingSetup.Ends (soloProject runOnText) ⟨"."⟩ report after ∧
        ⟨"./agent.py"⟩ ∈ report.modified ∧
        (∃ before, SourceFile.load (soloProject runOnText) ⟨"./agent.py"⟩ = .ok before ∧
          before.tree.hasErrors = true) ∧
        ∃ later, SourceFile.load after ⟨"./agent.py"⟩ = .ok later ∧
          later.tree.hasErrors = false := by
  have proper : (soloProject runOnText).top.isProper = true := rfl
  have load := soloProject_load runOnText
  obtain ⟨scan, ran, detection⟩ : ∃ scan,
      writingSetup.run (soloProject runOnText) ⟨"."⟩ =
        .ok (writingSetup.execute (soloProject runOnText) Platform.langfuse ⟨"."⟩ scan
          [.ofText ⟨"./agent.py"⟩ runOnText] false) ∧
      scan.detection = detect Scoring.floating writingSetup.catalog (.ok {})
        [.ofText ⟨"./agent.py"⟩ runOnText] := by
    refine ⟨writingSetup.scanFiles (soloProject runOnText) ⟨"."⟩ [⟨"./agent.py"⟩], ?_, ?_⟩
    · rw [Setup.run, Setup.scan_soloProject rfl]
      simp only [Setup.scanFiles, List.map_cons, List.map_nil, load]
      rfl
    · simp only [Setup.scanFiles, List.map_cons, List.map_nil, load]
      rfl
  have modified : ⟨"./agent.py"⟩ ∈ (writingSetup.execute (soloProject runOnText)
      Platform.langfuse ⟨"."⟩ scan [.ofText ⟨"./agent.py"⟩ runOnText] false).report.modified := by
    refine Setup.mem_execute_modified.mpr ?_
    rw [detection, RunContext.processAll_soloProject writingSetup_prepare]
    exact ⟨_, List.mem_cons_self, rfl, rfl⟩
  obtain ⟨_, reads, _⟩ := Setup.run_intact proper (.alone ran)
  refine ⟨proper, _, _, .alone ran, modified, ⟨_, load, ?_⟩, (reads _ modified).2 rfl⟩
  decide +kernel

end AgentProbe
