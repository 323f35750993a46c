import AgentProbe.Proofs.Files.Listing
import AgentProbe.Proofs.Run.Pool
import AgentProbe.Proofs.Run.Recording

set_option autoImplicit false

/-!
A run accounts for every file, whoever worked on it and in whatever order.

At every moment of a run by many workers, the outcomes that were recorded, those that are under way
and those still to come are together the outcomes of the files worked on alone.  When the run is over
all of them were recorded, so its report is that of a run that takes the files one after another.
-/

namespace AgentProbe

/-! ### Scans -/

namespace Setup

variable {setup : Setup} {disk : Disk} {root : Path} {scan : Scan}

/-- Every path of a scan is that of a file or of a failure. -/
theorem scanFiles_perm (setup : Setup) (disk : Disk) (root : Path) (paths : List Path) :
    ((setup.scanFiles disk root paths).failed ++
      (setup.scanFiles disk root paths).files.map SourceFile.path).Perm paths := by
  simp only [scanFiles]
  induction paths with
  | nil => exact .refl _
  | cons path paths ih =>
      cases loaded : SourceFile.load disk path with
      | ok file =>
          simp only [List.map_cons, loaded, List.filterMap_cons, Except.toOption,
            SourceFile.load_eq_ok loaded]
          exact List.perm_middle.trans (ih.cons path)
      | error error =>
          simp only [List.map_cons, loaded, List.filterMap_cons, Except.toOption, List.cons_append]
          exact ih.cons path

theorem scan_eq_ok (scanned : setup.scan disk root = .ok scan) :
    scan = setup.scanFiles disk root (disk.pythonFiles (Glob.excludes setup.excludes) root) := by
  unfold Setup.scan at scanned
  split at scanned
  · cases scanned
    rfl
  · cases scanned

/-- The files of a scan are each at a place of their own. -/
theorem scan_pending (proper : disk.top.isProper = true)
    (scanned : setup.scan disk root = .ok scan) : RunContext.Pending disk scan.files disk := by
  have listed (file : SourceFile) (member : file ∈ scan.files) :=
    (mem_scan_files scanned member).1
  refine ⟨?_, ?_, .refl _ disk⟩
  · intro file member
    exact Disk.placed_of_mem_pythonFiles proper (listed file member)
  · have paths := scanFiles_perm setup disk root
      (disk.pythonFiles (Glob.excludes setup.excludes) root)
    rw [← scan_eq_ok scanned] at paths
    have distinct : (scan.files.map SourceFile.path).Nodup := by
      refine (List.nodup_append.mp (paths.nodup_iff.mpr ?_)).2.1
      exact (disk.steps_pythonFiles_nodup proper _ root).of_map Path.steps
    refine List.Pairwise.imp_of_mem ?_ (List.pairwise_map.mp distinct)
    intro left right inLeft inRight different same
    exact different
      (Disk.eq_of_locate_pythonFiles proper (listed left inLeft) (listed right inRight) same)

/-- The run by many workers at its start: as many as are asked for, but not more than there are
files, and at least one. -/
def pool (setup : Setup) (disk : Disk) (platform : Platform) (root : Path) (scan : Scan)
    (jobs : Nat) : Pool :=
  { context := setup.context disk platform scan.detection.found
    capacity := min (max jobs 1) (max scan.files.length 1) * 2
    waiting := scan.files
    workers := List.replicate (min (max jobs 1) (max scan.files.length 1)) .idle
    shared := { disk }
    report := setup.openReport root platform scan }

def openPool (setup : Setup) (disk : Disk) (root : Path) (jobs : Nat) : Except RunError Pool :=
  match setup.registry.get setup.settings.platform with
  | .error error => .error (.registry error)
  | .ok platform => do
    let scan ← setup.scan disk root
    pure (setup.pool disk platform root scan jobs)

theorem openPool_eq_ok {jobs : Nat} {pool : Pool}
    (opened : setup.openPool disk root jobs = .ok pool) :
    ∃ platform scan, setup.registry.get setup.settings.platform = .ok platform ∧
      setup.scan disk root = .ok scan ∧
      setup.run disk root = .ok (setup.execute disk platform root scan scan.files false) ∧
      pool = setup.pool disk platform root scan jobs := by
  unfold openPool at opened
  unfold run
  cases found : setup.registry.get setup.settings.platform with
  | error error =>
      rw [found] at opened
      cases opened
  | ok platform =>
      rw [found] at opened
      obtain ⟨scan, scanned, finished⟩ := Sequencing.bind_eq_ok.mp opened
      cases finished
      refine ⟨platform, scan, rfl, scanned, ?_, rfl⟩
      rw [scanned]
      rfl

end Setup

/-! ### The whole run -/

namespace Pool

variable {pool next : Pool} {context : RunContext} {start : Disk} {opening : Report}
  {files : List SourceFile}

/-- What holds at every moment of a run over some files. -/
structure Invariant (context : RunContext) (start : Disk) (opening : Report)
    (files : List SourceFile) (pool : Pool) : Prop where
  same : pool.context = context
  consistent : pool.Consistent
  among : ∀ file ∈ pool.pending, file ∈ files
  pending : RunContext.Pending start pool.pending pool.shared.disk
  /-- Nothing is lost and nothing is done twice, and the file system shows what was done. -/
  balance : ∃ recorded, pool.report = opening.after recorded ∧
    context.Worked files start (recorded ++ pool.outcomes) pool.shared.disk ∧
    (recorded ++ pool.outcomes ++ pool.pending.map (context.outcome start)).Perm
      (files.map (context.outcome start))
  idle : .stopped ∈ pool.workers → pool.waiting = [] ∧ pool.queue = []
  staffed : pool.workers ≠ []
  room : 0 < pool.capacity

/-- The step lemma. -/
theorem Invariant.step (invariant : Invariant context start opening files pool)
    (step : Step pool next) : Invariant context start opening files next := by
  obtain ⟨rfl, consistent, among, pending, ⟨recorded, told, worked, all⟩, idle, staffed, room⟩ :=
    invariant
  obtain ⟨sameContext, sameCapacity⟩ := step.frame
  -- What is left of the invariant once the step is known to keep files and outcomes in balance.
  have rest (within : ∀ file ∈ next.pending, file ∈ files)
      (later : RunContext.Pending start next.pending next.shared.disk)
      (balance : ∃ recorded, next.report = opening.after recorded ∧
        pool.context.Worked files start (recorded ++ next.outcomes) next.shared.disk ∧
        (recorded ++ next.outcomes ++ next.pending.map (pool.context.outcome start)).Perm
          (files.map (pool.context.outcome start))) :
      Invariant pool.context start opening files next :=
    ⟨sameContext, step.consistent consistent, within, later, balance, step.idle idle,
      step.staffed staffed, by rw [sameCapacity]; exact room⟩
  rcases step.ledger consistent with
    ⟨kept, moved, disk, report⟩ | ⟨file, finished, added, disk, report⟩ |
      ⟨outcome, kept, taken, disk, report⟩
  · refine rest ?_ ?_ ⟨recorded, report.trans told, ?_, List.Perm.trans ?_ all⟩
    · intro file member
      exact among file (kept.mem_iff.mpr member)
    · rw [disk]
      exact pending.perm kept
    · rw [disk]
      exact worked.perm (moved.append_left recorded)
    · exact (moved.symm.append_left recorded).append (kept.symm.map _)
  · have sound := pool.context.prepare_sound {} file
    have here := finished.mem_iff.mpr List.mem_cons_self
    obtain ⟨place, there⟩ := pending.placed file here
    have treated := pool.context.conclude_treated sound (pending.rewritten.placed there)
    obtain ⟨concluded, later⟩ := (pending.perm finished).conclude pool.context sound
    refine rest ?_ (disk ▸ later) ⟨recorded, report.trans told, ?_, List.Perm.trans ?_ all⟩
    · intro other member
      exact among other (finished.mem_iff.mpr (List.mem_cons_of_mem file member))
    · rw [disk]
      refine (worked.add (among file here) there treated).perm ?_
      rw [List.append_assoc]
      exact ((List.perm_append_singleton _ _).trans added.symm).append_left recorded
    · rw [concluded] at added
      refine ((added.append_left recorded).append_right _).trans ?_
      refine List.Perm.trans ?_ ((finished.symm.map _).append_left _)
      simp only [List.perm_iff_count, List.count_append, List.count_cons, List.map_cons,
        RunContext.outcome, RunContext.process]
      omega
  · have together : (recorded ++ pool.outcomes).Perm (recorded ++ [outcome] ++ next.outcomes) := by
      rw [List.append_assoc recorded, List.singleton_append]
      exact taken.append_left recorded
    refine rest ?_ ?_ ⟨recorded ++ [outcome], ?_, ?_, List.Perm.trans ?_ all⟩
    · intro file member
      exact among file (kept.mem_iff.mpr member)
    · rw [disk]
      exact pending.perm kept
    · rw [report, told, Report.record_eq_after, Report.after_append]
    · rw [disk]
      exact worked.perm together
    · exact together.symm.append (kept.symm.map _)

/-- The run lemma. -/
theorem Invariant.reached (invariant : Invariant context start opening files pool)
    (reaches : Relation.ReflTransGen Step pool next) :
    Invariant context start opening files next := by
  induction reaches with
  | refl => exact invariant
  | tail _ step ih => exact ih.step step

/-- When a run is over, the outcomes of all files were recorded, each as it would be alone, and the
file system shows what these say. -/
theorem Invariant.recorded (invariant : Invariant context start opening files pool)
    (ended : pool.IsOver) : ∃ recorded, pool.report = opening.after recorded ∧
      context.Worked files start recorded pool.shared.disk ∧
      recorded.Perm (files.map (context.outcome start)) := by
  obtain ⟨stopped, sent⟩ := ended
  obtain ⟨worker, member⟩ := List.exists_mem_of_ne_nil _ invariant.staffed
  obtain ⟨waiting, queue⟩ := invariant.idle (stopped worker member ▸ member)
  have noFile : pool.workers.flatMap Worker.files = [] := by
    refine List.flatMap_eq_nil_iff.mpr ?_
    intro other among
    rw [stopped other among]
    rfl
  have noOutcome : pool.workers.flatMap Worker.outcomes = [] := by
    refine List.flatMap_eq_nil_iff.mpr ?_
    intro other among
    rw [stopped other among]
    rfl
  obtain ⟨recorded, told, worked, all⟩ := invariant.balance
  simp only [Pool.outcomes, Pool.pending, noFile, noOutcome, waiting, queue, sent, List.append_nil,
    List.map_nil] at worked all
  exact ⟨recorded, told, worked, all⟩

end Pool

namespace Setup

variable {setup : Setup} {disk : Disk} {root : Path} {scan : Scan}

theorem pool_invariant (proper : disk.top.isProper = true)
    (scanned : setup.scan disk root = .ok scan) (platform : Platform) (jobs : Nat) :
    Pool.Invariant (setup.context disk platform scan.detection.found) disk
      (setup.openReport root platform scan) scan.files
      (setup.pool disk platform root scan jobs) := by
  have jobless (worker : Worker)
      (member : worker ∈ (setup.pool disk platform root scan jobs).workers) : worker = .idle :=
    List.eq_of_mem_replicate member
  have workers : 0 < min (max jobs 1) (max scan.files.length 1) := by omega
  have pending : (setup.pool disk platform root scan jobs).pending = scan.files := by
    have none : (setup.pool disk platform root scan jobs).workers.flatMap Worker.files = [] := by
      refine List.flatMap_eq_nil_iff.mpr ?_
      intro worker member
      rw [jobless worker member]
      rfl
    rw [Pool.pending, none, List.append_nil]
    exact List.append_nil scan.files
  have nothing : (setup.pool disk platform root scan jobs).outcomes = [] := by
    refine List.append_eq_nil_iff.mpr ⟨List.flatMap_eq_nil_iff.mpr ?_, rfl⟩
    intro worker member
    rw [jobless worker member]
    rfl
  refine ⟨rfl, ⟨.empty _, ?_⟩, ?_, ?_, ⟨[], ?_, ?_, ?_⟩, ?_, ?_, ?_⟩
  · intro worker member
    rw [jobless worker member]
    trivial
  · intro file member
    exact pending ▸ member
  · rw [pending]
    exact scan_pending proper scanned
  · exact (Report.after_nil _).symm
  · rw [nothing]
    exact .none _ _ disk
  · rw [pending, nothing]
    exact .refl _
  · intro stopped
    cases jobless .stopped stopped
  · intro empty
    have count := congrArg List.length empty
    simp only [pool, List.length_replicate, List.length_nil] at count
    omega
  · exact Nat.mul_pos workers Nat.two_pos

/-- A run that takes the files one after another records the outcome of each. -/
theorem execute_report (proper : disk.top.isProper = true)
    (scanned : setup.scan disk root = .ok scan) (platform : Platform) :
    (setup.execute disk platform root scan scan.files false).report =
      ((setup.openReport root platform scan).after (scan.files.map
        ((setup.context disk platform scan.detection.found).outcome disk))).finish := by
  have outcomes : ((setup.context disk platform scan.detection.found).processAll { disk }
      scan.files).1 = scan.files.map
        ((setup.context disk platform scan.detection.found).outcome disk) :=
    RunContext.processAll_outcomes (scan_pending proper scanned) (.empty _)
  simp only [execute, outcomes, Report.foldl_record]
  rfl

/-- The files that failed and the outcomes of the others are together all files of a scan. -/
theorem scan_accounts (proper : disk.top.isProper = true)
    (scanned : setup.scan disk root = .ok scan) (context : RunContext) :
    (scan.failed ++ (scan.files.map (context.outcome disk)).map FileOutcome.path).Perm
      (disk.pythonFiles (Glob.excludes setup.excludes) root) := by
  have paths : (scan.files.map (context.outcome disk)).map FileOutcome.path =
      scan.files.map SourceFile.path := by
    rw [List.map_map]
    refine List.map_congr_left ?_
    intro file member
    obtain ⟨place, placed⟩ := (scan_pending proper scanned).placed file member
    exact (@RunContext.process_treated context { disk } file place placed).path
  have parts := scanFiles_perm setup disk root
    (disk.pythonFiles (Glob.excludes setup.excludes) root)
  rw [← scan_eq_ok scanned] at parts
  rw [paths]
  exact parts

/-- Many workers account for a project exactly, however they are scheduled.  A run comes to an end
and is stuck nowhere before; every Python file is then on exactly one of the three lists, once; and
the report says what the report of a run without other workers says, with its diagnostics in some
order. -/
theorem openPool_accounts {jobs : Nat} {pool : Pool} (proper : disk.top.isProper = true)
    (opened : setup.openPool disk root jobs = .ok pool) :
    WellFounded (fun next pool : Pool => Pool.Step pool next) ∧
      ((disk.pythonFiles (Glob.excludes setup.excludes) root).map Path.steps).Nodup ∧
      ∃ execution, setup.run disk root = .ok execution ∧
        ∀ reached, Relation.ReflTransGen Pool.Step pool reached →
          (reached.IsOver ∨ ∃ next, Pool.Step reached next) ∧
            (reached.IsOver →
              reached.close.Accounts (disk.pythonFiles (Glob.excludes setup.excludes) root) ∧
                reached.close.Agrees execution.report) := by
  obtain ⟨platform, scan, _, scanned, ran, rfl⟩ := openPool_eq_ok opened
  have distinct := disk.steps_pythonFiles_nodup proper (Glob.excludes setup.excludes) root
  refine ⟨Pool.step_wellFounded, distinct, _, ran, ?_⟩
  intro reached reaches
  have invariant := (pool_invariant proper scanned platform jobs).reached reaches
  refine ⟨Pool.isOver_or_step invariant.room, ?_⟩
  intro ended
  obtain ⟨recorded, told, _, same⟩ := invariant.recorded ended
  have closed : reached.close = ((setup.openReport root platform scan).after recorded).finish := by
    rw [Pool.close, told]
    rfl
  have all : (scan.failed ++ recorded.map FileOutcome.path).Perm
      (disk.pythonFiles (Glob.excludes setup.excludes) root) :=
    ((same.map FileOutcome.path).append_left scan.failed).trans
      (scan_accounts proper scanned _)
  have counted : scan.scanned = (disk.pythonFiles (Glob.excludes setup.excludes) root).length := by
    rw [scan_eq_ok scanned]
    rfl
  rw [closed, execute_report proper scanned]
  exact ⟨Report.finish_accounts all counted, Report.finish_agrees same all distinct⟩

end Setup

def mixedProject : Disk :=
  { top := .directory
      [("agent.py", .file 0o644 (Utf8.encode "from agents import Agent\nAgent(name=1)\n".toList)),
       ("tools", .directory [("plain.py", .file 0o644 (Utf8.encode "x = 1\n".toList))]),
       ("raw.py", .file 0o600 [0xFF])] }

def carelessSetup : Setup :=
  { settings :=
      { platform := "langfuse", level := .standard, targets := [], frameworks := [], excludes := []
        jobs := default, minConfidence := 0, dryRun := false, formatter := none
        platformDirectories := [], patternDirectories := [] }
    registry := { platforms := [Platform.langfuse] }, excludes := [], source := fun _ => none
    formatter := ⟨"careless", fun text => .ok ('(' :: text)⟩ }

theorem openPool_accounts_mixed :
    mixedProject.top.isProper = true ∧
      ∃ pool, carelessSetup.openPool mixedProject ⟨"."⟩ 2 = .ok pool ∧
        ∀ reached, Relation.ReflTransGen Pool.Step pool reached → reached.IsOver →
          reached.close.modified.length + reached.close.rolledBack.length +
            reached.close.skipped.length = 3 := by
  have proper : mixedProject.top.isProper = true := by decide +kernel
  have entry : mixedProject.entry ⟨"."⟩ = .ok mixedProject.top := Disk.entry_dot _
  have directory : mixedProject.isDirectory ⟨"."⟩ = true := Disk.isDirectory_dot _
  have three :
      (mixedProject.pythonFiles (Glob.excludes carelessSetup.excludes) ⟨"."⟩).length = 3 := by
    simp only [Disk.pythonFiles, entry, Path.sorted, List.length_mergeSort, List.length_map]
    decide +kernel
  have opens : ∃ pool, carelessSetup.openPool mixedProject ⟨"."⟩ 2 = .ok pool := by
    apply Exists.intro
    simp only [Setup.openPool, Setup.scan, directory, if_true]
    rfl
  obtain ⟨pool, opened⟩ := opens
  refine ⟨proper, pool, opened, ?_⟩
  obtain ⟨_, _, execution, _, runs⟩ := Setup.openPool_accounts proper opened
  intro reached reaches ended
  obtain ⟨accounts, _⟩ := (runs reached reaches).2 ended
  rw [← three, ← accounts.listed.length_eq, List.length_append, List.length_append]

end AgentProbe
