import Mathlib.Algebra.GroupWithZero.Nat
import Mathlib.Data.List.Perm.Basic
import Mathlib.Logic.Relation
import AgentProbe.Proofs.Run.Independence

set_option autoImplicit false

/-!
A run by many workers.

Files wait to be fed into a bounded queue.  Workers take them from it, look up their patterns one at
a time in the shared memo, write what was prepared, and send the outcomes on; a single collector
records these.  Every step is a choice: which worker moves, which queued file it takes, which outcome
arrives next.  A file is replaced in one step.

Whatever is chosen, the outcomes that are recorded, under way and still to come are those of the files
worked on alone, and every step leaves less to do.
-/

namespace AgentProbe

/-! ### Workers -/

inductive Worker where
  | idle
  | holding (file : SourceFile)
  /-- The patterns of some frameworks are found, those of `usages` are still to be looked up. -/
  | resolving (file : SourceFile) (usages : List Usage) (inputs : List PlanInput)
      (outcome : FileOutcome)
  | writing (file : SourceFile) (prepared : Prepared)
  | done (outcome : FileOutcome)
  | stopped

namespace Worker

def files : Worker → List SourceFile
  | .holding file | .resolving file _ _ _ | .writing file _ => [file]
  | _ => []

def outcomes : Worker → List FileOutcome
  | .done outcome => [outcome]
  | _ => []

end Worker

def RunContext.work (context : RunContext) (shared : Shared) : Worker → Option (Worker × Shared)
  | .holding file =>
    if context.needsPatterns file then
      some (.resolving file (context.usages file) [] (detected file), shared)
    else some (.writing file (context.prepare {} file).1, shared)
  | .resolving file (usage :: usages) inputs outcome =>
    match shared.memo.resolve context.source (context.request usage) with
    | (.ok pattern, memo) =>
      some (.resolving file usages (inputs ++ [context.input usage pattern]) outcome,
        { shared with memo })
    | (.error error, memo) =>
      some (.resolving file usages inputs (outcome.push (context.missing usage error)),
        { shared with memo })
  | .resolving file [] inputs outcome =>
    some (.writing file (context.prepareInputs file inputs outcome), shared)
  | .writing file prepared =>
    some (.done (context.conclude shared.disk file prepared).1,
      { shared with disk := (context.conclude shared.disk file prepared).2 })
  | .idle | .done _ | .stopped => none

theorem RunContext.work_cases (context : RunContext) (shared : RunContext.Shared) (worker : Worker) :
    worker = .idle ∨ (∃ outcome, worker = .done outcome) ∨ worker = .stopped ∨
      ∃ next later, context.work shared worker = some (next, later) := by
  cases worker with
  | idle => exact Or.inl rfl
  | done outcome => exact Or.inr (Or.inl ⟨outcome, rfl⟩)
  | stopped => exact Or.inr (Or.inr (Or.inl rfl))
  | holding file =>
      refine Or.inr (Or.inr (Or.inr ?_))
      rw [RunContext.work]
      split
      · exact ⟨_, _, rfl⟩
      · exact ⟨_, _, rfl⟩
  | writing file prepared => exact Or.inr (Or.inr (Or.inr ⟨_, _, rfl⟩))
  | resolving file usages inputs outcome =>
      refine Or.inr (Or.inr (Or.inr ?_))
      cases usages with
      | nil => exact ⟨_, _, rfl⟩
      | cons usage usages =>
          rw [RunContext.work]
          split
          · exact ⟨_, _, rfl⟩
          · exact ⟨_, _, rfl⟩

def RunContext.toDo (context : RunContext) (file : SourceFile) : Nat :=
  (context.usages file).length + 6

def RunContext.effort (context : RunContext) : Worker → Nat
  | .stopped => 0
  | .idle => 1
  | .done _ => 3
  | .writing _ _ => 4
  | .resolving _ usages _ _ => usages.length + 5
  | .holding file => context.toDo file

/-- A step of a worker leaves it less to do, but something. -/
theorem RunContext.effort_of_work {context : RunContext} {shared later : RunContext.Shared}
    {worker next : Worker} (moves : context.work shared worker = some (next, later)) :
    0 < context.effort next ∧ context.effort next < context.effort worker := by
  cases worker with
  | idle => cases moves
  | stopped => cases moves
  | done outcome => cases moves
  | holding file =>
      rw [work] at moves
      split at moves
      · cases moves
        simp only [effort, toDo]
        omega
      · cases moves
        simp only [effort, toDo]
        omega
  | writing file prepared =>
      cases moves
      simp only [effort]
      omega
  | resolving file usages inputs outcome =>
      cases usages with
      | nil =>
          cases moves
          simp only [effort, List.length_nil]
          omega
      | cons usage usages =>
          rw [work] at moves
          split at moves
          · cases moves
            simp only [effort, List.length_cons]
            omega
          · cases moves
            simp only [effort, List.length_cons]
            omega

/-- What a worker has found leads to what preparing its file gives. -/
def Worker.Consistent (context : RunContext) : Worker → Prop
  | .resolving file usages inputs outcome =>
    context.prepareInputs file (inputs ++ (context.gather outcome usages).1)
      (context.gather outcome usages).2 = (context.prepare {} file).1
  | .writing file prepared => prepared = (context.prepare {} file).1
  | _ => True

/-- A step of a worker keeps it consistent and the memo faithful.  It leaves the file system alone,
unless it writes the file and thereby finishes it. -/
theorem Worker.Consistent.work {context : RunContext} {shared later : RunContext.Shared}
    {worker next : Worker} (consistent : worker.Consistent context)
    (faithful : context.Faithful shared.memo)
    (moves : context.work shared worker = some (next, later)) :
    next.Consistent context ∧ context.Faithful later.memo ∧
      ((next.files = worker.files ∧ next.outcomes = worker.outcomes ∧ later.disk = shared.disk) ∨
        ∃ file, worker = .writing file (context.prepare {} file).1 ∧
          next = .done (context.conclude shared.disk file (context.prepare {} file).1).1 ∧
          later.disk = (context.conclude shared.disk file (context.prepare {} file).1).2) := by
  cases worker with
  | idle => cases moves
  | stopped => cases moves
  | done outcome => cases moves
  | holding file =>
      rw [RunContext.work] at moves
      split at moves
      · rename_i needs
        cases moves
        refine ⟨?_, faithful, Or.inl ⟨rfl, rfl, rfl⟩⟩
        exact ((RunContext.Faithful.empty context).prepare_eq needs).1.symm
      · cases moves
        exact ⟨rfl, faithful, Or.inl ⟨rfl, rfl, rfl⟩⟩
  | writing file prepared =>
      change prepared = (context.prepare {} file).1 at consistent
      subst consistent
      cases moves
      exact ⟨trivial, faithful, Or.inr ⟨file, rfl, rfl, rfl⟩⟩
  | resolving file usages inputs outcome =>
      cases usages with
      | nil =>
          cases moves
          refine ⟨?_, faithful, Or.inl ⟨rfl, rfl, rfl⟩⟩
          change context.prepareInputs file (inputs ++ []) outcome = _ at consistent
          rw [List.append_nil] at consistent
          exact consistent
      | cons usage usages =>
          obtain ⟨answered, kept⟩ := faithful.resolve usage
          rw [RunContext.work] at moves
          simp only [Worker.Consistent, RunContext.gather, ← answered] at consistent
          split at moves
          · rename_i pattern memo resolved
            rw [resolved] at consistent kept
            cases moves
            refine ⟨?_, kept, Or.inl ⟨rfl, rfl, rfl⟩⟩
            simp only [Worker.Consistent, List.append_assoc, List.singleton_append]
            exact consistent
          · rename_i error memo resolved
            rw [resolved] at consistent kept
            cases moves
            exact ⟨consistent, kept, Or.inl ⟨rfl, rfl, rfl⟩⟩

/-! ### Pools -/

structure Pool where
  context : RunContext
  /-- How many files the queue holds at most. -/
  capacity : Nat
  waiting : List SourceFile
  queue : List SourceFile := []
  workers : List Worker
  /-- The outcomes that were sent and not recorded. -/
  sent : List FileOutcome := []
  shared : RunContext.Shared
  report : Report

namespace Pool

variable {pool next : Pool}

inductive Step : Pool → Pool → Prop
  /-- The next file goes into the queue, if that has room. -/
  | feed {pool : Pool} {file : SourceFile} {files : List SourceFile}
      (waits : pool.waiting = file :: files) (room : pool.queue.length < pool.capacity) :
      Step pool { pool with waiting := files, queue := pool.queue ++ [file] }
  /-- An idle worker takes a file from the queue. -/
  | take {pool : Pool} {file : SourceFile} {front back : List SourceFile}
      {before after : List Worker} (queued : pool.queue = front ++ file :: back)
      (free : pool.workers = before ++ .idle :: after) :
      Step pool { pool with queue := front ++ back, workers := before ++ .holding file :: after }
  /-- A worker goes on with its file. -/
  | work {pool : Pool} {worker next : Worker} {shared : RunContext.Shared}
      {before after : List Worker} (busy : pool.workers = before ++ worker :: after)
      (moves : pool.context.work pool.shared worker = some (next, shared)) :
      Step pool { pool with workers := before ++ next :: after, shared }
  /-- A worker hands over the outcome of its file. -/
  | send {pool : Pool} {outcome : FileOutcome} {before after : List Worker}
      (finished : pool.workers = before ++ .done outcome :: after) :
      Step pool { pool with workers := before ++ .idle :: after, sent := pool.sent ++ [outcome] }
  /-- An outcome arrives and is recorded. -/
  | collect {pool : Pool} {outcome : FileOutcome} {front back : List FileOutcome}
      (arrives : pool.sent = front ++ outcome :: back) :
      Step pool { pool with sent := front ++ back, report := pool.report.record outcome }
  /-- An idle worker stops, as no file will come any more. -/
  | stop {pool : Pool} {before after : List Worker} (fed : pool.waiting = [])
      (drained : pool.queue = []) (free : pool.workers = before ++ .idle :: after) :
      Step pool { pool with workers := before ++ .stopped :: after }

/-- Whether a run has ended: every worker has stopped, and every outcome was recorded. -/
def IsOver (pool : Pool) : Prop :=
  (∀ worker ∈ pool.workers, worker = .stopped) ∧ pool.sent = []

def close (pool : Pool) : Report :=
  { pool.report with cancelled := false }.finish

def pending (pool : Pool) : List SourceFile :=
  pool.waiting ++ pool.queue ++ pool.workers.flatMap Worker.files

def outcomes (pool : Pool) : List FileOutcome :=
  pool.workers.flatMap Worker.outcomes ++ pool.sent

/-! ### Less and less to do -/

def load (pool : Pool) : Nat :=
  (pool.waiting.map fun file => pool.context.toDo file + 1).sum +
    (pool.queue.map pool.context.toDo).sum + (pool.workers.map pool.context.effort).sum +
    pool.sent.length

theorem Step.load_lt (step : Step pool next) : next.load < pool.load := by
  cases step with
  | feed waits room =>
      simp only [load, waits, List.map_cons, List.map_append, List.map_nil, List.sum_cons,
        List.sum_append, List.sum_nil]
      omega
  | take queued free =>
      simp only [load, queued, free, RunContext.effort, List.map_cons, List.map_append, List.sum_cons,
        List.sum_append]
      omega
  | work busy moves =>
      have less := (RunContext.effort_of_work moves).2
      simp only [load, busy, List.map_cons, List.map_append, List.sum_cons, List.sum_append]
      omega
  | send finished =>
      simp only [load, finished, RunContext.effort, List.map_cons, List.map_append, List.sum_cons,
        List.sum_append, List.length_append, List.length_singleton]
      omega
  | collect arrives =>
      simp only [load, arrives, List.length_append, List.length_cons]
      omega
  | stop fed drained free =>
      simp only [load, free, RunContext.effort, List.map_cons, List.map_append, List.sum_cons,
        List.sum_append]
      omega

theorem step_wellFounded : WellFounded fun next pool : Pool => Step pool next :=
  Subrelation.wf (fun step => step.load_lt) (measure load).wf

theorem isOver_or_step (room : 0 < pool.capacity) : pool.IsOver ∨ ∃ next, Step pool next := by
  cases sent : pool.sent with
  | cons outcome others => exact Or.inr ⟨_, @Step.collect pool outcome [] others sent⟩
  | nil =>
      by_cases stopped : ∀ worker ∈ pool.workers, worker = .stopped
      · exact Or.inl ⟨stopped, sent⟩
      · obtain ⟨worker, member, running⟩ : ∃ worker ∈ pool.workers, worker ≠ .stopped := by
          simpa only [not_forall, exists_prop] using stopped
        refine Or.inr ?_
        obtain ⟨before, after, split⟩ := List.append_of_mem member
        rcases pool.context.work_cases pool.shared worker with
          rfl | ⟨outcome, rfl⟩ | rfl | ⟨next, later, moves⟩
        · cases queued : pool.queue with
          | cons file files => exact ⟨_, @Step.take pool file [] files before after queued split⟩
          | nil =>
              cases waits : pool.waiting with
              | nil => exact ⟨_, .stop waits queued split⟩
              | cons file files => exact ⟨_, .feed waits (by rw [queued]; exact room)⟩
        · exact ⟨_, .send split⟩
        · exact absurd rfl running
        · exact ⟨_, .work split moves⟩

/-! ### What a step does to the files and their outcomes -/

/-- The memo is faithful, and so is what the workers have found. -/
def Consistent (pool : Pool) : Prop :=
  pool.context.Faithful pool.shared.memo ∧
    ∀ worker ∈ pool.workers, worker.Consistent pool.context

/-- When one worker is replaced, the others are those that were there. -/
theorem mem_replaced {before after : List Worker} {old new worker : Worker}
    (place : pool.workers = before ++ old :: after) (member : worker ∈ before ++ new :: after) :
    worker = new ∨ worker ∈ pool.workers := by
  rw [place]
  rcases List.mem_append.mp member with first | rest
  · exact Or.inr (List.mem_append_left _ first)
  · rcases List.mem_cons.mp rest with same | last
    · exact Or.inl same
    · exact Or.inr (List.mem_append_right _ (List.mem_cons_of_mem _ last))

theorem Step.consistent (step : Step pool next) (consistent : pool.Consistent) :
    next.Consistent := by
  obtain ⟨faithful, known⟩ := consistent
  have replaced {before after : List Worker} {old new : Worker}
      (place : pool.workers = before ++ old :: after) (fine : new.Consistent pool.context) :
      ∀ worker ∈ before ++ new :: after, worker.Consistent pool.context := by
    intro worker member
    rcases mem_replaced place member with rfl | among
    · exact fine
    · exact known worker among
  cases step with
  | feed waits room => exact ⟨faithful, known⟩
  | take queued free => exact ⟨faithful, replaced free trivial⟩
  | work busy moves =>
      have here := known _ (busy ▸ List.mem_append_right _ List.mem_cons_self)
      obtain ⟨fine, kept, _⟩ := here.work faithful moves
      exact ⟨kept, replaced busy fine⟩
  | send finished => exact ⟨faithful, replaced finished trivial⟩
  | collect arrives => exact ⟨faithful, known⟩
  | stop fed drained free => exact ⟨faithful, replaced free trivial⟩

/-- A step moves files and outcomes about, or finishes a file, or records an outcome. -/
theorem Step.ledger (step : Step pool next) (consistent : pool.Consistent) :
    (pool.pending.Perm next.pending ∧ pool.outcomes.Perm next.outcomes ∧
        next.shared.disk = pool.shared.disk ∧ next.report = pool.report) ∨
      (∃ file, pool.pending.Perm (file :: next.pending) ∧
        next.outcomes.Perm ((pool.context.conclude pool.shared.disk file
          (pool.context.prepare {} file).1).1 :: pool.outcomes) ∧
        next.shared.disk =
          (pool.context.conclude pool.shared.disk file (pool.context.prepare {} file).1).2 ∧
        next.report = pool.report) ∨
      ∃ outcome, pool.pending.Perm next.pending ∧ pool.outcomes.Perm (outcome :: next.outcomes) ∧
        next.shared.disk = pool.shared.disk ∧ next.report = pool.report.record outcome := by
  classical
  cases step with
  | feed waits room =>
      refine Or.inl ⟨?_, .refl _, rfl, rfl⟩
      simp only [pending, waits, List.perm_iff_count, List.count_append, List.count_cons,
        List.count_nil]
      omega
  | take queued free =>
      refine Or.inl ⟨?_, ?_, rfl, rfl⟩
      · simp only [pending, queued, free, List.flatMap_append, List.flatMap_cons, Worker.files,
          List.perm_iff_count, List.count_append, List.count_cons, List.count_nil]
        omega
      · simp only [outcomes, free, List.flatMap_append, List.flatMap_cons, Worker.outcomes]
        exact .refl _
  | work busy moves =>
      have here := consistent.2 _ (busy ▸ List.mem_append_right _ List.mem_cons_self)
      obtain ⟨_, _, same | ⟨file, rfl, rfl, written⟩⟩ := here.work consistent.1 moves
      · obtain ⟨files, sent, disk⟩ := same
        refine Or.inl ⟨?_, ?_, disk, rfl⟩
        · simp only [pending, busy, List.flatMap_append, List.flatMap_cons, files]
          exact .refl _
        · simp only [outcomes, busy, List.flatMap_append, List.flatMap_cons, sent]
          exact .refl _
      · refine Or.inr (Or.inl ⟨file, ?_, ?_, written, rfl⟩)
        · simp only [pending, busy, List.flatMap_append, List.flatMap_cons, Worker.files,
            List.perm_iff_count, List.count_append, List.count_cons, List.count_nil]
          omega
        · simp only [outcomes, busy, List.flatMap_append, List.flatMap_cons, Worker.outcomes,
            List.perm_iff_count, List.count_append, List.count_cons, List.count_nil]
          omega
  | send finished =>
      refine Or.inl ⟨?_, ?_, rfl, rfl⟩
      · simp only [pending, finished, List.flatMap_append, List.flatMap_cons, Worker.files]
        exact .refl _
      · simp only [outcomes, finished, List.flatMap_append, List.flatMap_cons, Worker.outcomes,
          List.perm_iff_count, List.count_append, List.count_cons, List.count_nil]
        omega
  | collect arrives =>
      refine Or.inr (Or.inr ⟨_, .refl _, ?_, rfl, rfl⟩)
      simp only [outcomes, arrives, List.perm_iff_count, List.count_append, List.count_cons]
      omega
  | stop fed drained free =>
      refine Or.inl ⟨?_, ?_, rfl, rfl⟩
      · simp only [pending, free, List.flatMap_append, List.flatMap_cons, Worker.files]
        exact .refl _
      · simp only [outcomes, free, List.flatMap_append, List.flatMap_cons, Worker.outcomes]
        exact .refl _

/-! ### What a step leaves as it is -/

theorem Step.frame (step : Step pool next) :
    next.context = pool.context ∧ next.capacity = pool.capacity := by
  cases step <;> exact ⟨rfl, rfl⟩

theorem Step.staffed (step : Step pool next) (staffed : pool.workers ≠ []) :
    next.workers ≠ [] := by
  cases step with
  | feed waits room => exact staffed
  | collect arrives => exact staffed
  | take queued free => simp
  | work busy moves => simp
  | send finished => simp
  | stop fed drained free => simp

/-- A worker stops only when no file is left to be taken, and then none ever is. -/
theorem Step.idle (step : Step pool next)
    (idle : .stopped ∈ pool.workers → pool.waiting = [] ∧ pool.queue = []) :
    .stopped ∈ next.workers → next.waiting = [] ∧ next.queue = [] := by
  intro stopped
  have earlier {before after : List Worker} {old new : Worker}
      (place : pool.workers = before ++ old :: after) (running : new ≠ .stopped)
      (member : .stopped ∈ before ++ new :: after) : pool.waiting = [] ∧ pool.queue = [] := by
    rcases mem_replaced place member with same | among
    · exact absurd same.symm running
    · exact idle among
  cases step with
  | feed waits room =>
      rw [(idle stopped).1] at waits
      cases waits
  | take queued free =>
      rw [(earlier free (by rintro ⟨⟩) stopped).2] at queued
      simp at queued
  | work busy moves =>
      refine earlier busy ?_ stopped
      rintro rfl
      exact Nat.lt_irrefl 0 (RunContext.effort_of_work moves).1
  | send finished => exact earlier finished (by rintro ⟨⟩) stopped
  | collect arrives => exact idle stopped
  | stop fed drained free => exact ⟨fed, drained⟩

end Pool

end AgentProbe
