import AgentProbe.Proofs.Detection.Grading
import AgentProbe.Proofs.Plan.Draft
import AgentProbe.Proofs.Run.Accounting
import AgentProbe.Proofs.Run.Course
import AgentProbe.Proofs.Syntax.Reference

set_option autoImplicit false

/-!
Which files a run may touch.

A framework has a part in the plan of a file only by a call that goes through an import of its own;
frameworks without such a call might as well not have been asked.  So a file that was modified calls
a framework that was found, is in scope and has a pattern, whoever worked on the file and whenever.
-/

namespace AgentProbe

open Syntax (SyntaxTree Import Call)

/-! ### Comparing scores -/

section

open Float.Model (UnpackedFloat)

private theorem compare_swap (left right : UnpackedFloat) :
    right.compare left = (left.compare right).map Ordering.swap := by
  cases left with
  | notANumber => cases right <;> rfl
  | infinity first =>
      cases right with
      | notANumber => cases first <;> rfl
      | infinity second => cases first <;> cases second <;> rfl
      | zero second => cases first <;> rfl
      | finite second => cases first <;> cases second <;> rfl
  | zero first =>
      cases right with
      | notANumber => rfl
      | infinity second => cases second <;> rfl
      | zero second => rfl
      | finite second => cases second <;> rfl
  | finite first mantissa exponent =>
      cases right with
      | notANumber => rfl
      | infinity second => cases first <;> cases second <;> rfl
      | zero second => cases first <;> rfl
      | finite second otherMantissa otherExponent =>
          have magnitude : (compare otherExponent exponent).then (compare otherMantissa mantissa) =
              ((compare exponent otherExponent).then (compare mantissa otherMantissa)).swap := by
            rw [Ordering.swap_then, Int.compare_swap, Nat.compare_swap]
          cases first with
          | negative =>
              cases second with
              | negative => exact congrArg (fun order => some order.swap) magnitude
              | positive => rfl
          | positive =>
              cases second with
              | negative => rfl
              | positive => exact congrArg some magnitude

private theorem compare_isSome {left right : UnpackedFloat} (leftNumber : left ≠ .notANumber)
    (rightNumber : right ≠ .notANumber) : (left.compare right).isSome = true := by
  cases left with
  | notANumber => exact absurd rfl leftNumber
  | infinity sign =>
      cases right with
      | notANumber => exact absurd rfl rightNumber
      | infinity => cases sign <;> rfl
      | zero => cases sign <;> rfl
      | finite => cases sign <;> rfl
  | zero sign =>
      cases right with
      | notANumber => exact absurd rfl rightNumber
      | infinity other => cases other <;> rfl
      | zero => rfl
      | finite other => cases other <;> rfl
  | finite sign =>
      cases right with
      | notANumber => exact absurd rfl rightNumber
      | infinity other => cases sign <;> cases other <;> rfl
      | zero => cases sign <;> rfl
      | finite other => cases sign <;> cases other <;> rfl

private theorem ne_notANumber {bound value : Float} (above : bound ≤ value) :
    value.toModel.unpack ≠ .notANumber := by
  intro same
  have compared := of_decide_eq_true (show decide (UnpackedFloat.le _ _ = true) = true from above)
  rw [same] at compared
  cases bounded : bound.toModel.unpack <;> rw [bounded] at compared <;> cases compared

/-- Floating-point numbers that are not smaller are at least as great.  Each has to have a lower
bound, which tells that it is a number. -/
theorem float_le_of_not_lt {bound x y : Float} (left : bound ≤ x) (right : bound ≤ y)
    (above : ¬ x < y) : y ≤ x := by
  have comparable := compare_isSome (ne_notANumber left) (ne_notANumber right)
  obtain ⟨order, known⟩ := Option.isSome_iff_exists.mp comparable
  change decide (UnpackedFloat.le _ _ = true) = true
  change ¬ decide (UnpackedFloat.lt _ _ = true) = true at above
  rw [decide_eq_true_eq] at above ⊢
  unfold UnpackedFloat.lt at above
  unfold UnpackedFloat.le
  rw [known] at above
  rw [compare_swap, known]
  cases order with
  | lt => exact absurd rfl above
  | eq => rfl
  | gt => rfl

end

theorem Settings.minConfidence_nonneg {settings : Settings} (valid : settings.validate = .ok ()) :
    0.0 ≤ settings.minConfidence := by
  by_contra below
  have outside : ∃ fault, settings.fault? = some fault := by
    unfold Settings.fault?
    split
    · exact ⟨_, rfl⟩
    · rw [decide_eq_false below]
      exact ⟨_, rfl⟩
  obtain ⟨fault, found⟩ := outside
  rw [Settings.validate, found] at valid
  cases valid

/-! ### Calls into a framework -/

/-- A call goes through an import if that binds the first segment of its callee, or if it is a
wildcard and the callee has no dot. -/
def Syntax.Call.GoesThrough (call : Call) (entry : Import) : Prop :=
  Syntax.firstSegment call.callee ∈ entry.bindings ∨
    "*" ∈ entry.bindings ∧ '.' ∉ call.callee.toList

def Syntax.SyntaxTree.CallsInto (tree : SyntaxTree) (signature : Signature)
    (callees : List String) : Prop :=
  ∃ entry ∈ tree.imports, signature.matchesModule entry.module = true ∧
    ∃ call ∈ tree.allCalls, (∃ callee ∈ callees, call.isNamedBy callee = true) ∧
      call.GoesThrough entry

/-- The callees in force: the pattern's own if it names any, else the anchors of the framework. -/
def Pattern.callees (pattern : Pattern) (signature : Signature) : List String :=
  match pattern.callSite with
  | some rule => if rule.callees.isEmpty then signature.anchors else rule.callees
  | none => signature.anchors

/-- No placeholder stands in a callee. -/
theorem PlanInput.callees_eq (input : PlanInput) :
    input.callees = input.pattern.callees input.signature := by
  unfold PlanInput.callees PlanInput.rendered Pattern.render Pattern.callees
  cases input.pattern.callSite <;> rfl

theorem Syntax.SyntaxTree.rootBinding_of_mem {tree : SyntaxTree} {call : Call}
    (member : call ∈ tree.allCalls) : call.rootBinding = Syntax.firstSegment call.callee := by
  obtain ⟨node, path, _, read⟩ := SyntaxTree.mem_allCalls member
  unfold SyntaxTree.callAt at read
  split at read
  · cases read
    rfl
  · cases read

theorem exists_goesThrough {imports : List Import} {signature : Signature} {call : Call}
    (rooted : call.rootBinding = Syntax.firstSegment call.callee)
    (eligible : isEligible (frameworkBindings imports signature) call = true) :
    ∃ entry ∈ imports, signature.matchesModule entry.module = true ∧ call.GoesThrough entry := by
  have bound {name : String} (member : name ∈ frameworkBindings imports signature) :
      ∃ entry ∈ imports, signature.matchesModule entry.module = true ∧ name ∈ entry.bindings := by
    obtain ⟨entry, matched, binds⟩ := List.mem_flatMap.mp member
    obtain ⟨among, own⟩ := List.mem_filter.mp matched
    exact ⟨entry, among, own, binds⟩
  unfold isEligible at eligible
  rcases Bool.or_eq_true_iff.mp eligible with direct | wild
  · obtain ⟨entry, among, own, binds⟩ := bound (List.contains_iff_mem.mp direct)
    rw [rooted] at binds
    exact ⟨entry, among, own, Or.inl binds⟩
  · obtain ⟨star, undotted⟩ := Bool.and_eq_true_iff.mp wild
    obtain ⟨entry, among, own, binds⟩ := bound (List.contains_iff_mem.mp star)
    refine ⟨entry, among, own, Or.inr ⟨binds, ?_⟩⟩
    intro dotted
    rw [List.contains_iff_mem.mpr dotted] at undotted
    cases undotted

theorem callsInto_of_anchorCall? {tree : SyntaxTree} {signature : Signature}
    {callees : List String} {anchor : Call}
    (found : anchorCall? tree tree.imports signature callees = some anchor) :
    tree.CallsInto signature callees := by
  simp only [anchorCall?] at found
  split at found
  · cases found
  · obtain ⟨callee, among, first⟩ := List.exists_of_findSome?_eq_some found
    have ranked := (List.mergeSort_perm _ _).mem_iff.mp (List.mem_of_mem_head? first)
    obtain ⟨called, eligible⟩ := List.mem_filter.mp ranked
    obtain ⟨present, named⟩ := List.mem_filter.mp called
    have rooted := SyntaxTree.rootBinding_of_mem present
    obtain ⟨entry, imported, own, through⟩ := exists_goesThrough rooted eligible
    exact ⟨entry, imported, own, anchor, present, ⟨callee, among, named⟩, through⟩

/-! ### Who has a part in a plan -/

def PlanInput.isAnchoredIn (input : PlanInput) (tree : SyntaxTree) : Bool :=
  (anchorCall? tree tree.imports input.signature input.callees).isSome

theorem PlanInput.callsInto {input : PlanInput} {tree : SyntaxTree}
    (anchored : input.isAnchoredIn tree = true) :
    tree.CallsInto input.signature (input.pattern.callees input.signature) := by
  obtain ⟨anchor, found⟩ := Option.isSome_iff_exists.mp anchored
  rw [input.callees_eq] at found
  exact callsInto_of_anchorCall? found

/-- One framework's call does nothing for another: a plan is that of the anchored inputs alone. -/
theorem planFile_filter (targets : List Target) (path : String) (tree : SyntaxTree)
    (inputs : List PlanInput) :
    planFile targets path tree (inputs.filter fun input => input.isAnchoredIn tree) =
      planFile targets path tree inputs := by
  have idle (draft : Draft) (input : PlanInput) (absent : input.isAnchoredIn tree = false) :
      draft.addInput tree tree.imports (Block.ofText tree.source) targets input = .ok draft := by
    have none := Option.isSome_eq_false_iff.mp absent
    rw [Option.isNone_iff_eq_none] at none
    rw [Draft.addInput, none]
  simp only [planFile, Sequencing.foldlM_filter idle]

theorem planFile_nil (targets : List Target) (path : String) (tree : SyntaxTree) :
    (planFile targets path tree []).isEmpty = true := by
  change (EditPlan.number 0 ([].mergeSort fun left right => _)).isEmpty = true
  rw [List.mergeSort_nil]
  rfl

theorem exists_isAnchoredIn {targets : List Target} {path : String} {tree : SyntaxTree}
    {inputs : List PlanInput} (touched : (planFile targets path tree inputs).isEmpty = false) :
    ∃ input ∈ inputs, input.isAnchoredIn tree = true := by
  by_contra nobody
  have none : (inputs.filter fun input => input.isAnchoredIn tree) = [] := by
    rw [List.filter_eq_nil_iff]
    intro input member anchored
    exact nobody ⟨input, member, anchored⟩
  rw [← planFile_filter, none, planFile_nil] at touched
  cases touched

/-! ### One file -/

namespace RunContext

variable {context : RunContext} {file : SourceFile}

/-- A framework licenses edits of a file: it is in the catalog, has a pattern, and the file calls
into it. -/
def Licenses (context : RunContext) (file : SourceFile) (found : FrameworkMatch Float) : Prop :=
  ∃ signature, context.catalog.get? found.framework = some signature ∧
    ∃ pattern,
      PatternRequest.answer context.source
        { framework := found.framework, version := found.version, platform := context.platform
          targets := context.targets } = .ok pattern ∧
      file.tree.CallsInto signature (pattern.callees signature)

theorem mem_usages {usage : Usage} (member : usage ∈ context.usages file) :
    ∃ found ∈ context.selected, context.catalog.get? found.framework = some usage.signature ∧
      usage.framework = found.framework ∧ usage.version = found.version := by
  obtain ⟨found, selected, made⟩ := List.mem_filterMap.mp member
  split at made
  · cases made
  · obtain ⟨signature, known, same⟩ := Option.map_eq_some_iff.mp made
    subst same
    exact ⟨found, selected, known, rfl, rfl⟩

theorem mem_gather {outcome : FileOutcome} {usages : List Usage} {input : PlanInput}
    (member : input ∈ (context.gather outcome usages).1) :
    ∃ usage ∈ usages, ∃ pattern,
      (context.request usage).answer context.source = .ok pattern ∧
        input = context.input usage pattern := by
  induction usages generalizing outcome with
  | nil => cases member
  | cons usage usages ih =>
      rw [gather] at member
      split at member
      · rename_i pattern answered
        rcases List.mem_cons.mp member with rfl | later
        · exact ⟨usage, List.mem_cons_self, pattern, answered, rfl⟩
        · obtain ⟨other, among, rest⟩ := ih later
          exact ⟨other, List.mem_cons_of_mem usage among, rest⟩
      · obtain ⟨other, among, rest⟩ := ih member
        exact ⟨other, List.mem_cons_of_mem usage among, rest⟩

theorem plan?_licensed {plan : EditPlan} (planned : context.plan? {} file = some plan)
    (touched : plan.isEmpty = false) : ∃ found ∈ context.selected, context.Licenses file found := by
  have gathered : (context.resolve {} (detected file) (context.usages file)).1 =
      (context.gather (detected file) (context.usages file)).1 := by
    rw [← ((Faithful.empty context).resolve_eq_gather (detected file) (context.usages file)).1]
  unfold plan? at planned
  split at planned
  · split at planned
    · cases planned
    · cases planned
      obtain ⟨input, member, anchored⟩ := exists_isAnchoredIn touched
      rw [gathered] at member
      obtain ⟨usage, used, pattern, answered, rfl⟩ := mem_gather member
      obtain ⟨found, selected, known, framework, version⟩ := mem_usages used
      refine ⟨found, selected, usage.signature, known, pattern, ?_, PlanInput.callsInto anchored⟩
      rw [← framework, ← version]
      exact answered
  · cases planned

theorem preparePlan_eq_ready {plan : EditPlan} {outcome later : FileOutcome} {text : Text}
    (ready : context.preparePlan file plan outcome = .ready later text) :
    plan.isEmpty = false := by
  unfold preparePlan at ready
  split at ready
  · cases ready
  · split at ready
    · cases ready
    · rename_i edits
      exact Bool.not_eq_true _ ▸ edits

/-- Only a file that some framework in scope licenses to edit is committed. -/
theorem conclude_licensed {disk : Disk}
    (committed : (context.conclude disk file (context.prepare {} file).1).1.state = .committed) :
    ∃ found ∈ context.selected, context.Licenses file found := by
  have sound := context.prepare_sound {} file
  cases prepared : (context.prepare {} file).1 with
  | ended outcome =>
      rw [prepared] at committed sound
      exact absurd committed sound.2
  | ready outcome text =>
      rcases context.prepare_cases {} file with
        ⟨_, skipped, _, same⟩ | ⟨plan, planned, before, _, same⟩
      · rw [prepared] at same
        cases same
      · rw [prepared] at same
        exact plan?_licensed planned (preparePlan_eq_ready same.symm)

theorem conclude_path (context : RunContext) (disk : Disk) (file : SourceFile) :
    (context.conclude disk file (context.prepare {} file).1).1.path = file.path := by
  obtain ⟨written, same⟩ := context.conclude_eq_settle disk file (context.prepare {} file).1
  obtain ⟨state, errors, arrives, _⟩ := settle_ends (context.prepare_ends {} file) written
  rw [same]
  exact FileOutcome.path_of_steps arrives.steps

/-! ### Many files -/

def Licensed (context : RunContext) (files : List SourceFile) (path : Path) : Prop :=
  ∃ file ∈ files, file.path = path ∧ ∃ found ∈ context.selected, context.Licenses file found

def Restrained (context : RunContext) (files : List SourceFile) (outcome : FileOutcome) : Prop :=
  outcome.state = .committed → context.Licensed files outcome.path

theorem conclude_restrained {files : List SourceFile} (member : file ∈ files) (disk : Disk) :
    context.Restrained files (context.conclude disk file (context.prepare {} file).1).1 := by
  intro committed
  exact ⟨file, member, (context.conclude_path disk file).symm, conclude_licensed committed⟩

theorem processAll_restrained {shared : Shared} {files order : List SourceFile}
    (faithful : context.Faithful shared.memo) (among : ∀ file ∈ order, file ∈ files) :
    ∀ outcome ∈ (context.processAll shared order).1, context.Restrained files outcome := by
  induction order generalizing shared with
  | nil =>
      intro outcome member
      cases member
  | cons file order ih =>
      obtain ⟨prepared, kept⟩ := faithful.prepare file
      have first : (context.process shared file).1 =
          (context.conclude shared.disk file (context.prepare {} file).1).1 := by
        rw [← prepared]
        rfl
      intro outcome member
      change outcome ∈ (context.process shared file).1 ::
        (context.processAll (context.process shared file).2 order).1 at member
      rw [first] at member
      rcases List.mem_cons.mp member with rfl | later
      · exact conclude_restrained (among file List.mem_cons_self) shared.disk
      · have rest (other : SourceFile) (member : other ∈ order) : other ∈ files :=
          among other (List.mem_cons_of_mem file member)
        exact ih kept rest outcome later

end RunContext

theorem Report.after_modified {report : Report} {outcomes : List FileOutcome} {path : Path}
    (member : path ∈ (report.after outcomes).modified) :
    path ∈ report.modified ∨
      ∃ outcome ∈ outcomes, outcome.state = .committed ∧ outcome.path = path := by
  rw [← Report.foldl_record] at member
  exact Report.mem_modified.mp member

/-! ### Many workers -/

namespace Pool

variable {pool next : Pool} {context : RunContext} {files : List SourceFile}
  {frameworks : List (FrameworkMatch Float)}

/-- Nothing was committed without a license, and nothing will be. -/
structure InScope (context : RunContext) (files : List SourceFile)
    (frameworks : List (FrameworkMatch Float)) (pool : Pool) : Prop where
  same : pool.context = context
  consistent : pool.Consistent
  pending : ∀ file ∈ pool.pending, file ∈ files
  outcomes : ∀ outcome ∈ pool.outcomes, context.Restrained files outcome
  modified : ∀ path ∈ pool.report.modified, context.Licensed files path
  frameworks : pool.report.frameworks = frameworks

theorem InScope.step (scope : InScope context files frameworks pool) (step : Step pool next) :
    InScope context files frameworks next := by
  obtain ⟨rfl, consistent, pending, outcomes, modified, found⟩ := scope
  have context := step.frame.1
  have later := step.consistent consistent
  rcases step.ledger consistent with
    ⟨kept, moved, _, report⟩ | ⟨file, finished, added, _, report⟩ |
      ⟨outcome, kept, taken, _, report⟩
  · refine ⟨context, later, ?_, ?_, report ▸ modified, report ▸ found⟩
    · intro file member
      exact pending file (kept.mem_iff.mpr member)
    · intro outcome member
      exact outcomes outcome (moved.mem_iff.mpr member)
  · refine ⟨context, later, ?_, ?_, report ▸ modified, report ▸ found⟩
    · intro other member
      exact pending other (finished.mem_iff.mpr (List.mem_cons_of_mem file member))
    · intro outcome member
      rcases List.mem_cons.mp (added.mem_iff.mp member) with rfl | old
      · have among := pending file (finished.mem_iff.mpr List.mem_cons_self)
        exact RunContext.conclude_restrained among pool.shared.disk
      · exact outcomes outcome old
  · rw [Report.record_eq_after] at report
    refine ⟨context, later, ?_, ?_, ?_, ?_⟩
    · intro file member
      exact pending file (kept.mem_iff.mpr member)
    · intro other member
      exact outcomes other (taken.mem_iff.mpr (List.mem_cons_of_mem outcome member))
    · intro path member
      rw [report] at member
      rcases Report.after_modified member with old | ⟨other, recorded, committed, rfl⟩
      · exact modified path old
      · rw [List.mem_singleton.mp recorded] at committed ⊢
        exact outcomes outcome (taken.mem_iff.mpr List.mem_cons_self) committed
    · rw [report]
      exact found

theorem InScope.reached (scope : InScope context files frameworks pool)
    (reaches : Relation.ReflTransGen Step pool next) : InScope context files frameworks next := by
  induction reaches with
  | refl => exact scope
  | tail _ step ih => exact ih.step step

end Pool

/-! ### Every run -/

namespace Setup

variable {setup : Setup} {disk : Disk} {root : Path} {report : Report} {scan : Scan}

/-- The reports of a project: that of a run that takes the files one after another, cancelled or
not, and that of a run by many workers at any moment. -/
inductive Reports (setup : Setup) (disk : Disk) (root : Path) : Report → Prop
  | alone {limit : Option Nat} {execution : Execution}
      (ran : setup.run disk root limit = .ok execution) : Reports setup disk root execution.report
  | together {jobs : Nat} {pool reached : Pool}
      (opened : setup.openPool disk root jobs = .ok pool)
      (reaches : Relation.ReflTransGen Pool.Step pool reached) :
      Reports setup disk root reached.close

theorem pool_inScope (setup : Setup) (disk : Disk) (platform : Platform) (root : Path) (scan : Scan)
    (jobs : Nat) :
    (setup.pool disk platform root scan jobs).InScope
      (setup.context disk platform scan.detection.found) scan.files scan.detection.found := by
  have jobless (worker : Worker)
      (member : worker ∈ (setup.pool disk platform root scan jobs).workers) : worker = .idle :=
    List.eq_of_mem_replicate member
  refine ⟨rfl, ⟨.empty _, ?_⟩, ?_, ?_, ?_, rfl⟩
  · intro worker member
    rw [jobless worker member]
    trivial
  · intro file member
    rcases List.mem_append.mp member with fed | held
    · exact List.append_nil scan.files ▸ fed
    · obtain ⟨worker, among, holds⟩ := List.mem_flatMap.mp held
      rw [jobless worker among] at holds
      cases holds
  · intro outcome member
    rcases List.mem_append.mp member with held | sent
    · obtain ⟨worker, among, holds⟩ := List.mem_flatMap.mp held
      rw [jobless worker among] at holds
      cases holds
    · cases sent
  · intro path member
    cases member

theorem execute_licensed {platform : Platform} {order : List SourceFile} {cancelled : Bool}
    (among : ∀ file ∈ order, file ∈ scan.files) :
    ∀ path ∈ (setup.execute disk platform root scan order cancelled).report.modified,
      (setup.context disk platform scan.detection.found).Licensed scan.files path := by
  intro path member
  obtain ⟨outcome, recorded, committed, rfl⟩ := mem_execute_modified.mp member
  exact RunContext.processAll_restrained (.empty _) among outcome recorded committed

/-- What is known of a report: the platform and the scan that it is about, and that no file was
modified without a license. -/
theorem Reports.licensed (reports : setup.Reports disk root report) :
    ∃ platform scan, setup.registry.get setup.settings.platform = .ok platform ∧
      setup.scan disk root = .ok scan ∧ report.frameworks = scan.detection.found ∧
      ∀ path ∈ report.modified,
        (setup.context disk platform scan.detection.found).Licensed scan.files path := by
  cases reports with
  | alone ran =>
      obtain ⟨platform, scan, order, registered, scanned, among, rfl⟩ := run_eq_ok ran
      refine ⟨platform, scan, registered, scanned, ?_, execute_licensed among⟩
      simp only [execute, Report.foldl_record]
      rfl
  | @together jobs pool reached opened reaches =>
      obtain ⟨platform, scan, registered, scanned, _, rfl⟩ := openPool_eq_ok opened
      have scope := (setup.pool_inScope disk platform root scan jobs).reached reaches
      refine ⟨platform, scan, registered, scanned, scope.frameworks, ?_⟩
      intro path member
      exact scope.modified path ((List.mergeSort_perm _ _).mem_iff.mp member)

theorem confidence_nonneg (scanned : setup.scan disk root = .ok scan)
    {found : FrameworkMatch Float} (member : found ∈ scan.detection.found) :
    0.0 ≤ found.confidence := by
  rw [scan_eq_ok scanned] at member
  have graded := detect_grades_of_fits Scoring.floating_fits setup.catalog
    (setup.manifest disk root)
    (setup.scanFiles disk root (disk.pythonFiles (Glob.excludes setup.excludes) root)).files
  obtain ⟨_, _, grades⟩ := graded.grades found member
  exact grades.lower

theorem selects_iff {found : FrameworkMatch Float} :
    setup.selects found = true ↔ setup.settings.includes found.framework = true ∧
      ¬ found.confidence < setup.settings.minConfidence ∧
      (setup.catalog.get? found.framework).isSome = true := by
  simp only [selects, Bool.and_eq_true, Bool.not_eq_true', decide_eq_false_iff_not, and_assoc]

/-- A file is modified only if it calls a framework that is in scope.  Some framework that was found
is included by the settings, at least as certain as they ask for and in the catalog; and the file
imports it and calls, through that import, one of the callees that its pattern puts in force. -/
theorem modified_only_licensed {path : Path} (valid : setup.settings.validate = .ok ())
    (reports : setup.Reports disk root report) (modified : path ∈ report.modified) :
    ∃ file platform, SourceFile.load disk path = .ok file ∧
      setup.registry.get setup.settings.platform = .ok platform ∧
      ∃ found ∈ report.frameworks, setup.settings.includes found.framework = true ∧
        setup.settings.minConfidence ≤ found.confidence ∧
        ∃ signature, setup.catalog.get? found.framework = some signature ∧
          ∃ pattern,
            PatternRequest.answer (setup.source disk)
              { framework := found.framework, version := found.version, platform
                targets := setup.settings.targets } = .ok pattern ∧
            file.tree.CallsInto signature (pattern.callees signature) := by
  obtain ⟨platform, scan, registered, scanned, frameworks, licensed⟩ := reports.licensed
  obtain ⟨file, among, rfl, found, selected, licenses⟩ := licensed path modified
  obtain ⟨member, inScope⟩ := List.mem_filter.mp selected
  obtain ⟨included, above, _⟩ := selects_iff.mp inScope
  refine ⟨file, platform, (mem_scan_files scanned among).2, registered, found, ?_, included, ?_,
    licenses⟩
  · rw [frameworks]
    exact member
  · exact float_le_of_not_lt (confidence_nonneg scanned member)
      (Settings.minConfidence_nonneg valid) above

end Setup

def aliasFile : SourceFile :=
  .ofText ⟨"./agent.py"⟩ "import agents as a\na.Agent()\n".toList

def aliasProject : Disk :=
  { top := .directory [("agent.py", .file 0o644 (Utf8.encode aliasFile.text))] }

def narrowSetup : Setup :=
  { settings := { Settings.preset .standard with
      frameworks := ["openai-agents"], excludes := [], minConfidence := 0.7, dryRun := true }
    registry := { platforms := [Platform.langfuse] }, excludes := []
    catalog := { signatures :=
      [{ name := "openai-agents", packages := ["openai-agents"], modules := ["agents"] }] }
    source := fun _ => some fun _ _ _ =>
      .ok { callSite := some { callees := ["Agent"], keyword := "trace", value := "1" } }
    manifest := fun _ _ => .ok (.ofRequirements [{ name := "OpenAI_Agents", specifier := "==1" }])
    formatter := Formatter.ofWords [] }

private theorem aliasProject_load :
    SourceFile.load aliasProject aliasFile.path = .ok aliasFile :=
  soloProject_load aliasFile.text

private theorem narrowSetup_scan :
    narrowSetup.scan aliasProject ⟨"."⟩ =
      .ok (narrowSetup.scanFiles aliasProject ⟨"."⟩ [aliasFile.path]) :=
  Setup.scan_soloProject rfl aliasFile.text

private theorem narrowSetup_commits :
    ∃ outcome ∈ ((narrowSetup.context aliasProject Platform.langfuse
        (detect Scoring.floating narrowSetup.catalog (narrowSetup.manifest aliasProject ⟨"."⟩)
          [aliasFile]).found).processAll { disk := aliasProject } [aliasFile]).1,
      outcome.state = .committed ∧ outcome.path = ⟨"./agent.py"⟩ := by
  decide +kernel

theorem modified_only_licensed_alias :
    narrowSetup.settings.validate = .ok () ∧
      ∃ report, narrowSetup.Reports aliasProject ⟨"."⟩ report ∧
        ⟨"./agent.py"⟩ ∈ report.modified ∧ ∃ found ∈ report.frameworks,
          narrowSetup.settings.includes found.framework = true ∧ 0.7 ≤ found.confidence := by
  have valid : narrowSetup.settings.validate = .ok () := rfl
  obtain ⟨scan, ran, detection⟩ : ∃ scan, narrowSetup.run aliasProject ⟨"."⟩ =
      .ok (narrowSetup.execute aliasProject Platform.langfuse ⟨"."⟩ scan [aliasFile] false) ∧
      scan.detection = detect Scoring.floating narrowSetup.catalog
        (narrowSetup.manifest aliasProject ⟨"."⟩) [aliasFile] := by
    refine ⟨narrowSetup.scanFiles aliasProject ⟨"."⟩ [aliasFile.path], ?_, ?_⟩
    · simp only [Setup.run, narrowSetup_scan, Setup.scanFiles, List.map_cons, List.map_nil,
        aliasProject_load]
      rfl
    · simp only [Setup.scanFiles, List.map_cons, List.map_nil, aliasProject_load]
      rfl
  have committed := narrowSetup_commits
  rw [← detection] at committed
  have modified : ⟨"./agent.py"⟩ ∈
      (narrowSetup.execute aliasProject Platform.langfuse ⟨"."⟩ scan [aliasFile]
        false).report.modified :=
    Setup.mem_execute_modified.mpr committed
  obtain ⟨_, _, _, _, found, member, included, above, _⟩ :=
    Setup.modified_only_licensed valid (.alone ran) modified
  exact ⟨valid, _, .alone ran, modified, found, member, included, above⟩

end AgentProbe
