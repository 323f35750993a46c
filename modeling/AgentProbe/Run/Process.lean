import AgentProbe.Files.Commit
import AgentProbe.Pattern.Memo
import AgentProbe.Plan.Planner
import AgentProbe.Run.Outcome
import AgentProbe.Run.Scan

set_option autoImplicit false

/-!
What a run does to one file.

A file is prepared without touching the file system: its patterns are resolved, its plan is made,
applied and validated.  Only a file whose new text was validated is written, and a dry run writes
none.
-/

namespace AgentProbe

structure RunContext where
  platform : Platform
  catalog : Catalog
  /-- The frameworks in scope. -/
  selected : List (FrameworkMatch Float)
  targets : List Target
  source : Option PatternSource
  formatter : Formatter
  dryRun : Bool

structure Usage where
  framework : String
  version : String
  signature : Signature
deriving DecidableEq, Repr, Inhabited

namespace RunContext

def usages (context : RunContext) (file : SourceFile) : List Usage :=
  context.selected.filterMap fun found =>
    if (found.evidenceIn file.path).isEmpty then none
    else (context.catalog.get? found.framework).map fun signature =>
      ⟨found.framework, found.version, signature⟩

def request (context : RunContext) (usage : Usage) : PatternRequest :=
  { framework := usage.framework, version := usage.version, platform := context.platform
    targets := context.targets }

def input (context : RunContext) (usage : Usage) (pattern : Pattern) : PlanInput :=
  { framework := usage.framework, version := usage.version, signature := usage.signature
    platform := context.platform.name, pattern }

def missing (context : RunContext) (usage : Usage) (error : PatternError) : Diagnostic :=
  { severity := .warning, stage := .pattern, message := error.message
    patternId := some (Pattern.defaultId context.platform.name usage.framework) }

/-- Resolves the patterns of some frameworks.  The outcome gets a diagnostic for each one that has
none. -/
def resolve (context : RunContext) (memo : PatternMemo) (outcome : FileOutcome) :
    List Usage → List PlanInput × FileOutcome × PatternMemo
  | [] => ([], outcome, memo)
  | usage :: usages =>
    match memo.resolve context.source (context.request usage) with
    | (.ok pattern, memo) =>
      let (inputs, rest) := context.resolve memo outcome usages
      (context.input usage pattern :: inputs, rest)
    | (.error error, memo) =>
      context.resolve memo (outcome.push (context.missing usage error)) usages

end RunContext

/-! ### Diagnostics of one file -/

def brokenBefore (first : Syntax.SyntaxTree.Fault) (count : Nat) : Diagnostic :=
  { severity := .warning, stage := .scan, line := some first.line
    message := "Source already contains " ++ toString count ++ " syntax error(s), first at line "
      ++ toString first.line }

def Conflict.diagnostic (conflict : Conflict) : Diagnostic :=
  { severity := .error, stage := .plan, message := conflict.message, line := some conflict.line
    patternId := some (",".intercalate conflict.patternIds) }

/-- The diagnostic for a plan that cannot be applied; it names the edit that is to blame. -/
def EditError.diagnostic (plan : EditPlan) (error : EditError) : Diagnostic :=
  let plain : Diagnostic := { severity := .error, stage := .inject, message := error.message }
  match error with
  | .inapplicable edit _ =>
    match plan.points.find? fun point => point.id == edit with
    | some point =>
      { plain with edit := some edit, patternId := some point.patternId, line := some point.line }
    | none => { plain with edit := some edit }
  | _ => plain

def Verdict.diagnostic (verdict : Verdict) (error : ValidationError) : Diagnostic :=
  let plain : Diagnostic := { severity := .error, stage := .validate, message := error.message }
  match verdict.culprit with
  | some culprit =>
    { plain with
      edit := some culprit.edit, patternId := some culprit.patternId, line := some culprit.line }
  | none => plain

def keptUnformatted (reason : String) : Diagnostic :=
  { severity := .warning, stage := .format, message := reason ++ "; kept unformatted output" }

def CommitError.diagnostic (error : CommitError) : Diagnostic :=
  { severity := .error, stage := .commit, message := error.message }

/-! ### Preparing and writing a file -/

inductive Prepared where
  /-- Nothing is to be written. -/
  | ended (outcome : FileOutcome)
  /-- The validated text is to be written. -/
  | ready (outcome : FileOutcome) (text : Text)
deriving DecidableEq, Repr, Inhabited

namespace RunContext

def prepareText (context : RunContext) (file : SourceFile) (plan : EditPlan)
    (injection : Injection) (outcome : FileOutcome) : Prepared :=
  let verdict := validate context.formatter file.text plan injection
  match verdict.error with
  | some error => .ended ((outcome.push (verdict.diagnostic error)).advance .rolledBack)
  | none =>
    let validated := outcome.advance .validated
    match verdict.formatError with
    | some reason => .ready (validated.push (keptUnformatted reason)) verdict.text
    | none => .ready validated verdict.text

def preparePlan (context : RunContext) (file : SourceFile) (plan : EditPlan)
    (outcome : FileOutcome) : Prepared :=
  match plan.conflict with
  | some conflict => .ended ((outcome.push conflict.diagnostic).advance .skipped)
  | none =>
    if plan.isEmpty then .ended (outcome.advance .skipped)
    else
      match inject file.tree plan with
      | .error error => .ended ((outcome.push (error.diagnostic plan)).advance .rolledBack)
      | .ok injection => context.prepareText file plan injection (outcome.advance .injected)

def prepareUsages (context : RunContext) (memo : PatternMemo) (file : SourceFile)
    (usages : List Usage) (outcome : FileOutcome) : Prepared × PatternMemo :=
  match context.resolve memo outcome usages with
  | ([], outcome, memo) => (.ended (outcome.advance .skipped), memo)
  | (inputs, outcome, memo) =>
    let plan := planFile context.targets file.path.text file.tree inputs
    (context.preparePlan file plan ({ outcome with platformUsed := true }.advance .planned), memo)

/-- Prepares a file.  One that uses no framework in scope, and one that has syntax errors already,
is skipped. -/
def prepare (context : RunContext) (memo : PatternMemo) (file : SourceFile) :
    Prepared × PatternMemo :=
  let outcome := ({ path := file.path } : FileOutcome).advance .detected
  match context.usages file with
  | [] => (.ended (outcome.advance .skipped), memo)
  | usages =>
    match file.tree.faults with
    | first :: others =>
      (.ended ((outcome.push (brokenBefore first (others.length + 1))).advance .skipped), memo)
    | [] => context.prepareUsages memo file usages outcome

def conclude (context : RunContext) (disk : Disk) (file : SourceFile) :
    Prepared → FileOutcome × Disk
  | .ended outcome => (outcome, disk)
  | .ready outcome text =>
    if context.dryRun then (outcome.advance .committed, disk)
    else
      match disk.commit file.path file.digest (Utf8.encode text) with
      | (.ok _, written) => (outcome.advance .committed, written)
      | (.error error, kept) => ((outcome.push error.diagnostic).advance .rolledBack, kept)

structure Shared where
  memo : PatternMemo := {}
  disk : Disk

def process (context : RunContext) (shared : Shared) (file : SourceFile) : FileOutcome × Shared :=
  let (prepared, memo) := context.prepare shared.memo file
  let (outcome, disk) := context.conclude shared.disk file prepared
  (outcome, { memo, disk })

def processAll (context : RunContext) (shared : Shared) : List SourceFile → List FileOutcome × Shared
  | [] => ([], shared)
  | file :: files =>
    let (outcome, shared) := context.process shared file
    let (outcomes, shared) := context.processAll shared files
    (outcome :: outcomes, shared)

end RunContext

end AgentProbe
