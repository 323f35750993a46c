import AgentProbe.Run.Process
import AgentProbe.Run.Report

set_option autoImplicit false

/-!
A run: a scan, then every file in turn, and the report of it all.

The files may be worked on in any order and by any number of workers; the report lists them in the
order of their paths.  A run may be cancelled after some files, and the others are then left alone.
-/

namespace AgentProbe

structure Progress where
  processed : Nat
  total : Nat
  /-- The file that was just finished. -/
  current : Option Path := none
  complete : Bool := false
deriving DecidableEq, Repr, Inhabited

structure Execution where
  report : Report
  disk : Disk
  /-- How far the run had come, each time that it was told. -/
  progress : List Progress
deriving Inhabited

def FrameworkMatch.belowMinimum (minimum : Float) (found : FrameworkMatch Float) : Diagnostic :=
  { severity := .info, stage := .detect
    message := found.framework ++ " detected with confidence " ++ FloatText.fixed 2 found.confidence
      ++ ", below the " ++ FloatText.fixed 2 minimum ++ " minimum" }

namespace Setup

def isTooUncertain (setup : Setup) (found : FrameworkMatch Float) : Bool :=
  setup.settings.includes found.framework && found.confidence < setup.settings.minConfidence

/-- Whether a framework is in scope: included by the settings, certain enough and in the catalog. -/
def selects (setup : Setup) (found : FrameworkMatch Float) : Bool :=
  setup.settings.includes found.framework && !(found.confidence < setup.settings.minConfidence)
    && (setup.catalog.get? found.framework).isSome

def context (setup : Setup) (disk : Disk) (platform : Platform)
    (found : List (FrameworkMatch Float)) : RunContext :=
  { platform, catalog := setup.catalog, selected := found.filter setup.selects
    targets := setup.settings.targets, source := setup.source disk, formatter := setup.formatter
    dryRun := setup.settings.dryRun }

def openReport (setup : Setup) (root : Path) (platform : Platform) (scan : Scan) : Report :=
  { root, platform := platform.name, dryRun := setup.settings.dryRun, scanned := scan.scanned
    frameworks := scan.detection.found, skipped := scan.failed
    diagnostics := scan.diagnostics ++ (scan.detection.found.filter setup.isTooUncertain).map
      (FrameworkMatch.belowMinimum setup.settings.minConfidence) }

/-- The progress that is told after each outcome, counted from `processed`. -/
def progressOf (total : Nat) (processed : Nat) : List FileOutcome → List Progress
  | [] => []
  | outcome :: outcomes =>
    { processed := processed + 1, total, current := some outcome.path }
      :: progressOf total (processed + 1) outcomes

/-- Works on files in the given order and reports.  `cancelled` says that the run ended early. -/
def execute (setup : Setup) (disk : Disk) (platform : Platform) (root : Path) (scan : Scan)
    (order : List SourceFile) (cancelled : Bool) : Execution :=
  let context := setup.context disk platform scan.detection.found
  let (outcomes, shared) := context.processAll { disk } order
  let total := scan.files.length
  let report := outcomes.foldl Report.record (setup.openReport root platform scan)
  { report := { report with cancelled }.finish
    disk := shared.disk
    progress := [{ processed := 0, total }] ++ progressOf total 0 outcomes
      ++ [{ processed := outcomes.length, total, complete := true }] }

/-- Runs over a project.  With a limit the run is cancelled after that many files. -/
def run (setup : Setup) (disk : Disk) (root : Path) (limit : Option Nat := none) :
    Except RunError Execution :=
  match setup.registry.get setup.settings.platform with
  | .error error => .error (.registry error)
  | .ok platform => do
    let scan ← setup.scan disk root
    let order := (limit.map scan.files.take).getD scan.files
    pure (setup.execute disk platform root scan order limit.isSome)

end Setup

end AgentProbe
