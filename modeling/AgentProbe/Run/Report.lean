import AgentProbe.Detection.Detector
import AgentProbe.Run.Outcome

set_option autoImplicit false

/-!
The report of a run: which files were changed, rolled back or skipped, and why.

Outcomes are recorded one at a time, in any order.  When the run ends the lists of files are sorted.
-/

namespace AgentProbe

structure Report where
  root : Path
  platform : String
  dryRun : Bool := false
  cancelled : Bool := false
  /-- How many files were found. -/
  scanned : Nat := 0
  frameworks : List (FrameworkMatch Float) := []
  platformsUsed : List String := []
  /-- The files that were written; in a dry run, those that would be. -/
  modified : List Path := []
  rolledBack : List Path := []
  skipped : List Path := []
  diagnostics : List Diagnostic := []
  finished : Bool := false
deriving Inhabited

namespace Report

def push (report : Report) (diagnostic : Diagnostic) : Report :=
  { report with diagnostics := report.diagnostics ++ [diagnostic] }

def unfinished (outcome : FileOutcome) : Diagnostic :=
  { severity := .error, stage := .pipeline, file := some outcome.path
    message := "File pipeline ended in non-terminal state " ++ outcome.state.name }

def file (report : Report) (outcome : FileOutcome) : Report :=
  match outcome.state with
  | .committed => { report with modified := report.modified ++ [outcome.path] }
  | .rolledBack => { report with rolledBack := report.rolledBack ++ [outcome.path] }
  | .skipped => { report with skipped := report.skipped ++ [outcome.path] }
  | _ =>
    { report.push (unfinished outcome) with skipped := report.skipped ++ [outcome.path] }

def usePlatform (report : Report) : Report :=
  if report.platformsUsed.contains report.platform then report
  else { report with platformsUsed := report.platformsUsed ++ [report.platform] }

def record (report : Report) (outcome : FileOutcome) : Report :=
  let filed := report.file outcome
  let used := if outcome.platformUsed then filed.usePlatform else filed
  { used with diagnostics := used.diagnostics ++ outcome.diagnostics }

def finish (report : Report) : Report :=
  { report with
    modified := Path.sorted report.modified
    rolledBack := Path.sorted report.rolledBack
    skipped := Path.sorted report.skipped
    finished := true }

def hasErrors (report : Report) : Bool :=
  report.diagnostics.any Diagnostic.isError

def diagnosticsFor (report : Report) (file : Path) : List Diagnostic :=
  report.diagnostics.filter fun diagnostic =>
    match diagnostic.file with
    | some named => named.same file
    | none => false

end Report

end AgentProbe
