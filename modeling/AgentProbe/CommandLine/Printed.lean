import AgentProbe.Run.Document

set_option autoImplicit false

/-!
Reports, scans and platforms as lines for a reader.
-/

namespace AgentProbe

def Path.below (root path : Path) : Path :=
  if root.steps.isPrefixOf path.steps then
    ⟨"/".intercalate ((path.steps.drop root.steps.length).map Path.Step.text)⟩
  else path

def nothingDetected : String := "No agent framework detected"

def FrameworkMatch.confidenceText (found : FrameworkMatch Float) : String :=
  FloatText.fixed 2 found.confidence

namespace Report

def fileLines (report : Report) (mark : String) (files : List Path) : List String :=
  files.map fun file => "  " ++ mark ++ " " ++ (report.root.below file).text

def frameworkLines (report : Report) : List String :=
  if report.frameworks.isEmpty then [nothingDetected]
  else report.frameworks.map fun found =>
    "  " ++ found.framework ++ " " ++ found.version ++ " (confidence " ++ found.confidenceText ++ ")"

def rolledBackLines (report : Report) : List String :=
  if report.rolledBack.isEmpty then []
  else ("Rolled back: " ++ toString report.rolledBack.length)
    :: report.fileLines "✗" report.rolledBack

/-- The lines of the diagnostics that are more than information. -/
def diagnosticLines (report : Report) : List String :=
  match report.diagnostics.filter Diagnostic.isNotable with
  | [] => []
  | notable => ["", "Diagnostics"] ++ notable.map fun diagnostic => "  " ++ diagnostic.display

def lines (stamp : Stamp) (report : Report) : List String :=
  [(if report.dryRun then "Instrumentation dry run " else "Instrumentation run ") ++ stamp.name,
   "Platform: " ++ report.platform,
   "Files scanned: " ++ toString report.scanned]
  ++ report.frameworkLines
  ++ ["", (if report.dryRun then "Would modify: " else "Modified: ") ++ toString report.modified.length]
  ++ report.fileLines "✓" report.modified
  ++ report.rolledBackLines
  ++ ["Skipped: " ++ toString report.skipped.length]
  ++ report.diagnosticLines
  ++ (if report.cancelled then ["", "Run was cancelled before all files were processed"] else [])

end Report

def FrameworkMatch.lines (root : Path) (found : FrameworkMatch Float) : List String :=
  (found.framework ++ " " ++ found.version ++ " confidence " ++ found.confidenceText ++ " ("
    ++ toString found.evidence.length ++ " import site(s))")
  :: (found.evidence.take 3).map fun site =>
    "  " ++ (root.below site.file).text ++ ":" ++ toString site.line ++ " " ++ site.snippet

def Scan.lines (root : Path) (scan : Scan) : List String :=
  ["Files scanned: " ++ toString scan.scanned]
  ++ (scan.detection.manifestError.map fun error => "Manifest: " ++ error.message).toList
  ++ (if scan.detection.found.isEmpty then [nothingDetected] else [])
  ++ scan.detection.found.flatMap (FrameworkMatch.lines root)

def Platform.lines (platform : Platform) : List String :=
  ["✓ " ++ platform.displayName ++ " (" ++ platform.name ++ ")"]
  ++ (if platform.description.isEmpty then [] else ["  " ++ platform.description])
  ++ platform.envVars.map fun setting =>
    "  " ++ setting.name ++ " [" ++ (if setting.required then "required" else "optional") ++ "] "
      ++ setting.description

def programVersion : String := "agent-instrumentor 0.1.0"

def Registry.lines (registry : Registry) : List String :=
  ["Available Platforms"] ++ registry.platforms.flatMap Platform.lines ++ ["", programVersion]

end AgentProbe
