import AgentProbe.Data.Fields
import AgentProbe.Run.Report
import AgentProbe.Run.Scan
import AgentProbe.Run.Stamp

set_option autoImplicit false

/-!
Reports, scans and platforms as documents.
-/

namespace AgentProbe

def Diagnostic.document (diagnostic : Diagnostic) : Value :=
  .ofFields ([("severity", .string diagnostic.severity.name), ("stage", .string diagnostic.stage.name)]
    ++ Value.optionalField "file" (fun file => .string file.text) diagnostic.file
    ++ Value.optionalField "pattern_id" .string diagnostic.patternId
    ++ Value.optionalField "edit_id" Value.ofNat diagnostic.edit
    ++ Value.optionalField "line" Value.ofNat diagnostic.line
    ++ [("message", .string diagnostic.message)])

def Evidence.document (evidence : Evidence) : Value :=
  .ofFields [("file", .string evidence.file.text), ("line", .ofNat evidence.line),
    ("snippet", .string evidence.snippet)]

def FrameworkMatch.document (found : FrameworkMatch Float) : Value :=
  .ofFields [("framework", .string found.framework), ("version", .string found.version),
    ("evidence", .list (found.evidence.map Evidence.document)),
    ("confidence", .float found.confidence), ("basis", .string found.basis.name)]

def Report.document (stamp : Stamp) (report : Report) : Value :=
  .ofFields [("run_id", .string stamp.name), ("root", .string report.root.text),
    ("platform", .string report.platform), ("started_at", .string stamp.started),
    ("finished_at", if report.finished then .string stamp.ended else .null),
    ("dry_run", .bool report.dryRun), ("cancelled", .bool report.cancelled),
    ("files_scanned", .ofNat report.scanned),
    ("frameworks_detected", .list (report.frameworks.map FrameworkMatch.document)),
    ("platforms_used", .ofStrings report.platformsUsed),
    ("files_modified", .ofPaths report.modified), ("files_rolled_back", .ofPaths report.rolledBack),
    ("files_skipped", .ofPaths report.skipped),
    ("diagnostics", .list (report.diagnostics.map Diagnostic.document))]

def Scan.document (scan : Scan) : Value :=
  .ofFields [("filesScanned", .ofNat scan.scanned),
    ("frameworks", .list (scan.detection.found.map FrameworkMatch.document)),
    ("manifestError",
      .ofOption (fun error => .string (ManifestError.message error)) scan.detection.manifestError)]

def EnvVar.document (setting : EnvVar) : Value :=
  .ofFields [("description", .string setting.description), ("name", .string setting.name),
    ("required", .bool setting.required)]

def Platform.document (platform : Platform) : Value :=
  .ofFields [("dependencies", .ofStrings platform.dependencies),
    ("description", .string platform.description),
    ("display_name", .string platform.displayName),
    ("env_vars", .list (platform.envVars.map EnvVar.document)), ("name", .string platform.name)]

def Skipped.document (skipped : Skipped) : Value :=
  .ofFields [("message", .string skipped.reason.message), ("source", .string skipped.source)]

def Registry.document (registry : Registry) : Value :=
  .ofFields [("diagnostics", .list (registry.skipped.map Skipped.document)),
    ("platforms", .list (registry.platforms.map Platform.document))]

end AgentProbe
