import AgentProbe.Config.Settings
import AgentProbe.Data.Fields

set_option autoImplicit false

/-!
Settings and workspaces as documents, under the names by which workspace files set them.
-/

namespace AgentProbe

def targetsDocument (targets : List Target) : Value :=
  .ofStrings (targets.map Target.name)

def Jobs.document : Jobs → Value
  | .perCore => .string "default"
  | .count number => .ofNat number

def Settings.document (settings : Settings) : Value :=
  .ofFields [("platform", .string settings.platform), ("level", .string settings.level.name),
    ("targets", targetsDocument settings.targets), ("frameworks", .ofStrings settings.frameworks),
    ("excludePatterns", .ofStrings settings.excludes), ("parallelJobs", settings.jobs.document),
    ("minConfidence", .float settings.minConfidence), ("dryRun", .bool settings.dryRun),
    ("formatter", .ofOption Value.ofStrings settings.formatter),
    ("platformDirs", .ofPaths settings.platformDirectories),
    ("patternDirs", .ofPaths settings.patternDirectories)]

/-- A workspace as a document; what it does not set is left out. -/
def Workspace.document (workspace : Workspace) : Value :=
  .ofFields (Value.optionalField "platform" .string workspace.platform
    ++ Value.optionalField "level" (fun level => .string level.name) workspace.level
    ++ Value.optionalField "targets" targetsDocument workspace.targets
    ++ Value.optionalField "frameworks" Value.ofStrings workspace.frameworks
    ++ Value.optionalField "excludePatterns" Value.ofStrings workspace.excludes
    ++ Value.optionalField "parallelJobs" Value.ofNat workspace.jobs
    ++ Value.optionalField "minConfidence" .float workspace.minConfidence
    ++ Value.optionalField "dryRun" .bool workspace.dryRun
    ++ Value.optionalField "formatter" Value.ofStrings workspace.formatter
    ++ Value.optionalField "platformDirs" Value.ofPaths workspace.platformDirectories
    ++ Value.optionalField "patternDirs" Value.ofPaths workspace.patternDirectories)

end AgentProbe
