import AgentProbe.Config.Target
import AgentProbe.Data.Decimal
import AgentProbe.Files.Disk

set_option autoImplicit false

/-!
Settings of a run, and the sources that they are merged from.

Settings start from a level.  A workspace file overrides them, and the options of a command line
override both; excluded paths and directories of the options are added instead.
-/

namespace AgentProbe

inductive Jobs where
  /-- As many as the machine has cores. -/
  | perCore
  | count (count : Nat)
deriving DecidableEq, Repr, Inhabited

structure Settings where
  platform : String
  level : Level
  targets : List Target
  /-- The frameworks to instrument; none means all. -/
  frameworks : List String
  excludes : List String
  jobs : Jobs
  minConfidence : Float
  dryRun : Bool
  formatter : Option (List String)
  platformDirectories : List Path
  patternDirectories : List Path
deriving Repr, Inhabited

structure Workspace where
  platform : Option String := none
  level : Option Level := none
  targets : Option (List Target) := none
  frameworks : Option (List String) := none
  excludes : Option (List String) := none
  jobs : Option Nat := none
  minConfidence : Option Float := none
  dryRun : Option Bool := none
  formatter : Option (List String) := none
  platformDirectories : Option (List Path) := none
  patternDirectories : Option (List Path) := none
deriving Repr, Inhabited

structure Options where
  platform : Option String := none
  level : Option Level := none
  targets : Option (List Target) := none
  frameworks : Option (List String) := none
  /-- Added to the excluded paths. -/
  excludes : List String := []
  jobs : Option Nat := none
  minConfidence : Option Float := none
  dryRun : Option Bool := none
  formatter : Option (List String) := none
  /-- Added to the directories of descriptors. -/
  platformDirectories : List Path := []
  /-- Added to the directories of patterns. -/
  patternDirectories : List Path := []
deriving Repr, Inhabited

inductive SettingFault where
  | unknownLevel (text : String)
  | unknownTarget (text : String)
  | emptyPlatform
  | confidenceOutside (value : Float)
  | noJobs
  | emptyFormatter
deriving Repr, Inhabited

def SettingFault.field : SettingFault → String
  | .unknownLevel _ => "level"
  | .unknownTarget _ => "targets"
  | .emptyPlatform => "platform"
  | .confidenceOutside _ => "minConfidence"
  | .noJobs => "parallelJobs"
  | .emptyFormatter => "formatter"

def SettingFault.detail : SettingFault → String
  | .unknownLevel text => "unknown level '" ++ lowerCase text ++ "'"
  | .unknownTarget text => "unknown target '" ++ text ++ "'"
  | .emptyPlatform => "must not be empty"
  | .confidenceOutside value => FloatText.shortest value ++ " is outside [0, 1]"
  | .noJobs => "must be at least 1"
  | .emptyFormatter => "command must not be empty"

inductive Format where
  | yaml | json
deriving DecidableEq, Repr, Inhabited

inductive ConfigError where
  | unreadable (fault : FileFault)
  /-- The extension of a file names no known form. -/
  | unknownFormat (extension : String) (path : Path)
  | malformed (format : Format)
  | invalid (fault : SettingFault)
deriving Repr, Inhabited

def ConfigError.message : ConfigError → String
  | .unreadable .notFound => "Config file not found: " ++ FileFault.message .notFound
  | .unreadable fault => "IO error reading config: " ++ fault.message
  | .unknownFormat extension path =>
    "Invalid config format: unsupported config extension '" ++ extension ++ "' for " ++ path.text
  | .malformed .yaml => "YAML parsing error: malformed document"
  | .malformed .json => "JSON parsing error: malformed document"
  | .invalid fault => "Invalid value for " ++ fault.field ++ ": " ++ fault.detail

def Level.read (text : String) : Except ConfigError Level :=
  match Level.read? text with
  | some level => .ok level
  | none => .error (.invalid (.unknownLevel text))

def Target.read (text : String) : Except ConfigError Target :=
  match Target.read? text with
  | some target => .ok target
  | none => .error (.invalid (.unknownTarget text))

namespace Settings

/-- The paths excluded without any configuration: tests and environments. -/
def defaultExcludes : List String :=
  ["**/test_*.py", "**/*_test.py", "**/tests/**", "**/.venv/**", "**/venv/**",
   "**/site-packages/**", "**/__pycache__/**"]

def preset (level : Level) : Settings :=
  { platform := "langfuse", level, targets := level.targets, frameworks := []
    excludes := defaultExcludes, jobs := .perCore, minConfidence := 0.3, dryRun := false
    formatter := none, platformDirectories := [], patternDirectories := [] }

/-- The settings at a level, with the targets of that level. -/
def withLevel (settings : Settings) : Option Level → Settings
  | some level => { settings with level, targets := level.targets }
  | none => settings

def withWorkspace (settings : Settings) (workspace : Workspace) : Settings :=
  let base := settings.withLevel workspace.level
  { base with
    targets := workspace.targets.getD base.targets
    platform := workspace.platform.getD base.platform
    frameworks := workspace.frameworks.getD base.frameworks
    excludes := workspace.excludes.getD base.excludes
    jobs := (workspace.jobs.map Jobs.count).getD base.jobs
    minConfidence := workspace.minConfidence.getD base.minConfidence
    dryRun := workspace.dryRun.getD base.dryRun
    formatter := workspace.formatter.or base.formatter
    platformDirectories := base.platformDirectories ++ workspace.platformDirectories.getD []
    patternDirectories := base.patternDirectories ++ workspace.patternDirectories.getD [] }

def addNew (list : List String) (element : String) : List String :=
  if list.contains element then list else list ++ [element]

def withOptions (settings : Settings) (options : Options) : Settings :=
  let base := settings.withLevel options.level
  { base with
    targets := options.targets.getD base.targets
    platform := options.platform.getD base.platform
    frameworks := options.frameworks.getD base.frameworks
    excludes := options.excludes.foldl addNew base.excludes
    jobs := (options.jobs.map Jobs.count).getD base.jobs
    minConfidence := options.minConfidence.getD base.minConfidence
    dryRun := options.dryRun.getD base.dryRun
    formatter := options.formatter.or base.formatter
    platformDirectories := base.platformDirectories ++ options.platformDirectories
    patternDirectories := base.patternDirectories ++ options.patternDirectories }

def merge (workspace : Option Workspace) (options : Options) : Settings :=
  let base := preset .standard
  ((workspace.map base.withWorkspace).getD base).withOptions options

def instruments (settings : Settings) (target : Target) : Bool :=
  settings.targets.contains target

/-- Whether a framework is instrumented; all are when none is named. -/
def includes (settings : Settings) (framework : String) : Bool :=
  settings.frameworks.isEmpty || settings.frameworks.contains framework

def fault? (settings : Settings) : Option SettingFault :=
  if isBlankString settings.platform then some .emptyPlatform
  else if !(0.0 ≤ settings.minConfidence && settings.minConfidence ≤ 1.0) then
    some (.confidenceOutside settings.minConfidence)
  else if settings.jobs == .count 0 then some .noJobs
  else if settings.formatter == some [] then some .emptyFormatter
  else none

def validate (settings : Settings) : Except ConfigError Unit :=
  match settings.fault? with
  | some fault => .error (.invalid fault)
  | none => .ok ()

end Settings

end AgentProbe
