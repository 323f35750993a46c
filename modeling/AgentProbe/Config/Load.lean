import AgentProbe.Config.Settings
import AgentProbe.Data.Json
import AgentProbe.Data.Yaml.Document
import AgentProbe.Pattern.Document

set_option autoImplicit false

/-!
Workspace files: where they lie and how they are read.
-/

namespace AgentProbe

namespace Workspace

def paths? (origin : Origin) (value : Value) : Option (List Path) :=
  (value.asStrings? origin).map fun texts => texts.map Path.mk

def ofValue? (origin : Origin) (value : Value) : Option Workspace := do
  let record ← Record.read? origin
    ["platform", "level", "targets", "frameworks", "excludePatterns", "parallelJobs",
     "minConfidence", "dryRun", "formatter", "platformDirs", "patternDirs"] value
  some {
    platform := ← record.optional? "platform" Value.asString?
    level := ← record.optional? "level" (Value.asChoice? Level.ofName?)
    targets := ← record.optional? "targets" (Value.asTargets? origin)
    frameworks := ← record.optional? "frameworks" (Value.asStrings? origin)
    excludes := ← record.optional? "excludePatterns" (Value.asStrings? origin)
    jobs := ← record.optional? "parallelJobs" Value.asCount?
    minConfidence := ← record.optional? "minConfidence" Value.asFloat?
    dryRun := ← record.optional? "dryRun" Value.asBool?
    formatter := ← record.optional? "formatter" (Value.asStrings? origin)
    platformDirectories := ← record.optional? "platformDirs" (paths? origin)
    patternDirectories := ← record.optional? "patternDirs" (paths? origin) }

def ofText (format : Format) (text : Text) : Except ConfigError Workspace :=
  let read := match format with
    | .json => (Json.read? text).bind (ofValue? .json)
    | .yaml => (Yaml.read? text).bind (ofValue? .yaml)
  match read with
  | some workspace => .ok workspace
  | none => .error (.malformed format)

/-- Reads a workspace file; its extension says in which form it is written. -/
def ofFile (disk : Disk) (path : Path) : Except ConfigError Workspace :=
  match disk.readText path with
  | .error fault => .error (.unreadable fault)
  | .ok text =>
    let extension := lowerCase (path.extension.getD "")
    if extension == "yaml" || extension == "yml" then ofText .yaml text
    else if extension == "json" then ofText .json text
    else .error (.unknownFormat extension path)

/-- The workspace files below a root, in the order in which they are tried. -/
def files : List String :=
  [".instrumentor.json", ".instrumentor.yaml", ".instrumentor/config.json"]

def find (disk : Disk) (root : Path) : Except ConfigError (Option Workspace) :=
  match (files.map root.join).find? disk.contains with
  | some path => (ofFile disk path).map some
  | none => .ok none

end Workspace

/-- The settings for a root: those of its workspace file, with options, checked. -/
def Settings.load (disk : Disk) (root : Path) (options : Options) : Except ConfigError Settings := do
  let workspace ← Workspace.find disk root
  let settings := Settings.merge workspace options
  settings.validate
  .ok settings

end AgentProbe
