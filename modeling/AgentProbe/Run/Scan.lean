import AgentProbe.Config.Settings
import AgentProbe.Detection.Detector
import AgentProbe.Files.Glob
import AgentProbe.Files.Walk
import AgentProbe.Platform.Registry
import AgentProbe.Pattern.Source
import AgentProbe.Run.Diagnostic
import AgentProbe.Validation.Command

set_option autoImplicit false

/-!
What a run is set up with, and the scan that it starts from.

A scan reads every Python file below a directory that is not excluded and detects the frameworks in
them.  A file that cannot be read is reported and left out.
-/

namespace AgentProbe

inductive RunError where
  | registry (error : RegistryError)
  | config (error : ConfigError)
  | notDirectory (path : Path)
  | badExclude (pattern : String) (fault : GlobFault)
deriving Inhabited

def RunError.message : RunError → String
  | .registry error => "Platform registry error: " ++ error.message
  | .config error => "Configuration error: " ++ error.message
  | .notDirectory path => "Target path is not a directory: " ++ path.text
  | .badExclude pattern fault =>
    "Invalid exclude pattern '" ++ pattern ++ "': error parsing glob '" ++ pattern ++ "': "
      ++ fault.message

structure Setup where
  settings : Settings
  registry : Registry
  /-- What the excluded paths match. -/
  excludes : List Glob
  catalog : Catalog := Catalog.builtin
  /-- How the manifest of a project is read. -/
  manifest : Disk → Path → Except ManifestError Manifest := Manifest.read
  /-- Where patterns are looked up before the platform is asked. -/
  source : Disk → Option PatternSource
  formatter : Formatter

namespace Setup

def readExcludes (patterns : List String) : Except RunError (List Glob) :=
  patterns.mapM fun pattern =>
    match Glob.read pattern.toList with
    | .ok glob => .ok glob
    | .error fault => .error (.badExclude pattern fault)

def ofSettings (settings : Settings) (registry : Registry) : Except RunError Setup :=
  match settings.validate with
  | .error error => .error (.config error)
  | .ok _ => do
    let excludes ← readExcludes settings.excludes
    pure {
      settings, registry, excludes
      source := fun disk =>
        if settings.patternDirectories.isEmpty then none
        else some (PatternSource.directories disk settings.patternDirectories)
      formatter := Formatter.ofWords (settings.formatter.getD []) }

def discover (disk : Disk) (home : Option Path) (settings : Settings) : Except RunError Setup :=
  match Registry.discover disk home settings.platformDirectories with
  | .error error => .error (.registry error)
  | .ok registry => ofSettings settings registry

end Setup

structure Scan where
  /-- The files that were read, in the order of their paths. -/
  files : List SourceFile := []
  /-- How many files were found. -/
  scanned : Nat := 0
  /-- The files that could not be read. -/
  failed : List Path := []
  detection : Detection Float := {}
  diagnostics : List Diagnostic := []
deriving Inhabited

def SourceError.diagnostic (path : Path) (error : SourceError) : Diagnostic :=
  { severity := .error, stage := .scan, message := error.message, file := some path }

def ManifestError.diagnostic (error : ManifestError) : Diagnostic :=
  { severity := .warning, stage := .detect
    message := error.message ++ "; using import heuristics only" }

namespace Setup

def scanFiles (setup : Setup) (disk : Disk) (root : Path) (paths : List Path) : Scan :=
  let loaded := paths.map fun path => (path, SourceFile.load disk path)
  let files := loaded.filterMap fun entry => entry.2.toOption
  let failures := loaded.filterMap fun entry =>
    match entry.2 with
    | .ok _ => none
    | .error error => some (entry.1, error.diagnostic entry.1)
  let detection := detect Scoring.floating setup.catalog (setup.manifest disk root) files
  { files, scanned := paths.length, failed := failures.map Prod.fst, detection
    diagnostics := failures.map Prod.snd
      ++ (detection.manifestError.map ManifestError.diagnostic).toList }

def scan (setup : Setup) (disk : Disk) (root : Path) : Except RunError Scan :=
  if disk.isDirectory root then
    .ok (setup.scanFiles disk root (disk.pythonFiles (Glob.excludes setup.excludes) root))
  else .error (.notDirectory root)

end Setup

end AgentProbe
