import AgentProbe.Data.Keyed
import AgentProbe.Platform.Builtin
import AgentProbe.Platform.Document

set_option autoImplicit false

/-!
The registry of platforms.

A registry is built step by step: from the platforms known without configuration, the descriptor
files of directories, and platforms given directly.  The first usable platform with a name is
registered; everything else leaves a diagnostic.
-/

namespace AgentProbe

structure Skipped where
  /-- Where it comes from, as diagnostics name it. -/
  source : String
  reason : RegistryError
deriving DecidableEq, Repr, Inhabited

/-- The platforms in the order of their names, and what was skipped. -/
structure Registry where
  platforms : List Platform := []
  skipped : List Skipped := []
deriving Repr, Inhabited

namespace Registry

def get? (registry : Registry) (name : String) : Option Platform :=
  registry.platforms.find? fun platform => platform.name == name

def get (registry : Registry) (name : String) : Except RegistryError Platform :=
  match registry.get? name with
  | some platform => .ok platform
  | none => .error (.notFound name)

def names (registry : Registry) : List String :=
  registry.platforms.map Platform.name

def extensions : List String := ["yaml", "yml", "json"]

def descriptorFiles (files : Disk.Access) (directory : Path) (names : List String) : List Path :=
  Path.sorted ((names.map directory.join).filter fun path =>
    files.isFile path && (path.extension.map extensions.contains).getD false)

def readDescriptor (files : Disk.Access) (path : Path) : Except RegistryError Platform :=
  match files.readText path with
  | .error fault => .error (.io fault)
  | .ok text =>
    if path.extension == some "json" then Platform.ofJson path.text text
    else Platform.ofYaml path.text text

structure Builder where
  /-- The registered platforms under their names, in the order of the names. -/
  entries : List (String × Platform) := []
  skipped : List Skipped := []
deriving Repr, Inhabited

inductive Step where
  | builtins
  | directory (path : Path)
  | register (platform : Platform)
deriving Repr, Inhabited

namespace Builder

def contains (builder : Builder) (name : String) : Bool :=
  (builder.entries.lookup name).isSome

def skip (builder : Builder) (source : String) (reason : RegistryError) : Builder :=
  { builder with skipped := builder.skipped ++ [⟨source, reason⟩] }

def register (builder : Builder) (platform : Platform) : Builder :=
  if builder.contains platform.name then builder.skip platform.name (.duplicate platform.name)
  else { builder with entries := Keyed.insert platform.name platform builder.entries }

/-- Registers what was read from a source.  If its name is taken, the diagnostic names the source. -/
def load (builder : Builder) (source : String) (outcome : Except RegistryError Platform) :
    Builder :=
  match outcome with
  | .ok platform =>
    if builder.contains platform.name then builder.skip source (.duplicate platform.name)
    else builder.register platform
  | .error reason => builder.skip source reason

def withBuiltins (builder : Builder) : Builder :=
  Platform.builtins.foldl (fun builder entry => builder.load entry.1 (.ok entry.2)) builder

/-- Loads the descriptor files of a directory.  One that does not exist is passed over, one that
cannot be read leaves a diagnostic. -/
def withDirectory (files : Disk.Access) (builder : Builder) (directory : Path) : Builder :=
  if !files.isDirectory directory then builder
  else
    match files.list directory with
    | .error fault => builder.skip directory.text (.io fault)
    | .ok names => (descriptorFiles files directory names).foldl
        (fun builder path => builder.load path.text (readDescriptor files path)) builder

def take (files : Disk.Access) (builder : Builder) : Step → Builder
  | .builtins => builder.withBuiltins
  | .directory path => builder.withDirectory files path
  | .register platform => builder.register platform

def finish (builder : Builder) : Except RegistryError Registry :=
  if builder.entries.isEmpty then .error .empty
  else .ok { platforms := builder.entries.map Prod.snd, skipped := builder.skipped }

end Builder

def assemble (files : Disk.Access) (steps : List Step) : Except RegistryError Registry :=
  (steps.foldl (Builder.take files) {}).finish

def build (disk : Disk) (steps : List Step) : Except RegistryError Registry :=
  assemble disk.access steps

def userDirectory (home : Path) : Path :=
  (home.join ".agent-instrumentor").join "platforms"

def discover (disk : Disk) (home : Option Path) (directories : List Path) :
    Except RegistryError Registry :=
  build disk ([.builtins] ++ (home.map fun path => Step.directory (userDirectory path)).toList
    ++ directories.map .directory)

end Registry

end AgentProbe
