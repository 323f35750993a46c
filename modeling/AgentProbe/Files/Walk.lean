import AgentProbe.Files.Disk

set_option autoImplicit false

/-!
The files below a directory.

The walk goes down a tree and leaves out every excluded entry with all that lies below it.  Links are
not followed and not reported.
-/

namespace AgentProbe

namespace Entry

mutual

/-- The regular files at or below an entry, as locations that continue `place`.  No entry that
`excluded` holds of is visited. -/
def walk (excluded : Location → Bool) (place : Location) : Entry → List Location
  | .file _ _ => [place]
  | .link _ => []
  | .directory entries => walkAll excluded place entries

def walkAll (excluded : Location → Bool) (place : Location) : List (String × Entry) → List Location
  | [] => []
  | (name, entry) :: entries =>
    (if excluded (place ++ [name]) then [] else walk excluded (place ++ [name]) entry)
      ++ walkAll excluded place entries

end

def files (entry : Entry) : List Location :=
  entry.walk (fun _ => false) []

end Entry

def isPythonName (location : Location) : Bool :=
  match location.getLast? with
  | some name => Path.extensionOf name == some "py"
  | none => false

namespace Disk

def pythonFiles (disk : Disk) (excluded : Location → Bool) (root : Path) : List Path :=
  match disk.entry root with
  | .ok entry =>
    Path.sorted (((entry.walk excluded []).filter isPythonName).map root.joinAll)
  | .error _ => []

/-- The regular files below the current directory, each with its permission bits and bytes. -/
def regularFiles (disk : Disk) : List (Location × Nat × Bytes) :=
  match disk.top.get? disk.here with
  | none => []
  | some entry => entry.files.filterMap fun location =>
    match entry.get? location with
    | some (.file mode content) => some (location, mode, content)
    | _ => none

end Disk

end AgentProbe
