import AgentProbe.Files.Path
import AgentProbe.Text.Utf8

set_option autoImplicit false

/-!
A file system: a tree of directories, files and symbolic links.

A location is the sequence of names from the top of the tree to an entry, without links in it.
`Disk.locate` finds the location that a path leads to; reading and writing work on locations.
-/

namespace AgentProbe

/-- The names from the top of a tree to an entry. -/
abbrev Location := List String

inductive Entry where
  /-- A regular file: its permission bits and its bytes. -/
  | file (mode : Nat) (content : Bytes)
  | link (target : Path)
  | directory (entries : List (String × Entry))
deriving Inhabited

inductive FileFault where
  | notFound | notDirectory | isDirectory | linkLoop | notText
  | denied
  /-- Anything else that the operating system reports, with its wording. -/
  | other (text : String)
deriving DecidableEq, Repr, Inhabited

def FileFault.message : FileFault → String
  | .notFound => "No such file or directory (os error 2)"
  | .notDirectory => "Not a directory (os error 20)"
  | .isDirectory => "Is a directory (os error 21)"
  | .linkLoop => "Too many levels of symbolic links (os error 40)"
  | .notText => "stream did not contain valid UTF-8"
  | .denied => "Permission denied (os error 13)"
  | .other text => text

namespace Entry

def setNamed (name : String) (entry : Entry) : List (String × Entry) → List (String × Entry)
  | [] => [(name, entry)]
  | other :: entries =>
    if other.1 == name then (name, entry) :: entries else other :: setNamed name entry entries

def dropNamed (name : String) (entries : List (String × Entry)) : List (String × Entry) :=
  entries.filter fun entry => entry.1 != name

def get? : Location → Entry → Option Entry
  | [], entry => some entry
  | name :: rest, .directory entries => (entries.lookup name).bind (get? rest)
  | _ :: _, _ => none

def put (new : Entry) : Location → Entry → Entry
  | [], _ => new
  | name :: rest, .directory entries =>
    .directory (setNamed name (put new rest ((entries.lookup name).getD (.directory []))) entries)
  | _ :: _, other => other

def erase : Location → Entry → Entry
  | [name], .directory entries => .directory (dropNamed name entries)
  | name :: rest, .directory entries =>
    match entries.lookup name with
    | some below => .directory (setNamed name (erase rest below) entries)
    | none => .directory entries
  | _, other => other

mutual

def linkTargets : Entry → List Path
  | .file _ _ => []
  | .link target => [target]
  | .directory entries => linkTargetsAll entries

def linkTargetsAll : List (String × Entry) → List Path
  | [] => []
  | (_, entry) :: entries => linkTargets entry ++ linkTargetsAll entries

end

def linkLimit : Nat := 40

/-- The location reached from `place` by some steps.  A link is followed wherever it stands, the
last name apart if `last` says so. -/
def trace (top : Entry) (last : Bool) (links : Nat) (place : Location) (steps : List Path.Step) :
    Except FileFault Location :=
  match steps with
  | [] => .ok place
  | step :: rest =>
    match top.get? place with
    | some (.directory entries) =>
      match step with
      | .root | .here => trace top last links place rest
      | .up => trace top last links place.dropLast rest
      | .name name =>
        match entries.lookup name with
        | none => .error .notFound
        | some (.link target) =>
          if rest.isEmpty && !last then .ok (place ++ [name])
          else match links with
            | 0 => .error .linkLoop
            | links + 1 =>
              trace top last links (if target.isAbsolute then [] else place) (target.trail ++ rest)
        | some _ => trace top last links (place ++ [name]) rest
    | some _ => .error .notDirectory
    | none => .error .notFound
termination_by (links, steps.length)

end Entry

structure Disk where
  top : Entry
  /-- Where relative paths start. -/
  here : Location := []
deriving Inhabited

namespace Disk

/-- The location that a path leads to; `last` says whether a link as its last name is followed. -/
def locate (disk : Disk) (last : Bool) (path : Path) : Except FileFault Location :=
  if path.text.isEmpty then .error .notFound
  else disk.top.trace last Entry.linkLimit (if path.isAbsolute then [] else disk.here) path.trail

def entry (disk : Disk) (path : Path) : Except FileFault Entry := do
  let location ← disk.locate true path
  match disk.top.get? location with
  | some entry => .ok entry
  | none => .error .notFound

def read (disk : Disk) (path : Path) : Except FileFault Bytes := do
  match ← disk.entry path with
  | .file _ content => .ok content
  | _ => .error .isDirectory

def readText (disk : Disk) (path : Path) : Except FileFault Text := do
  match Utf8.decode (← disk.read path) with
  | .ok text => .ok text
  | .error _ => .error .notText

def list (disk : Disk) (path : Path) : Except FileFault (List String) := do
  match ← disk.entry path with
  | .directory entries => .ok (entries.map Prod.fst)
  | _ => .error .notDirectory

def isFile (disk : Disk) (path : Path) : Bool :=
  match disk.entry path with
  | .ok (.file _ _) => true
  | _ => false

def isDirectory (disk : Disk) (path : Path) : Bool :=
  match disk.entry path with
  | .ok (.directory _) => true
  | _ => false

/-- What a file system answers about files that are only read. -/
structure Access where
  isDirectory : Path → Bool
  list : Path → Except FileFault (List String)
  isFile : Path → Bool
  readText : Path → Except FileFault Text

def access (disk : Disk) : Access where
  isDirectory := disk.isDirectory
  list := disk.list
  isFile := disk.isFile
  readText := disk.readText

def contains (disk : Disk) (path : Path) : Bool :=
  (disk.entry path).isOk

def put (disk : Disk) (location : Location) (entry : Entry) : Disk :=
  { disk with top := Entry.put entry location disk.top }

def erase (disk : Disk) (location : Location) : Disk :=
  { disk with top := disk.top.erase location }

def plant (disk : Disk) (path : Path) (entry : Entry) : Disk :=
  disk.put (disk.here ++ path.steps.filterMap fun
    | .name name => some name
    | _ => none) entry

/-- Writes a file: a file that is there keeps its permission bits, a new one gets the usual ones. -/
def write (disk : Disk) (path : Path) (content : Bytes) : Disk :=
  match disk.locate true path, disk.entry path with
  | .ok place, .ok (.file mode _) => disk.put place (.file mode content)
  | _, _ => disk.plant path (.file 0o644 content)

end Disk

end AgentProbe
