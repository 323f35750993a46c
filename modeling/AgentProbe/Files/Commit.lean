import AgentProbe.Files.Disk
import AgentProbe.Files.Digest

set_option autoImplicit false

/-!
Replacing a file in one step.

The new text is first written to a temporary file beside the old one.  Only if the old file still
has the digest that was seen before does the temporary file take its place; in every other case the
temporary file is removed again.  The operating system may refuse any step on the way.
-/

namespace AgentProbe

inductive CommitError where
  /-- The file no longer has the digest that was seen. -/
  | changedOnDisk (path : Path)
  /-- No temporary file can be made and filled beside the file. -/
  | noTemporary (fault : FileFault) (temporary : Path)
  | io (fault : FileFault)
deriving DecidableEq, Repr, Inhabited

def FileFault.trouble : FileFault → String
  | .denied => "Permission denied: "
  | _ => "IO error: "

def CommitError.message : CommitError → String
  | .changedOnDisk path => "File changed on disk since scan: " ++ path.text
  | .noTemporary fault temporary =>
    fault.trouble ++ fault.message ++ " at path \"" ++ temporary.text ++ "\""
  | .io fault => fault.trouble ++ fault.message

inductive CommitStep where
  | create | write | sync | permit | read | rename
deriving DecidableEq, Repr, Inhabited

/-- The faults with which the operating system refuses steps of a commit that the files themselves
would allow. -/
abbrev Refusals := CommitStep → Option FileFault

namespace Disk

/-- A name for a temporary file that is not among the given ones. -/
def freshName (taken : List String) : String :=
  ".tmp" ++ String.ofList (List.replicate ((taken.map String.length).foldr max 0) '0')

/-- The texts from which names are taken on the way of a path, wherever links lead it. -/
def wayTexts (disk : Disk) (path : Path) : List String :=
  path.text :: disk.here ++ disk.top.linkTargets.map Path.text

/-- Writes the text to the temporary file at `temporary`, with the permission bits of the file at
`path`, if it has any. -/
def stage (disk : Disk) (temporary : Location) (path : Path) (content : Bytes) : Disk :=
  let written := disk.put temporary (.file 0o600 content)
  match written.entry path with
  | .ok (.file mode _) => written.put temporary (.file mode content)
  | _ => written

/-- Moves the temporary file to the place of the file at `path`; a link there is replaced. -/
def persist (disk : Disk) (temporary : Location) (path : Path) : Except FileFault Disk := do
  let place ← disk.locate false path
  match disk.top.get? temporary with
  | some entry => .ok ((disk.erase temporary).put place entry)
  | none => .error .notFound

/-- The rest of a commit, unless its next step is refused: then the commit ends with the file system
`left`. -/
def unlessRefused (refused : Option FileFault) (error : FileFault → CommitError) (left : Disk)
    (rest : Except CommitError Unit × Disk) : Except CommitError Unit × Disk :=
  match refused with
  | some fault => (.error (error fault), left)
  | none => rest

/-- The end of a commit: the temporary file takes the place of the file at `path`, if that still has
the digest `expected`, and is removed otherwise. -/
def exchange (refusals : Refusals) (staged : Disk) (temporary : Location) (path : Path)
    (expected : String) : Except CommitError Unit × Disk :=
  match staged.read path with
  | .error fault => (.error (.io fault), staged.erase temporary)
  | .ok current =>
    if Digest.ofBytes current != expected then
      (.error (.changedOnDisk path), staged.erase temporary)
    else
      unlessRefused (refusals .rename) .io (staged.erase temporary) <|
      match staged.persist temporary path with
      | .ok committed => (.ok (), committed)
      | .error fault => (.error (.io fault), staged.erase temporary)

/-- Replaces the file at `path` by `content`, if its digest is still `expected`, under an operating
system that refuses some steps.  The file system is returned with every outcome. -/
def commitUnder (refusals : Refusals) (disk : Disk) (path : Path) (expected : String)
    (content : Bytes) : Except CommitError Unit × Disk :=
  let parent := path.directory
  match disk.locate true parent, disk.list parent with
  | .ok directory, .ok names =>
    let name := freshName (disk.wayTexts path ++ names)
    let temporary := directory ++ [name]
    let created := disk.put temporary (.file 0o600 [])
    let written := disk.put temporary (.file 0o600 content)
    let staged := disk.stage temporary path content
    unlessRefused (refusals .create) (.noTemporary · (parent.join name)) disk <|
    -- What a refused write has left in the file goes with it.
    unlessRefused (refusals .write) (.noTemporary · (parent.join name)) (created.erase temporary) <|
    unlessRefused (refusals .sync) .io (written.erase temporary) <|
    unlessRefused (if written.contains path then refusals .permit else none) .io
      (written.erase temporary) <|
    unlessRefused (refusals .read) .io (staged.erase temporary) <|
    staged.exchange refusals temporary path expected
  | .error fault, _ | .ok _, .error fault =>
    (.error (.noTemporary fault (parent.join (freshName path.fileName.toList))), disk)

def commit (disk : Disk) (path : Path) (expected : String) (content : Bytes) :
    Except CommitError Unit × Disk :=
  disk.commitUnder (fun _ => none) path expected content

end Disk

end AgentProbe
