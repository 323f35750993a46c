import AgentProbe.CommandLine.Session
import AgentProbe.Data.JsonText
import Std.Time.DateTime.Timestamp

set_option autoImplicit false

/-!
The program: reads the files that an invocation is about, performs it, writes the files that have
changed and prints.
-/

namespace AgentProbe.Main

def namesOf (path : Path) : Location :=
  path.steps.filterMap fun step =>
    match step with
    | .name name => some name
    | _ => none

def absolute (path : String) : IO String := do
  return ((← IO.currentDir) / path).toString

/-- Adds the entry at an absolute path, and all that lies below it, to a file system.  The target of
a link is added with it if it is a file. -/
partial def load (disk : Disk) (path : String) (follow : Bool) : IO Disk := do
  let place := (← IO.currentDir) / path
  let info ← if follow then place.metadata else place.symlinkMetadata
  match info.type with
  | .file =>
    let content ← IO.FS.readBinFile place
    return disk.put (namesOf ⟨path⟩) (.file 0o644 content.toList)
  | .dir =>
    let mut disk := disk.put (namesOf ⟨path⟩) (.directory [])
    for below in ← place.readDir do
      disk ← load disk below.path.toString false
    return disk
  | .symlink =>
    let target := (← IO.FS.realPath place).toString
    let linked := disk.put (namesOf ⟨path⟩) (.link ⟨target⟩)
    if (← ((← IO.currentDir) / target).metadata).type == .file then load linked target true
    else return linked
  | .other => return disk

def tryLoad (disk : Disk) (path : String) : IO Disk := do
  try load disk (← absolute path) true catch _ => return disk

def pathsOf (request : CommandLine.Request) : List Path :=
  match request with
  | .instrument root options _ _ =>
    [root] ++ options.platformDirectories ++ options.patternDirectories
  | .platforms directories _ => directories
  | .detect root _ => [root]

def configuredPaths (disk : Disk) (request : CommandLine.Request) : List Path :=
  match request with
  | .instrument root options _ _ =>
    match Settings.load disk root options with
    | .ok settings => settings.platformDirectories ++ settings.patternDirectories
    | .error _ => []
  | .platforms _ _ => []
  | .detect root _ =>
    match Settings.load disk root {} with
    | .ok settings => settings.platformDirectories
    | .error _ => []

def snapshot (home : Option Path) (request : CommandLine.Request) : IO Disk := do
  let here := namesOf ⟨(← IO.currentDir).toString⟩
  let mut disk : Disk := ⟨Entry.put (.directory []) here (.directory []), here⟩
  for path in (home.map Registry.userDirectory).toList ++ pathsOf request do
    disk ← tryLoad disk path.text
  for path in configuredPaths disk request do
    unless disk.contains path do
      disk ← tryLoad disk path.text
  return disk

def writeChanges (before after : Disk) : IO Unit := do
  for location in after.top.files do
    match before.top.get? location, after.top.get? location with
    | some (.file _ old), some (.file _ new) =>
      if old != new then
        IO.FS.writeBinFile ("/" ++ "/".intercalate location) ⟨new.toArray⟩
    | _, _ => pure ()

def now : IO Nat := do
  return (← Std.Time.Timestamp.now).toNanosecondsSinceUnixEpoch.val.toNat

def finish (ending : CommandLine.Ending) : IO UInt32 := do
  match ending.output with
  | .lines lines => for line in lines do IO.println line
  | .document value => IO.println (Json.pretty 0 value)
  match ending.error with
  | some error => IO.eprintln error
  | none => if ending.status == 2 then for line in CommandLine.helpLines do IO.eprintln line
  return UInt32.ofNat ending.status

def run (arguments : List String) : IO UInt32 := do
  let environment := (← IO.getEnv "INSTRUMENTOR_PLATFORM").toList.map fun value =>
    ("INSTRUMENTOR_PLATFORM", value)
  let home := (← IO.getEnv "HOME").map Path.mk
  match CommandLine.readInvocation environment arguments with
  | .error halt => finish (halt.ending default)
  | .ok invocation =>
    let started ← now
    let disk ← snapshot home invocation.request
    let result := CommandLine.perform disk home invocation.request
    if let .ok (_, after) := result then writeChanges disk after
    let stamp : Stamp := {
      name := Stamp.nameOf (← IO.getRandomBytes 16).toList
      started := Stamp.instantText started
      ended := Stamp.instantText (← now) }
    finish (invocation.request.ending disk stamp result)

end AgentProbe.Main

def main (arguments : List String) : IO UInt32 :=
  AgentProbe.Main.run arguments
