import AgentProbe.Data.Json
import AgentProbe.Data.Yaml.Document
import AgentProbe.Files.Disk
import AgentProbe.Pattern.Document

set_option autoImplicit false

/-!
Where patterns come from besides platforms.

A source answers for a framework at a version on a platform.  That it knows nothing of them is an
answer of its own, apart from a lookup that broke.
-/

namespace AgentProbe

abbrev PatternSource := String → String → String → Except PatternError Pattern

namespace PatternSource

structure TableEntry where
  framework : String
  platform : String
  pattern : Pattern
deriving DecidableEq, Repr, Inhabited

/-- The source with a table of patterns; of two for the same pair the later one counts. -/
def table (entries : List TableEntry) : PatternSource := fun framework _ platform =>
  match entries.reverse.find? fun entry =>
    entry.framework == framework && entry.platform == platform with
  | some entry => .ok (entry.pattern.withDefaultId platform framework)
  | none => .error (.notFound framework platform)

def failing (detail : String) : PatternSource := fun _ _ _ =>
  .error (.providerFailed detail)

/-- The files that may hold the pattern for a framework on a platform, in the order in which they
are tried. -/
def filesFor (directories : List Path) (framework platform : String) : List Path :=
  directories.flatMap fun directory =>
    ["yaml", "yml", "json"].map fun extension =>
      directory.join (framework ++ "." ++ platform ++ "." ++ extension)

def readPattern (path : Path) (text : Text) : Except PatternError Pattern :=
  let read := if path.extension == some "json" then
      (Json.read? text).bind (Pattern.ofValue? .json)
    else (Yaml.read? text).bind (Pattern.ofValue? .yaml)
  match read with
  | some pattern => .ok pattern
  | none => .error (.invalid path.text (.unreadable "malformed document"))

def firstOf (disk : Disk) (framework platform : String) : List Path → Except PatternError Pattern
  | [] => .error (.notFound framework platform)
  | path :: paths =>
    match disk.readText path with
    | .error .notFound => firstOf disk framework platform paths
    | .error fault => .error (.providerFailed (path.text ++ ": " ++ fault.message))
    | .ok text => (readPattern path text).map fun pattern =>
      pattern.withDefaultId platform framework

/-- The source that reads pattern files from directories; the first directory with a file counts. -/
def directories (disk : Disk) (paths : List Path) : PatternSource := fun framework _ platform =>
  firstOf disk framework platform (filesFor paths framework platform)

end PatternSource

end AgentProbe
