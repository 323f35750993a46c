import AgentProbe.Data.Keyed
import AgentProbe.Data.Toml
import AgentProbe.Detection.Requirement
import AgentProbe.Detection.Signature
import AgentProbe.Files.Disk

set_option autoImplicit false

/-!
Dependency manifests: which packages a project declares.

A project may declare packages in several files.  The first declaration of a package counts, and a
file that cannot be read or is malformed declares nothing.
-/

namespace AgentProbe

structure Manifest where
  /-- Normalized package names with their specifiers, in the order of the names. -/
  packages : List (String × String) := []
  /-- The files that the packages were read from. -/
  sources : List String := []
deriving DecidableEq, Repr, Inhabited

inductive ManifestFault where
  | unreadable (fault : FileFault)
  | malformed
deriving DecidableEq, Repr, Inhabited

def ManifestFault.message : ManifestFault → String
  | .unreadable fault => fault.message
  | .malformed => "TOML parse error: malformed document"

inductive ManifestError where
  | absent (root : Path)
  /-- Every file that there is has a fault. -/
  | faulty (faults : List (String × ManifestFault))
  | reported (reason : String)
deriving DecidableEq, Repr, Inhabited

def ManifestError.message (error : ManifestError) : String :=
  "Dependency manifest unreadable: " ++ match error with
    | .absent root => "no dependency manifest in " ++ root.text
    | .faulty faults => "; ".intercalate (faults.map fun fault => fault.1 ++ ": " ++ fault.2.message)
    | .reported reason => reason

namespace Manifest

/-- The manifest with a package, unless an earlier declaration is there. -/
def insert (manifest : Manifest) (requirement : Requirement) : Manifest :=
  { manifest with
    packages :=
      Keyed.insert (normalizePackage requirement.name) requirement.specifier manifest.packages }

def insertAll (manifest : Manifest) (requirements : List Requirement) : Manifest :=
  requirements.foldl insert manifest

def ofRequirements (requirements : List Requirement) : Manifest :=
  insertAll {} requirements

def get? (manifest : Manifest) (name : String) : Option String :=
  manifest.packages.lookup (normalizePackage name)

end Manifest

/-! ### The requirements in a file -/

def lineRequirements (text : Text) : List Requirement :=
  (Text.lines text).filterMap Requirement.read?

def projectRequirements (document : Value) : List Requirement :=
  match (document.get? "project").bind (Value.get? · "dependencies") with
  | some (.list items) => items.filterMap fun
    | .string text => Requirement.read? text.toList
    | _ => none
  | _ => []

/-- The specifier of an entry of a dependency table: its text, or that of its version. -/
def tableSpecifier (entry : Value) : String :=
  let text := match entry with
    | .string text => text
    | .map _ => match entry.get? "version" with
      | some (.string text) => text
      | _ => "*"
    | _ => "*"
  if text.isEmpty then "*" else text

/-- The requirements of a dependency table; the interpreter itself is none. -/
def tableRequirements (document : Value) : List Requirement :=
  match ((document.get? "tool").bind (Value.get? · "poetry")).bind (Value.get? · "dependencies") with
  | some (.map entries) => entries.filterMap fun entry =>
    match entry.1 with
    | .string name => if name == "python" then none else some ⟨name, tableSpecifier entry.2⟩
    | _ => none
  | _ => []

def documentRequirements? (text : Text) : Option (List Requirement) :=
  (Toml.read? text).map fun document => projectRequirements document ++ tableRequirements document

def afterAssignment? (word : Text) (text : Text) : Option Text :=
  if word.isPrefixOf text then
    match Text.trimStart (text.drop word.length) with
    | '=' :: rest =>
      match Text.trimStart rest with
      | '[' :: rest => some rest
      | _ => none
    | _ => none
  else none

/-- The text between the brackets of the first list that is assigned to a word. -/
def assignedList? (word : Text) : Text → Option Text
  | [] => none
  | c :: rest =>
    match afterAssignment? word (c :: rest) with
    | some inner =>
      if inner.contains ']' then some (inner.takeWhile (· != ']')) else assignedList? word rest
    | none => assignedList? word rest

def isQuote (c : Char) : Bool :=
  c == '"' || c.toNat == 39

/-- The non-empty texts between quotes.  `begun` is the text since an opening quote, last character
first. -/
def quotedTexts (begun : Option Text) : Text → List Text
  | [] => []
  | c :: rest =>
    match begun with
    | none => quotedTexts (if isQuote c then some [] else none) rest
    | some [] => quotedTexts (if isQuote c then some [] else some [c]) rest
    | some taken =>
      if isQuote c then taken.reverse :: quotedTexts none rest
      else quotedTexts (some (c :: taken)) rest

def scriptRequirements (text : Text) : List Requirement :=
  match assignedList? "install_requires".toList text with
  | some inner => (quotedTexts none inner).filterMap Requirement.read?
  | none => []

/-! ### The manifest of a project -/

structure ManifestFile where
  name : String
  requirements? : Text → Option (List Requirement)

/-- The files that may declare packages, in the order in which they count. -/
def manifestFiles : List ManifestFile :=
  [⟨"requirements.txt", fun text => some (lineRequirements text)⟩,
   ⟨"pyproject.toml", documentRequirements?⟩,
   ⟨"setup.py", fun text => some (scriptRequirements text)⟩]

namespace Manifest

/-- What a file contributes: nothing if there is no such file, else requirements or a fault. -/
def contribution? (files : Disk.Access) (root : Path) (file : ManifestFile) :
    Option (Except ManifestFault (List Requirement)) :=
  let path := root.join file.name
  if !files.isFile path then none
  else
    match files.readText path with
    | .error fault => some (.error (.unreadable fault))
    | .ok text =>
      match file.requirements? text with
      | some requirements => some (.ok requirements)
      | none => some (.error .malformed)

def addFile (files : Disk.Access) (root : Path)
    (state : Manifest × List (String × ManifestFault)) (file : ManifestFile) :
    Manifest × List (String × ManifestFault) :=
  match contribution? files root file with
  | none => state
  | some (.error fault) => (state.1, state.2 ++ [(file.name, fault)])
  | some (.ok requirements) =>
    let manifest := state.1.insertAll requirements
    ({ manifest with sources := manifest.sources ++ [file.name] }, state.2)

def readFrom (files : Disk.Access) (root : Path) : Except ManifestError Manifest :=
  let (manifest, faults) := manifestFiles.foldl (addFile files root) ({}, [])
  if manifest.sources.isEmpty then
    .error (if faults.isEmpty then .absent root else .faulty faults)
  else .ok manifest

def read (disk : Disk) (root : Path) : Except ManifestError Manifest :=
  readFrom disk.access root

end Manifest

end AgentProbe
