import AgentProbe.Text.Basic

set_option autoImplicit false

/-!
Paths of files, as they are written and as a sequence of steps.

A path keeps the text it was written as, which is what messages show.  Two paths are compared by
their steps: repeated and closing slashes do not count, and neither does a dot, unless it opens the
path.
-/

namespace AgentProbe

structure Path where
  text : String
deriving DecidableEq, Repr, Inhabited

namespace Path

inductive Step where
  | root
  | here
  | up
  | name (word : String)
deriving DecidableEq, Repr, Inhabited

def Step.compare : Step → Step → Ordering
  | .name left, .name right => Ord.compare left right
  | left, right => Ord.compare (rank left) (rank right)
where
  rank : Step → Nat
    | .root => 0
    | .here => 1
    | .up => 2
    | .name _ => 3

def Step.ofPiece (piece : Text) : Step :=
  match piece with
  | [] => .here
  | ['.'] => .here
  | ['.', '.'] => .up
  | _ => .name (String.ofList piece)

def isAbsolute (path : Path) : Bool :=
  path.text.toList.head? == some '/'

/-- The steps that the file system takes, from the root or the current directory on.  A closing
slash asks for a directory, and so does the step it stands for. -/
def trail (path : Path) : List Step :=
  (Text.splitOn '/' path.text.toList).map Step.ofPiece

def steps (path : Path) : List Step :=
  let pieces := Text.splitOn '/' path.text.toList
  let opening := if path.isAbsolute then [Step.root]
    else if pieces.head? == some ['.'] then [Step.here] else []
  opening ++ (pieces.map Step.ofPiece).filter (· != .here)

def same (left right : Path) : Bool :=
  left.steps == right.steps

def compareSteps : List Step → List Step → Ordering
  | [], [] => .eq
  | [], _ :: _ => .lt
  | _ :: _, [] => .gt
  | left :: lefts, right :: rights => (left.compare right).then (compareSteps lefts rights)

def le (left right : Path) : Bool :=
  compareSteps left.steps right.steps != .gt

def sorted (paths : List Path) : List Path :=
  paths.mergeSort le

/-- A path below another; an absolute path stands for itself. -/
def join (base : Path) (below : String) : Path :=
  if below.toList.head? == some '/' || base.text.isEmpty then ⟨below⟩
  else if base.text.toList.getLast? == some '/' then ⟨base.text ++ below⟩
  else ⟨base.text ++ "/" ++ below⟩

def joinAll (base : Path) (names : List String) : Path :=
  names.foldl join base

def fileName (path : Path) : Option String :=
  match path.steps.getLast? with
  | some (.name name) => some name
  | _ => none

/-- What follows the last dot of a name, unless the name starts with that dot. -/
def extensionOf (name : String) : Option String :=
  match (Text.splitOn '.' name.toList).reverse with
  | last :: before :: rest =>
    if before.isEmpty && rest.isEmpty then none else some (String.ofList last)
  | _ => none

def extension (path : Path) : Option String :=
  path.fileName.bind extensionOf

def Step.text : Step → String
  | .root => ""
  | .here => "."
  | .up => ".."
  | .name word => word

/-- The directory that a path lies in: the current one if the path has one step. -/
def directory (path : Path) : Path :=
  match path.steps.dropLast with
  | [] => ⟨"."⟩
  | [.root] => ⟨"/"⟩
  | steps => ⟨"/".intercalate (steps.map Step.text)⟩

end Path

end AgentProbe
