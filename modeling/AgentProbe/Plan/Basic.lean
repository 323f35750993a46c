import AgentProbe.Syntax.Node
import AgentProbe.Pattern.Basic

set_option autoImplicit false

/-!
Edit plans: the edits that a file is to receive, each attached to a node of its syntax tree.
-/

namespace AgentProbe

open Syntax (NodeRef)

inductive EditKind where
  /-- Adds import lines after the anchor statement. -/
  | insertImport
  /-- Adds a block of code after the anchor statement. -/
  | insertAfter
  /-- Makes a keyword of the anchor call carry the payload. -/
  | argument (keyword : String) (mode : MergeMode)
deriving DecidableEq, Repr, Inhabited

namespace EditKind

def tag : EditKind → String
  | .insertImport => "insert_import"
  | .insertAfter => "insert_after"
  | .argument _ _ => "add_or_merge_argument"

/-- The order of edits at one offset: imports first. -/
def rank : EditKind → Nat
  | .insertImport => 0
  | .insertAfter => 1
  | .argument _ _ => 2

end EditKind

structure InjectionPoint where
  /-- The position in the plan. -/
  id : Nat := 0
  anchor : NodeRef
  kind : EditKind
  /-- The text to insert, or the argument expression. -/
  payload : String
  /-- The patterns the edit came from, with commas between them. -/
  patternId : String
  /-- The line of the anchor. -/
  line : Nat
deriving DecidableEq, Repr, Inhabited

structure Conflict where
  anchor : NodeRef
  line : Nat
  patternIds : List String
deriving DecidableEq, Repr, Inhabited

def Conflict.message (conflict : Conflict) : String :=
  "Conflicting edits on " ++ conflict.anchor.display ++ " (line " ++ toString conflict.line
    ++ ") from patterns " ++ ", ".intercalate conflict.patternIds

/-- The edits for one file, or the conflict because of which it gets none. -/
structure EditPlan where
  path : String
  points : List InjectionPoint := []
  conflict : Option Conflict := none
deriving DecidableEq, Repr, Inhabited

namespace EditPlan

def number (index : Nat) : List InjectionPoint → List InjectionPoint
  | [] => []
  | point :: points => { point with id := index } :: number (index + 1) points

def ofPoints (path : String) (points : List InjectionPoint) : EditPlan :=
  { path, points := number 0 points }

def conflicted (path : String) (conflict : Conflict) : EditPlan :=
  { path, conflict := some conflict }

def isEmpty (plan : EditPlan) : Bool :=
  plan.points.isEmpty

def patternIds (plan : EditPlan) : List String :=
  let ids := plan.points.flatMap fun point =>
    (Text.splitOn ',' point.patternId.toList).map String.ofList
  (ids.mergeSort fun left right => !decide (right < left)).eraseReps

end EditPlan

end AgentProbe
