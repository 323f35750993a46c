set_option autoImplicit false

/-!
The states that a file goes through, and the moves between them.

A file moves forward one state at a time.  It ends committed, rolled back or skipped, and from there
no move is allowed.
-/

namespace AgentProbe

inductive FileState where
  | scanned | detected | planned | injected | validated | committed | rolledBack | skipped
deriving DecidableEq, Repr, Inhabited

namespace FileState

def all : List FileState :=
  [.scanned, .detected, .planned, .injected, .validated, .committed, .rolledBack, .skipped]

def name : FileState → String
  | .scanned => "scanned"
  | .detected => "detected"
  | .planned => "planned"
  | .injected => "injected"
  | .validated => "validated"
  | .committed => "committed"
  | .rolledBack => "rolled_back"
  | .skipped => "skipped"

def ofName? (name : String) : Option FileState :=
  all.find? fun state => state.name == name

def isTerminal : FileState → Bool
  | .committed | .rolledBack | .skipped => true
  | _ => false

/-- Whether a state may follow another.  A plan that cannot be applied, a text that breaks and a
failed write are rolled back; a file that nothing is to be done to is skipped. -/
def allows : FileState → FileState → Bool
  | .scanned, .detected => true
  | .detected, .planned => true
  | .detected, .skipped => true
  | .planned, .injected => true
  | .planned, .skipped => true
  | .planned, .rolledBack => true
  | .injected, .validated => true
  | .injected, .rolledBack => true
  | .validated, .committed => true
  | .validated, .rolledBack => true
  | _, _ => false

end FileState

structure IllegalMove where
  source : FileState
  target : FileState
deriving DecidableEq, Repr, Inhabited

def IllegalMove.message (move : IllegalMove) : String :=
  "Illegal state transition " ++ move.source.name ++ " -> " ++ move.target.name

def FileState.advance (state next : FileState) : Except IllegalMove FileState :=
  if state.allows next then .ok next else .error ⟨state, next⟩

end AgentProbe
