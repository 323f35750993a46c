import AgentProbe.Run.Diagnostic
import AgentProbe.Run.State

set_option autoImplicit false

/-!
The outcome of one file: the state that it reached and the diagnostics on the way.
-/

namespace AgentProbe

structure FileOutcome where
  path : Path
  state : FileState := .scanned
  diagnostics : List Diagnostic := []
  /-- Whether a pattern was found for the file. -/
  platformUsed : Bool := false
deriving DecidableEq, Repr, Inhabited

namespace FileOutcome

/-- The outcome with a diagnostic, which gets the path of the file unless it names a file. -/
def push (outcome : FileOutcome) (diagnostic : Diagnostic) : FileOutcome :=
  { outcome with
    diagnostics :=
      outcome.diagnostics ++ [{ diagnostic with file := diagnostic.file.or (some outcome.path) }] }

/-- The outcome after a move.  An illegal move changes nothing and is reported. -/
def advance (outcome : FileOutcome) (next : FileState) : FileOutcome :=
  match outcome.state.advance next with
  | .ok state => { outcome with state }
  | .error move =>
    outcome.push { severity := .error, stage := .pipeline, message := move.message }

end FileOutcome

end AgentProbe
