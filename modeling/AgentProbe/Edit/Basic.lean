import AgentProbe.Text.Basic

set_option autoImplicit false

/-!
Text edits and their application.

Every edit replaces a span of the text as it was before any edit.  Edits are applied from the end
of the text backwards, so that the spans above an applied edit stay valid.
-/

namespace AgentProbe

/-- Replaces the bytes from `start` to `stop` by `replacement`. -/
structure TextEdit where
  /-- The injection point that the edit realises. -/
  id : Nat
  start : Nat
  stop : Nat
  replacement : Text
  /-- Edits at one offset appear in the order of their ranks. -/
  rank : Nat := 0
deriving DecidableEq, Repr, Inhabited

inductive EditFault where
  | outside (start stop : Nat)
  | overlaps (other : Nat)
  | noArgumentList | bareGenerator | keywordSet | noValue
deriving DecidableEq, Repr, Inhabited

def EditFault.message : EditFault → String
  | .outside start stop => "span " ++ toString start ++ ".." ++ toString stop ++ " is outside the source"
  | .overlaps other => "overlaps edit " ++ toString other
  | .noArgumentList => "call has no argument list"
  | .bareGenerator => "call takes a bare generator expression"
  | .keywordSet => "keyword is already set"
  | .noValue => "keyword argument has no value"

inductive EditError where
  | unresolvedAnchor (anchor : String)
  | anchorKindMismatch (anchor expected found : String)
  | duplicateAnchor (anchor kind : String)
  | inapplicable (edit : Nat) (fault : EditFault)
deriving DecidableEq, Repr, Inhabited

def EditError.message : EditError → String
  | .unresolvedAnchor anchor =>
    "Node reference " ++ anchor ++ " does not resolve in the current tree"
  | .anchorKindMismatch anchor expected found =>
    "Node reference " ++ anchor ++ " resolved to " ++ found ++ ", expected " ++ expected
  | .duplicateAnchor anchor kind =>
    "Plan contains two " ++ kind ++ " edits for node " ++ anchor
  | .inapplicable edit fault =>
    "Edit " ++ toString edit ++ " cannot be applied: " ++ fault.message

namespace TextEdit

def insert (id offset : Nat) (text : Text) (rank : Nat) : TextEdit :=
  ⟨id, offset, offset, text, rank⟩

def replace (id start stop : Nat) (text : Text) : TextEdit :=
  ⟨id, start, stop, text, 0⟩

def isInsertion (edit : TextEdit) : Bool :=
  edit.start == edit.stop

/-- The order of edits in the text: by start, then rank, then id. -/
def precedes (left right : TextEdit) : Bool :=
  if left.start != right.start then left.start < right.start
  else if left.rank != right.rank then left.rank < right.rank
  else left.id ≤ right.id

def fits (source : Text) (edit : TextEdit) : Bool :=
  edit.start ≤ edit.stop && edit.stop ≤ Text.bytes source
    && Text.isBoundary source edit.start && Text.isBoundary source edit.stop

def apply (text : Text) (edit : TextEdit) : Text :=
  Text.upTo text edit.start ++ edit.replacement ++ Text.since text edit.stop

/-- The first edit that starts before the one in front of it ends, with the one in front. -/
def overlap? : List TextEdit → Option (TextEdit × TextEdit)
  | first :: second :: rest =>
    if first.stop > second.start then some (first, second) else overlap? (second :: rest)
  | _ => none

def ordered (edits : List TextEdit) : List TextEdit :=
  edits.mergeSort precedes

end TextEdit

/-- Applies edits to a text, if every span fits and no two overlap. -/
def applyEdits (source : Text) (edits : List TextEdit) : Except EditError Text :=
  let ordered := TextEdit.ordered edits
  match ordered.find? fun edit => !edit.fits source with
  | some edit => .error (.inapplicable edit.id (.outside edit.start edit.stop))
  | none =>
    match TextEdit.overlap? ordered with
    | some (first, second) => .error (.inapplicable second.id (.overlaps first.id))
    | none => .ok (ordered.foldr (fun edit text => edit.apply text) source)

end AgentProbe
