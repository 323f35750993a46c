import AgentProbe.Edit.Injection

set_option autoImplicit false

/-!
Validation: an edited text is accepted only if it reads without a syntax error.

When it does not, the edit to blame is sought and the text before the edits is kept.  A formatter may
change an accepted text, as long as its output still reads without an error.
-/

namespace AgentProbe

open Syntax (SyntaxTree)

def breaks (text : Text) : Bool :=
  (SyntaxTree.parse text).hasErrors

/-- Whether a text with some edits applied has a syntax error, or cannot be made. -/
def breaksWith (source : Text) (edits : List TextEdit) : Bool :=
  match applyEdits source edits with
  | .error _ => true
  | .ok text => breaks text

/-- The last edit of the shortest prefix that breaks the text; `applied` are the edits before. -/
def blamePrefix (source : Text) (applied : List TextEdit) : List TextEdit → Option Nat
  | [] => none
  | edit :: edits =>
    if breaksWith source (applied ++ [edit]) then some edit.id
    else blamePrefix source (applied ++ [edit]) edits

/-- The edit to blame: the first that breaks the text on its own, else the last of the shortest
prefix that does. -/
def blame (source : Text) (edits : List TextEdit) : Option Nat :=
  match edits.find? fun edit => breaksWith source [edit] with
  | some edit => some edit.id
  | none => blamePrefix source [] edits

structure Formatter where
  name : String
  format : Text → Except String Text

def Formatter.identity : Formatter :=
  ⟨"none", .ok⟩

structure Culprit where
  edit : Nat
  patternId : String
  /-- The line of the edit's anchor. -/
  line : Nat
deriving DecidableEq, Repr, Inhabited

inductive ValidationError where
  | syntaxBroken (count line : Nat)
  | formatFailed (detail : String)
deriving DecidableEq, Repr, Inhabited

def ValidationError.message : ValidationError → String
  | .syntaxBroken count line =>
    "Edited source has " ++ toString count ++ " syntax error(s); first at line " ++ toString line
  | .formatFailed detail => "Formatter failed: " ++ detail

structure Verdict where
  success : Bool
  /-- The syntax errors of the edited text; none on success. -/
  faults : List SyntaxTree.Fault := []
  /-- The text to keep: the edited one on success, else the one before the edits. -/
  text : Text
  culprit : Option Culprit := none
  /-- Why the output of the formatter was not taken. -/
  formatError : Option String := none
deriving Repr, Inhabited

def Verdict.error (verdict : Verdict) : Option ValidationError :=
  if verdict.success then none
  else some (.syntaxBroken verdict.faults.length ((verdict.faults.head?.map (·.line)).getD 0))

/-- The formatted text, or the text as it is and the reason why it was kept. -/
def Formatter.run (formatter : Formatter) (text : Text) : Text × Option String :=
  match formatter.format text with
  | .ok formatted =>
    if breaks formatted then (text, some (formatter.name ++ " produced unparsable output"))
    else (formatted, none)
  | .error detail => (text, some (ValidationError.message (.formatFailed detail)))

def validate (formatter : Formatter) (source : Text) (plan : EditPlan) (injection : Injection) :
    Verdict :=
  if injection.tree.hasErrors then
    let culprit := (blame source injection.edits).bind fun edit =>
      (plan.points.find? fun point => point.id == edit).map fun point =>
        ⟨edit, point.patternId, point.line⟩
    { success := false, faults := injection.tree.faults, text := source, culprit }
  else
    let (text, formatError) := formatter.run injection.text
    { success := true, text, formatError }

end AgentProbe
