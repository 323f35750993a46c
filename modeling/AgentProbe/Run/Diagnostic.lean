import AgentProbe.Files.Path

set_option autoImplicit false

/-!
Diagnostics: problems that do not end a run, with what is needed to look into them.
-/

namespace AgentProbe

inductive Severity where
  | info | warning | error
deriving DecidableEq, Repr, Inhabited

def Severity.name : Severity → String
  | .info => "info"
  | .warning => "warning"
  | .error => "error"

def Severity.ofName? (name : String) : Option Severity :=
  [Severity.info, .warning, .error].find? fun severity => severity.name == name

inductive Stage where
  | scan | detect | pattern | plan | inject | validate | format | commit | pipeline
deriving DecidableEq, Repr, Inhabited

namespace Stage

def all : List Stage :=
  [.scan, .detect, .pattern, .plan, .inject, .validate, .format, .commit, .pipeline]

def name : Stage → String
  | .scan => "scan"
  | .detect => "detect"
  | .pattern => "pattern"
  | .plan => "plan"
  | .inject => "inject"
  | .validate => "validate"
  | .format => "format"
  | .commit => "commit"
  | .pipeline => "pipeline"

def ofName? (name : String) : Option Stage :=
  all.find? fun stage => stage.name == name

end Stage

structure Diagnostic where
  severity : Severity
  stage : Stage
  message : String
  file : Option Path := none
  patternId : Option String := none
  edit : Option Nat := none
  line : Option Nat := none
deriving DecidableEq, Repr, Inhabited

namespace Diagnostic

def place (diagnostic : Diagnostic) : String :=
  match diagnostic.file, diagnostic.line with
  | some file, some line => " " ++ file.text ++ ":" ++ toString line
  | some file, none => " " ++ file.text
  | none, _ => ""

/-- The diagnostic on one line.  A line number is shown only beside a file. -/
def display (diagnostic : Diagnostic) : String :=
  "[" ++ diagnostic.stage.name ++ "] " ++ diagnostic.severity.name ++ diagnostic.place
    ++ ((diagnostic.patternId.map fun id => " (pattern " ++ id ++ ")").getD "")
    ++ ((diagnostic.edit.map fun edit => " (edit " ++ toString edit ++ ")").getD "")
    ++ ": " ++ diagnostic.message

def isError (diagnostic : Diagnostic) : Bool :=
  diagnostic.severity == .error

def isNotable (diagnostic : Diagnostic) : Bool :=
  diagnostic.severity != .info

end Diagnostic

end AgentProbe
