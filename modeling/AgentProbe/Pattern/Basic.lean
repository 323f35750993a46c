import AgentProbe.Text.Letter
import AgentProbe.Config.Target

set_option autoImplicit false

/-!
Instrumentation patterns: the code fragments for one framework on one platform.

The structure of a pattern is checked here; the code it carries is judged only after it was put
into a file, by reading the file again.
-/

namespace AgentProbe

inductive MergeMode where
  /-- The keyword holds a list; the value becomes an element. -/
  | list
  /-- The keyword holds one value; an existing one is left alone. -/
  | value
deriving DecidableEq, Repr, Inhabited

def MergeMode.name : MergeMode → String
  | .list => "list"
  | .value => "value"

def MergeMode.ofName? (name : String) : Option MergeMode :=
  [MergeMode.list, .value].find? fun mode => mode.name == name

/-- A keyword argument that the anchor call has to carry. -/
structure CallSiteRule where
  /-- Callees to anchor on; none means the framework's own anchors. -/
  callees : List String := []
  keyword : String
  /-- The expression to add. -/
  value : String
  mode : MergeMode := .list
  /-- The targets the rule serves; none means always. -/
  targets : List Target := []
deriving DecidableEq, Repr, Inhabited

def CallSiteRule.appliesTo (rule : CallSiteRule) (targets : List Target) : Bool :=
  rule.targets.isEmpty || rule.targets.any targets.contains

/-- Code fragments as written in a descriptor, before an id is assigned. -/
structure Template where
  /-- Import statements, one for each entry. -/
  imports : List String := []
  /-- Module-level code placed after the imports. -/
  initCode : Option String := none
  callSite : Option CallSiteRule := none
deriving DecidableEq, Repr, Inhabited

structure Pattern extends Template where
  id : String := ""
deriving DecidableEq, Repr, Inhabited

inductive PatternFault where
  | emptyId | multilineImport | keywordNotIdentifier | emptyValue
  /-- The file that should hold the pattern cannot be read as one. -/
  | unreadable (detail : String)
deriving DecidableEq, Repr, Inhabited

def PatternFault.message : PatternFault → String
  | .emptyId => "pattern id is empty"
  | .multilineImport => "an import entry spans several lines"
  | .keywordNotIdentifier => "call-site keyword is not an identifier"
  | .emptyValue => "call-site value is empty"
  | .unreadable detail => detail

inductive PatternError where
  | notFound (framework platform : String)
  | providerFailed (detail : String)
  | invalid (id : String) (fault : PatternFault)
deriving DecidableEq, Repr, Inhabited

def PatternError.message : PatternError → String
  | .notFound framework platform =>
    "No instrumentation pattern for " ++ framework ++ " on " ++ platform
  | .providerFailed detail => "Pattern provider failed: " ++ detail
  | .invalid id fault => "Invalid pattern " ++ id ++ ": " ++ fault.message

def isIdentifier (text : String) : Bool :=
  match text.toList with
  | [] => false
  | c :: rest => (isLetter c || c == '_') && rest.all fun c => isLetterOrNumeral c || c == '_'

abbrev Bindings := List (String × String)

/-- Text with every placeholder, a name in two pairs of braces, replaced by its value; the bindings
are applied one after the other. -/
def Bindings.fill (bindings : Bindings) (text : String) : String :=
  bindings.foldl
    (fun text binding => replaced ("\x7b\x7b" ++ binding.1 ++ "\x7d\x7d") binding.2 text) text

namespace Pattern

def defaultId (platform framework : String) : String :=
  platform ++ "/" ++ framework

def withDefaultId (pattern : Pattern) (platform framework : String) : Pattern :=
  if pattern.id.isEmpty then { pattern with id := defaultId platform framework } else pattern

def isEmpty (pattern : Pattern) : Bool :=
  pattern.imports.all isBlankString
    && (pattern.initCode.map isBlankString).getD true
    && pattern.callSite.isNone

def render (pattern : Pattern) (bindings : Bindings) : Pattern :=
  { pattern with
    imports := pattern.imports.map bindings.fill
    initCode := pattern.initCode.map bindings.fill
    callSite := pattern.callSite.map fun rule => { rule with value := bindings.fill rule.value } }

def fault? (pattern : Pattern) : Option PatternFault :=
  if isBlankString pattern.id then some .emptyId
  else if pattern.imports.any fun entry => entry.toList.contains '\n' then some .multilineImport
  else
    match pattern.callSite with
    | none => none
    | some rule =>
      if !isIdentifier rule.keyword then some .keywordNotIdentifier
      else if isBlankString rule.value then some .emptyValue
      else none

def validate (pattern : Pattern) : Except PatternError Unit :=
  match pattern.fault? with
  | none => .ok ()
  | some fault => .error (.invalid pattern.id fault)

end Pattern

def Template.toPattern (template : Template) (id : String) : Pattern :=
  { template with id }

end AgentProbe
