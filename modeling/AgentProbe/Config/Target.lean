import AgentProbe.Text.Basic
import AgentProbe.Text.LowerCase

set_option autoImplicit false

/-!
What can be instrumented, and the levels that choose a set of it.
-/

namespace AgentProbe

inductive Target where
  | tools | llmCalls | rag | memory | chains | errors | subAgents | prompts
deriving DecidableEq, Repr, Inhabited

namespace Target

def all : List Target :=
  [.tools, .llmCalls, .rag, .memory, .chains, .errors, .subAgents, .prompts]

def name : Target → String
  | .tools => "tools"
  | .llmCalls => "llm_calls"
  | .rag => "rag"
  | .memory => "memory"
  | .chains => "chains"
  | .errors => "errors"
  | .subAgents => "sub_agents"
  | .prompts => "prompts"

def ofName? (name : String) : Option Target :=
  all.find? fun target => target.name == name

/-- Reads a target: blanks around it, case and the choice of `-` or `_` do not matter. -/
def read? (text : String) : Option Target :=
  ofName? (replaced "-" "_" (lowerCase (trimmed text)))

end Target

/-- A level of detail.  Each level implies a set of targets. -/
inductive Level where
  | minimal | standard | comprehensive
deriving DecidableEq, Repr, Inhabited

namespace Level

def name : Level → String
  | .minimal => "minimal"
  | .standard => "standard"
  | .comprehensive => "comprehensive"

def ofName? (name : String) : Option Level :=
  [Level.minimal, .standard, .comprehensive].find? fun level => level.name == name

/-- Reads a level; case does not matter. -/
def read? (text : String) : Option Level :=
  ofName? (lowerCase text)

def targets : Level → List Target
  | .minimal => [.llmCalls]
  | .standard => [.tools, .llmCalls, .chains, .errors]
  | .comprehensive => Target.all

end Level

end AgentProbe
