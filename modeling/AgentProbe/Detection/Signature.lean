import AgentProbe.Syntax.Query
import AgentProbe.Text.LowerCase

set_option autoImplicit false

/-!
Signatures of agent frameworks: how each is recognised in manifests and in code.
-/

namespace AgentProbe

/-- A package name in the form in which names are compared: lower case, with `-` for `_` and
`.`. -/
def normalizePackage (name : String) : String :=
  String.ofList ((lowerCase (trimmed name)).toList.map fun c =>
    if c == '_' || c == '.' then '-' else c)

structure Signature where
  name : String
  displayName : String := ""
  /-- Distribution names in manifests. -/
  packages : List String
  /-- Modules whose import proves usage. -/
  modules : List String
  /-- Callees of entry-point calls, highest priority first. -/
  anchors : List String := []
deriving DecidableEq, Repr, Inhabited

namespace Signature

def matchesModule (signature : Signature) (module : String) : Bool :=
  signature.modules.any fun root => Syntax.Import.isWithin root module

def matchesPackage (signature : Signature) (package : String) : Bool :=
  signature.packages.any fun own => normalizePackage own == package

end Signature

structure Catalog where
  signatures : List Signature := []
deriving DecidableEq, Repr, Inhabited

namespace Catalog

def get? (catalog : Catalog) (name : String) : Option Signature :=
  catalog.signatures.find? fun signature => signature.name == name

def builtin : Catalog :=
  { signatures :=
      [{ name := "langchain", displayName := "LangChain"
         packages := ["langchain", "langchain-core", "langchain-openai", "langchain-anthropic",
           "langchain-community"]
         modules := ["langchain", "langchain_core", "langchain_openai", "langchain_anthropic",
           "langchain_community"]
         anchors := ["AgentExecutor", "create_react_agent", "create_openai_functions_agent",
           "create_structured_chat_agent", "ChatOpenAI", "ChatAnthropic"] },
       { name := "langgraph", displayName := "LangGraph"
         packages := ["langgraph"], modules := ["langgraph"]
         anchors := ["StateGraph", "MessageGraph"] },
       { name := "openai-agents", displayName := "OpenAI Agents SDK"
         packages := ["openai-agents"], modules := ["agents"]
         anchors := ["Agent", "Runner"] },
       { name := "pydantic-ai", displayName := "Pydantic AI"
         packages := ["pydantic-ai", "pydantic-ai-slim"], modules := ["pydantic_ai"]
         anchors := ["Agent"] },
       { name := "crewai", displayName := "CrewAI"
         packages := ["crewai"], modules := ["crewai"]
         anchors := ["Crew", "Agent", "Task"] },
       { name := "claude-agent-sdk", displayName := "Claude Agent SDK"
         packages := ["claude-agent-sdk"], modules := ["claude_agent_sdk"]
         anchors := ["ClaudeAgentOptions", "ClaudeSDKClient"] },
       { name := "google-adk", displayName := "Google ADK"
         packages := ["google-adk"], modules := ["google.adk"]
         anchors := ["LlmAgent", "Agent", "Runner"] },
       { name := "autogen", displayName := "AutoGen"
         packages := ["autogen-agentchat", "pyautogen", "autogen"]
         modules := ["autogen", "autogen_agentchat"]
         anchors := ["AssistantAgent", "UserProxyAgent", "ConversableAgent"] }] }

end Catalog

end AgentProbe
