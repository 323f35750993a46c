import AgentProbe.Platform.Descriptor

set_option autoImplicit false

/-!
The platforms known without any configuration.
-/

namespace AgentProbe

namespace Platform

def langfuse : Platform :=
  { name := "langfuse"
    displayName := "Langfuse"
    description :=
      "Open-source LLM engineering platform with tracing, evals and prompt management."
    dependencies :=
      ["langfuse>=2.0.0"]
    envVars :=
      [{ name := "LANGFUSE_PUBLIC_KEY"
         description := "Langfuse public API key"
         required := true },
       { name := "LANGFUSE_SECRET_KEY"
         description := "Langfuse secret API key"
         required := true },
       { name := "LANGFUSE_HOST"
         description := "Langfuse host URL (defaults to https://cloud.langfuse.com)"
         required := false }]
    fallback := some
      { imports :=
          ["import os",
           "from langfuse import Langfuse"]
        initCode := some
          ("langfuse_client = Langfuse(\n"
           ++ "    public_key=os.getenv(\"LANGFUSE_PUBLIC_KEY\"),\n"
           ++ "    secret_key=os.getenv(\"LANGFUSE_SECRET_KEY\"),\n"
           ++ "    host=os.getenv(\"LANGFUSE_HOST\", \"https://cloud.langfuse.com\"),\n"
           ++ ")\n") }
    frameworks :=
      [("langchain",
        { imports :=
            ["import os",
             "from langfuse.callback import CallbackHandler"]
          initCode := some
            ("langfuse_handler = CallbackHandler(\n"
             ++ "    public_key=os.getenv(\"LANGFUSE_PUBLIC_KEY\"),\n"
             ++ "    secret_key=os.getenv(\"LANGFUSE_SECRET_KEY\"),\n"
             ++ "    host=os.getenv(\"LANGFUSE_HOST\", \"https://cloud.langfuse.com\"),\n"
             ++ ")\n")
          callSite := some
            { callees := ["AgentExecutor"]
              keyword := "callbacks"
              value := "langfuse_handler"
              mode := .list
              targets := [.llmCalls, .chains, .tools] } }),
       ("langgraph",
        { imports :=
            ["import os",
             "from langfuse.callback import CallbackHandler"]
          initCode := some
            ("langfuse_handler = CallbackHandler(\n"
             ++ "    public_key=os.getenv(\"LANGFUSE_PUBLIC_KEY\"),\n"
             ++ "    secret_key=os.getenv(\"LANGFUSE_SECRET_KEY\"),\n"
             ++ "    host=os.getenv(\"LANGFUSE_HOST\", \"https://cloud.langfuse.com\"),\n"
             ++ ")\n") }),
       ("openai-agents",
        { imports :=
            ["from langfuse.openai import openai"] }),
       ("pydantic-ai",
        { imports :=
            ["from langfuse.decorators import langfuse_context"]
          initCode := some
            ("langfuse_context.configure(enabled=True)\n") })] }

def langsmith : Platform :=
  { name := "langsmith"
    displayName := "LangSmith"
    description :=
      "LangChain's platform for tracing, monitoring and evaluating LLM applications."
    dependencies :=
      ["langsmith>=0.1.0"]
    envVars :=
      [{ name := "LANGCHAIN_API_KEY"
         description := "LangSmith API key"
         required := true },
       { name := "LANGCHAIN_TRACING_V2"
         description := "Set to \"true\" to enable tracing"
         required := true },
       { name := "LANGCHAIN_PROJECT"
         description := "Project name for grouping traces"
         required := false },
       { name := "LANGCHAIN_ENDPOINT"
         description := "LangSmith API endpoint"
         required := false }]
    fallback := some
      { imports :=
          ["from langsmith import Client"]
        initCode := some
          ("langsmith_client = Client()\n") }
    frameworks :=
      [("langchain",
        { imports :=
            ["import os"]
          initCode := some
            ("os.environ.setdefault(\"LANGCHAIN_TRACING_V2\", \"true\")\n"
             ++ "os.environ.setdefault(\"LANGCHAIN_PROJECT\", "
             ++ "\"\x7b\x7bframework\x7d\x7d-agent\")\n") }),
       ("langgraph",
        { imports :=
            ["import os"]
          initCode := some
            ("os.environ.setdefault(\"LANGCHAIN_TRACING_V2\", \"true\")\n"
             ++ "os.environ.setdefault(\"LANGCHAIN_PROJECT\", "
             ++ "\"\x7b\x7bframework\x7d\x7d-agent\")\n") })] }

def phoenix : Platform :=
  { name := "phoenix"
    displayName := "Arize Phoenix"
    description :=
      "Open-source observability for LLM applications built on OpenInference."
    dependencies :=
      ["arize-phoenix>=4.0.0",
       "openinference-instrumentation-langchain>=0.1.0"]
    envVars :=
      [{ name := "PHOENIX_COLLECTOR_ENDPOINT"
         description := "Phoenix collector endpoint (defaults to a local session)"
         required := false }]
    fallback := some
      { imports :=
          ["import phoenix as px"]
        initCode := some
          ("phoenix_session = px.launch_app()\n") }
    frameworks :=
      [("crewai",
        { imports :=
            ["import phoenix as px",
             "from openinference.instrumentation.crewai import CrewAIInstrumentor"]
          initCode := some
            ("phoenix_session = px.launch_app()\n"
             ++ "CrewAIInstrumentor().instrument()\n") }),
       ("langchain",
        { imports :=
            ["import phoenix as px",
             "from openinference.instrumentation.langchain import LangChainInstrumentor"]
          initCode := some
            ("phoenix_session = px.launch_app()\n"
             ++ "LangChainInstrumentor().instrument()\n") }),
       ("langgraph",
        { imports :=
            ["import phoenix as px",
             "from openinference.instrumentation.langchain import LangChainInstrumentor"]
          initCode := some
            ("phoenix_session = px.launch_app()\n"
             ++ "LangChainInstrumentor().instrument()\n") }),
       ("openai-agents",
        { imports :=
            ["import phoenix as px",
             "from openinference.instrumentation.openai_agents import OpenAIAgentsInstrumentor"]
          initCode := some
            ("phoenix_session = px.launch_app()\n"
             ++ "OpenAIAgentsInstrumentor().instrument()\n") })] }

def datadog : Platform :=
  { name := "datadog"
    displayName := "DataDog APM"
    description :=
      "DataDog application performance monitoring with LLM Observability."
    dependencies :=
      ["ddtrace>=2.14.0"]
    envVars :=
      [{ name := "DD_API_KEY"
         description := "DataDog API key"
         required := true },
       { name := "DD_SITE"
         description := "DataDog site (e.g. datadoghq.com)"
         required := false },
       { name := "DD_SERVICE"
         description := "Service name reported to DataDog"
         required := false },
       { name := "DD_ENV"
         description := "Deployment environment tag"
         required := false }]
    fallback := some
      { imports :=
          ["import os",
           "from ddtrace import tracer"]
        initCode := some
          ("tracer.set_tags(\x7b\"service\": os.getenv(\"DD_SERVICE\", "
           ++ "\"\x7b\x7bframework\x7d\x7d-agent\"), \"env\": os.getenv(\"DD_ENV\", "
           ++ "\"development\")\x7d)\n") }
    frameworks :=
      [("langchain",
        { imports :=
            ["import os",
             "from ddtrace import tracer, patch"]
          initCode := some
            ("patch(langchain=True)\n"
             ++ "tracer.set_tags(\x7b\"service\": os.getenv(\"DD_SERVICE\", \"langchain-agent\"), "
             ++ "\"env\": os.getenv(\"DD_ENV\", \"development\")\x7d)\n") }),
       ("openai-agents",
        { imports :=
            ["from ddtrace import patch"]
          initCode := some
            ("patch(openai=True)\n") })] }

def builtins : List (String × Platform) :=
  [("builtin/langfuse.yaml", langfuse), ("builtin/langsmith.yaml", langsmith),
   ("builtin/phoenix.yaml", phoenix), ("builtin/datadog.yaml", datadog)]

def builtin? (name : String) : Option Platform :=
  (builtins.find? fun entry => entry.2.name == name).map Prod.snd

end Platform

end AgentProbe
