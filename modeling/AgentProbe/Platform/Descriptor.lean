import AgentProbe.Pattern.Basic

set_option autoImplicit false

/-!
Platform descriptors: what an observability platform needs and which patterns it has.
-/

namespace AgentProbe

structure EnvVar where
  name : String
  description : String := ""
  required : Bool := false
deriving DecidableEq, Repr, Inhabited

structure Platform where
  name : String
  displayName : String
  description : String := ""
  /-- Packages that instrumented code needs. -/
  dependencies : List String
  envVars : List EnvVar
  /-- The pattern for frameworks without one of their own. -/
  fallback : Option Template := none
  /-- Patterns of frameworks, by name. -/
  frameworks : List (String × Template) := []
deriving DecidableEq, Repr, Inhabited

namespace Platform

def template? (platform : Platform) (framework : String) : Option (String × Template) :=
  match platform.frameworks.find? fun entry => entry.1 == framework with
  | some (_, template) => some (framework, template)
  | none => platform.fallback.map fun template => ("default", template)

/-- The pattern for a framework at a version.  A call-site rule that serves none of the targets is
left out. -/
def pattern (platform : Platform) (framework version : String) (targets : List Target) :
    Except PatternError Pattern :=
  match platform.template? framework with
  | none => .error (.notFound framework platform.name)
  | some (key, template) =>
    let rendered := (template.toPattern (Pattern.defaultId platform.name key)).render
      [("platform", platform.name), ("framework", framework), ("version", version)]
    .ok { rendered with
      callSite := rendered.callSite.filter fun rule => rule.appliesTo targets }

end Platform

end AgentProbe
