import AgentProbe.Data.Yaml.Document
import AgentProbe.Detection.Signature
import AgentProbe.Pattern.Document

set_option autoImplicit false

/-!
Catalogs as they stand in documents.
-/

namespace AgentProbe

def Signature.ofValue? (origin : Origin) (value : Value) : Option Signature := do
  let record ← Record.read? origin ["name", "display_name", "packages", "modules", "anchors"] value
  some {
    name := ← record.required? "name" Value.asString?
    displayName := ← record.defaulted? "display_name" "" Value.asString?
    packages := ← record.required? "packages" (Value.asStrings? origin)
    modules := ← record.required? "modules" (Value.asStrings? origin)
    anchors := ← record.defaulted? "anchors" [] (Value.asStrings? origin) }

def Catalog.ofYaml? (text : Text) : Option Catalog := do
  let record ← Record.read? .yaml ["frameworks"] (← Yaml.read? text)
  some {
    signatures := ← record.required? "frameworks" (Value.asList? .yaml (Signature.ofValue? .yaml)) }

end AgentProbe
