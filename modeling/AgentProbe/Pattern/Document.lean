import AgentProbe.Data.Record
import AgentProbe.Pattern.Basic

set_option autoImplicit false

/-!
Patterns and templates as they stand in documents.
-/

namespace AgentProbe

def Value.asStrings? (origin : Origin) (value : Value) : Option (List String) :=
  value.asList? origin Value.asString?

def Value.asTargets? (origin : Origin) (value : Value) : Option (List Target) :=
  value.asList? origin (Value.asChoice? Target.ofName?)

def CallSiteRule.ofValue? (origin : Origin) (value : Value) : Option CallSiteRule := do
  let record ← Record.read? origin ["callees", "keyword", "value", "mode", "targets"] value
  some {
    callees := ← record.defaulted? "callees" [] (Value.asStrings? origin)
    keyword := ← record.required? "keyword" Value.asString?
    value := ← record.required? "value" Value.asString?
    mode := ← record.defaulted? "mode" .list (Value.asChoice? MergeMode.ofName?)
    targets := ← record.defaulted? "targets" [] (Value.asTargets? origin) }

def Template.ofRecord? (origin : Origin) (record : Record) : Option Template := do
  some {
    imports := ← record.defaulted? "imports" [] (Value.asStrings? origin)
    initCode := ← record.defaulted? "init_code" none (Value.asOption? Value.asString?)
    callSite := ← record.defaulted? "call_site" none (Value.asOption? (CallSiteRule.ofValue? origin)) }

def Template.ofValue? (origin : Origin) (value : Value) : Option Template := do
  Template.ofRecord? origin (← Record.read? origin ["imports", "init_code", "call_site"] value)

def Pattern.ofValue? (origin : Origin) (value : Value) : Option Pattern := do
  let record ← Record.read? origin ["id", "imports", "init_code", "call_site"] value
  let template ← Template.ofRecord? origin record
  some { template with id := ← record.defaulted? "id" "" Value.asString? }

end AgentProbe
