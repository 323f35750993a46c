import AgentProbe.Data.Json
import AgentProbe.Data.Yaml.Document
import AgentProbe.Files.Disk
import AgentProbe.Pattern.Document
import AgentProbe.Platform.Descriptor

set_option autoImplicit false

/-!
Platforms as they stand in descriptor documents.

A document is first read as a whole.  It has to be a mapping with an entry for each capability, and
only then are its fields read.
-/

namespace AgentProbe

inductive DescriptorFault where
  | notMapping
  | emptyName
  /-- The text is not a document, or a field has the wrong kind. -/
  | malformed
deriving DecidableEq, Repr, Inhabited

def DescriptorFault.message : DescriptorFault → String
  | .notMapping => "descriptor is not a mapping"
  | .emptyName => "name is empty"
  | .malformed => "malformed document"

inductive RegistryError where
  | notFound (name : String)
  | empty
  | missingCapabilities (source : String) (missing : List String)
  | invalidDescriptor (source : String) (fault : DescriptorFault)
  | duplicate (name : String)
  | io (fault : FileFault)
deriving DecidableEq, Repr, Inhabited

def RegistryError.message : RegistryError → String
  | .notFound name => "Platform not found: " ++ name
  | .empty => "No usable platform descriptors were loaded"
  | .missingCapabilities source missing =>
    "Descriptor " ++ source ++ " is missing capabilities: " ++ ", ".intercalate missing
  | .invalidDescriptor source fault =>
    "Invalid descriptor " ++ source ++ ": " ++ fault.message
  | .duplicate name => "Duplicate platform name: " ++ name
  | .io fault => "IO error reading plugin directory: " ++ fault.message

def EnvVar.ofValue? (origin : Origin) (value : Value) : Option EnvVar := do
  let record ← Record.read? origin ["name", "description", "required"] value
  some {
    name := ← record.required? "name" Value.asString?
    description := ← record.defaulted? "description" "" Value.asString?
    required := ← record.defaulted? "required" false Value.asBool? }

namespace Platform

/-- The keys of a descriptor that stand for capabilities, and the names of those. -/
def capabilities : List (String × String) :=
  [("name", "name"), ("display_name", "display_name"), ("dependencies", "get_dependencies"),
   ("env_vars", "get_env_vars"), ("instrumentation", "generate_instrumentation")]

def missing (document : Value) : List String :=
  (capabilities.filter fun capability =>
    ((document.get? capability.1).map Value.isNothing).getD true).map Prod.snd

def ofFields? (document : Value) : Option Platform := do
  let origin := Origin.document
  let record ← Record.read? origin
    ["name", "display_name", "description", "dependencies", "env_vars", "instrumentation"] document
  let table ← record.required? "instrumentation" (Record.read? origin ["default", "frameworks"])
  let frameworks ← table.defaulted? "frameworks" []
    (Value.asEntries? origin (Template.ofValue? origin))
  some {
    name := ← record.required? "name" Value.asString?
    displayName := ← record.required? "display_name" Value.asString?
    description := ← record.defaulted? "description" "" Value.asString?
    dependencies := ← record.required? "dependencies" (Value.asStrings? origin)
    envVars := ← record.required? "env_vars" (Value.asList? origin (EnvVar.ofValue? origin))
    fallback := ← table.defaulted? "default" none (Value.asOption? (Template.ofValue? origin))
    frameworks := frameworks.mergeSort fun a b => a.1 ≤ b.1 }

def ofDocument (source : String) (document : Value) : Except RegistryError Platform :=
  match document with
  | .map _ =>
    let missing := missing document
    if !missing.isEmpty then .error (.missingCapabilities source missing)
    else
      match ofFields? document with
      | none => .error (.invalidDescriptor source .malformed)
      | some platform =>
        if isBlankString platform.name then .error (.invalidDescriptor source .emptyName)
        else .ok platform
  | _ => .error (.invalidDescriptor source .notMapping)

def ofRead (source : String) (read : Option Value) : Except RegistryError Platform :=
  match read with
  | none => .error (.invalidDescriptor source .malformed)
  | some value =>
    let document := value.resolve
    if document.hasDistinctKeys then ofDocument source document
    else .error (.invalidDescriptor source .malformed)

def ofYaml (source : String) (text : Text) : Except RegistryError Platform :=
  ofRead source (Yaml.read? text)

def ofJson (source : String) (text : Text) : Except RegistryError Platform :=
  ofRead source (Json.read? text)

end Platform

end AgentProbe
