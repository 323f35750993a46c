import AgentProbe.Data.Value
import AgentProbe.Files.Path

set_option autoImplicit false

/-!
Building documents from fields.
-/

namespace AgentProbe.Value

def ofFields (fields : List (String × Value)) : Value :=
  .map (fields.map fun field => (.string field.1, field.2))

def ofNat (count : Nat) : Value :=
  .integer (Int.ofNat count)

def ofStrings (texts : List String) : Value :=
  .list (texts.map .string)

def ofPaths (paths : List Path) : Value :=
  .list (paths.map fun path => .string path.text)

def ofOption {α : Type} (convert : α → Value) : Option α → Value
  | some value => convert value
  | none => .null

/-- A field that is left out if there is no value for it. -/
def optionalField {α : Type} (name : String) (convert : α → Value) (value : Option α) :
    List (String × Value) :=
  (value.map fun present => (name, convert present)).toList

end AgentProbe.Value
