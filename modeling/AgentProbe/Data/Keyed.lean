set_option autoImplicit false

/-!
Entries in the order of their keys.

A key stands once: an entry whose key is there already is not put in.
-/

namespace AgentProbe.Keyed

variable {α : Type}

/-- Puts an entry in its place among others, unless its key is there already. -/
def insert (key : String) (value : α) : List (String × α) → List (String × α)
  | [] => [(key, value)]
  | other :: entries =>
    if other.1 == key then other :: entries
    else if key < other.1 then (key, value) :: other :: entries
    else other :: insert key value entries

end AgentProbe.Keyed
