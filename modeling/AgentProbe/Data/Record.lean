import AgentProbe.Data.Value

set_option autoImplicit false

/-!
Reading records and lists from structured data.

A record is a map from field names to values; unknown fields are ignored, and a known field may not
occur twice.  How much is accepted beside that depends on where the value comes from.
-/

namespace AgentProbe

inductive Origin where
  /-- A JSON text: a record may also be the list of its fields in order. -/
  | json
  /-- A YAML text: a place left empty may stand for an empty list or record. -/
  | yaml
  /-- A document that was read before its fields: nothing may stand for an empty list or record. -/
  | document
deriving DecidableEq, Repr, Inhabited

namespace Value

/-! ### Scalars -/

/-- The text of a string field; a bare scalar is taken as it is written. -/
def asString? : Value → Option String
  | .string text => some text
  | .bare text => some text
  | _ => none

def asBool? : Value → Option Bool
  | .bool value => some value
  | .bare text => Bare.bool? text
  | _ => none

/-- The value of a counting field, which fits in 64 bits. -/
def asCount? : Value → Option Nat
  | .integer value => if 0 ≤ value && value.toNat < Nat.pow 2 64 then some value.toNat else none
  | .bare text => (Bare.integer? text).bind fun value =>
    if text.toList.head? == some '-' then none else some value.toNat
  | _ => none

def asFloat? : Value → Option Float
  | .float value => some value
  | .integer value => some ({ negative := value < 0, digits := value.natAbs, exponent := 0 } : Decimal).toFloat
  | .bare text => Bare.float? text
  | _ => none

def isNothing : Value → Bool
  | .null => true
  | .bare text => Bare.isNull text
  | _ => false

def asOption? {α : Type} (read : Value → Option α) (value : Value) : Option (Option α) :=
  if value.isNothing then some none else (read value).map some

def asChoice? {α : Type} (ofName? : String → Option α) : Value → Option α
  | .map [(.string name, .null)] => ofName? name
  | value => value.asString?.bind ofName?

/-! ### Lists and records -/

/-- Whether a value stands for an empty list or record. -/
def isVacant (origin : Origin) : Value → Bool
  | .null => origin == .document
  | .bare text => text == ""
  | _ => false

def asList? {α : Type} (origin : Origin) (read : Value → Option α) (value : Value) :
    Option (List α) :=
  match value with
  | .list items => items.mapM read
  | other => if other.isVacant origin then some [] else none

def asEntries? {α : Type} (origin : Origin) (read : Value → Option α) (value : Value) :
    Option (List (String × α)) :=
  match value with
  | .map entries => entries.mapM fun entry => do
    some (← entry.1.asString?, ← read entry.2)
  | other => if other.isVacant origin then some [] else none

end Value

structure Record where
  fields : List (String × Value)
  /-- Whether the fields were given as a list in order. -/
  positional : Bool := false
deriving Inhabited

namespace Record

def read? (origin : Origin) (names : List String) (value : Value) : Option Record :=
  match value with
  | .map entries => do
    let fields ← entries.mapM fun entry => do some (← entry.1.asString?, entry.2)
    let known := fields.filter fun field => names.contains field.1
    let keys := known.map Prod.fst
    if keys.eraseDups.length == keys.length then some { fields := known } else none
  | .list items =>
    if origin == .json && items.length ≤ names.length then
      some { fields := names.zip items, positional := true }
    else none
  | other => if other.isVacant origin then some { fields := [] } else none

def get? (record : Record) (name : String) : Option Value :=
  record.fields.lookup name

def required? {α : Type} (record : Record) (name : String) (read : Value → Option α) : Option α :=
  (record.get? name).bind read

/-- A field that has a value of its own when it is not given. -/
def defaulted? {α : Type} (record : Record) (name : String) (other : α) (read : Value → Option α) :
    Option α :=
  match record.get? name with
  | some value => read value
  | none => some other

/-- A field that may be left out, but not from a list of fields in order. -/
def optional? {α : Type} (record : Record) (name : String) (read : Value → Option α) :
    Option (Option α) :=
  match record.get? name with
  | some value => value.asOption? read
  | none => if record.positional then none else some none

end Record

end AgentProbe
