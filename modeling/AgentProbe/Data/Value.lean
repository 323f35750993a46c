import AgentProbe.Data.Decimal

set_option autoImplicit false

/-!
Structured data: what descriptors, patterns, configurations and catalogs are read from.

A scalar that was written without quotes may stay unresolved: `bare` keeps its text, and the field
that reads it decides whether the text is a string, a number, a truth value or nothing at all.
`Value.resolve` makes that decision without a field.
-/

namespace AgentProbe

inductive Value where
  | null
  | bool (value : Bool)
  | integer (value : Int)
  | float (value : Float)
  | string (value : String)
  /-- A scalar without quotes whose kind is not yet decided. -/
  | bare (text : String)
  | list (items : List Value)
  | map (entries : List (Value × Value))
deriving Inhabited

namespace Bare

/-! ### Scalars without quotes -/

def isNull (text : String) : Bool :=
  text == "" || text == "~" || text == "null" || text == "Null" || text == "NULL"

def bool? (text : String) : Option Bool :=
  if text == "true" || text == "True" || text == "TRUE" then some true
  else if text == "false" || text == "False" || text == "FALSE" then some false
  else none

/-- Whether a scalar has only digits, the first of them a superfluous zero. -/
def hasLeadingZero (text : Text) : Bool :=
  match text with
  | '0' :: c :: rest => (c :: rest).all Decimal.isDigit
  | _ => false

def magnitude? (text : Text) : Option Nat :=
  match text with
  | '0' :: 'x' :: digits => Decimal.readDigits? 16 digits
  | '0' :: 'o' :: digits => Decimal.readDigits? 8 digits
  | '0' :: 'b' :: digits => Decimal.readDigits? 2 digits
  | _ => if hasLeadingZero text then none else Decimal.readDigits? 10 text

/-- The whole number that a bare scalar stands for, if it fits in 64 bits. -/
def integer? (text : String) : Option Int :=
  match text.toList with
  | '-' :: digits => (magnitude? digits).bind fun value =>
    if value ≤ Nat.pow 2 63 then some (-Int.ofNat value) else none
  | '+' :: digits => (magnitude? digits).bind fun value =>
    if value < Nat.pow 2 64 then some (Int.ofNat value) else none
  | digits => (magnitude? digits).bind fun value =>
    if value < Nat.pow 2 64 then some (Int.ofNat value) else none

def float? (text : String) : Option Float :=
  let infinity : Float := 1.0 / 0.0
  let word := if text.toList.head? == some '+' then String.ofList text.toList.tail else text
  if word == ".inf" || word == ".Inf" || word == ".INF" then some infinity
  else if text == "-.inf" || text == "-.Inf" || text == "-.INF" then some (-infinity)
  else if text == ".nan" || text == ".NaN" || text == ".NAN" then some (0.0 / 0.0)
  else
    match Decimal.read? text.toList with
    | some value => if value.toFloat.isFinite then some value.toFloat else none
    | none => none

def value (text : String) : Value :=
  if isNull text then .null
  else
    match bool? text, integer? text with
    | some truth, _ => .bool truth
    | none, some number => .integer number
    | none, none =>
      let unsigned := match text.toList with
        | '-' :: rest => rest
        | '+' :: rest => rest
        | rest => rest
      if hasLeadingZero unsigned then .string text
      else match float? text with
        | some number => .float number
        | none => .string text

end Bare

namespace Value

mutual

def resolve : Value → Value
  | .bare text => Bare.value text
  | .list items => .list (resolveAll items)
  | .map entries => .map (resolveEntries entries)
  | other => other

def resolveAll : List Value → List Value
  | [] => []
  | item :: items => resolve item :: resolveAll items

def resolveEntries : List (Value × Value) → List (Value × Value)
  | [] => []
  | (key, value) :: entries => (resolve key, resolve value) :: resolveEntries entries

end

mutual

def same : Value → Value → Bool
  | .null, .null => true
  | .bool a, .bool b => a == b
  | .integer a, .integer b => a == b
  | .float a, .float b => a.toBits == b.toBits
  | .string a, .string b => a == b
  | .bare a, .bare b => a == b
  | .list a, .list b => sameAll a b
  | .map a, .map b => sameEntries a b
  | _, _ => false

def sameAll : List Value → List Value → Bool
  | [], [] => true
  | a :: as, b :: bs => same a b && sameAll as bs
  | _, _ => false

def sameEntries : List (Value × Value) → List (Value × Value) → Bool
  | [], [] => true
  | (k, a) :: as, (l, b) :: bs => same k l && same a b && sameEntries as bs
  | _, _ => false

end

def occursIn (key : Value) (entries : List (Value × Value)) : Bool :=
  entries.any fun entry => key.same entry.1

mutual

def hasDistinctKeys : Value → Bool
  | .list items => haveDistinctKeys items
  | .map entries => entriesDistinct entries
  | _ => true

def haveDistinctKeys : List Value → Bool
  | [] => true
  | item :: items => hasDistinctKeys item && haveDistinctKeys items

def entriesDistinct : List (Value × Value) → Bool
  | [] => true
  | (key, value) :: entries =>
    !occursIn key entries && hasDistinctKeys key && hasDistinctKeys value
      && entriesDistinct entries

end

def get? (value : Value) (key : String) : Option Value :=
  match value with
  | .map entries => (entries.find? fun entry => entry.1.same (.string key)).map Prod.snd
  | _ => none

end Value

end AgentProbe
