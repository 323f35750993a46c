import AgentProbe.Data.Value

set_option autoImplicit false

/-!
Writing JSON texts, one entry to a line and two blanks to a level.
-/

namespace AgentProbe.Json

def quoteChar (c : Char) : Text :=
  if c == '"' then ['\\', '"']
  else if c == '\\' then ['\\', '\\']
  else if c == '\n' then ['\\', 'n']
  else if c == '\r' then ['\\', 'r']
  else if c == '\t' then ['\\', 't']
  else if c == '\x08' then ['\\', 'b']
  else if c == '\x0c' then ['\\', 'f']
  else if c.toNat < 32 then
    "\\u00".toList ++ [Nat.digitChar (c.toNat / 16), Nat.digitChar (c.toNat % 16)]
  else [c]

def quote (text : String) : String :=
  "\"" ++ String.ofList (text.toList.flatMap quoteChar) ++ "\""

/-- A number with at least one place; what is no number is written as null. -/
def numeral (x : Float) : String :=
  if !x.isFinite then "null"
  else
    let shortest := FloatText.shortest x
    if shortest.toList.contains '.' then shortest else shortest ++ ".0"

def indent (depth : Nat) : String :=
  String.ofList (List.replicate (2 * depth) ' ')

def enclose (opening closing : String) (depth : Nat) (entries : List String) : String :=
  if entries.isEmpty then opening ++ closing
  else opening ++ "\n" ++ ",\n".intercalate (entries.map (indent (depth + 1) ++ ·)) ++ "\n"
    ++ indent depth ++ closing

mutual

/-- A value that starts on a line of the given depth. -/
def pretty (depth : Nat) : Value → String
  | .null => "null"
  | .bool value => if value then "true" else "false"
  | .integer value => toString value
  | .float value => numeral value
  | .string value => quote value
  | .bare text => quote text
  | .list items => enclose "[" "]" depth (prettyAll (depth + 1) items)
  | .map entries => enclose "\x7b" "\x7d" depth (prettyEntries (depth + 1) entries)

def prettyAll (depth : Nat) : List Value → List String
  | [] => []
  | value :: values => pretty depth value :: prettyAll depth values

def prettyEntries (depth : Nat) : List (Value × Value) → List String
  | [] => []
  | (key, value) :: entries =>
    (pretty depth key ++ ": " ++ pretty depth value) :: prettyEntries depth entries

end

end AgentProbe.Json
