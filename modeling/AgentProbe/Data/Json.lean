import AgentProbe.Data.Value

set_option autoImplicit false

/-!
Reading JSON texts.

Every reader takes a text and returns a value with the rest of the text.  The readers of nested
values count down a budget that the length of the text bounds.
-/

namespace AgentProbe.Json

/-- The text without white space at its start. -/
def skip (text : Text) : Text :=
  text.dropWhile fun c => c == ' ' || c == '\n' || c == '\t' || c == '\r'

def hexQuad? : Text → Option (Nat × Text)
  | a :: b :: c :: d :: rest => (Decimal.readDigits? 16 [a, b, c, d]).map fun value => (value, rest)
  | _ => none

def escape? : Text → Option (Char × Text)
  | 'n' :: rest => some ('\n', rest)
  | 't' :: rest => some ('\t', rest)
  | 'r' :: rest => some ('\r', rest)
  | 'b' :: rest => some ('\x08', rest)
  | 'f' :: rest => some ('\x0c', rest)
  | '/' :: rest => some ('/', rest)
  | '\\' :: rest => some ('\\', rest)
  | '"' :: rest => some ('"', rest)
  | 'u' :: rest => do
    let (first, rest) ← hexQuad? rest
    if first < 0xD800 || 0xE000 ≤ first then some (Char.ofNat first, rest)
    else if 0xDC00 ≤ first then none
    else
      match rest with
      | '\\' :: 'u' :: rest => do
        let (second, rest) ← hexQuad? rest
        if 0xDC00 ≤ second && second < 0xE000 then
          some (Char.ofNat (0x10000 + (first - 0xD800) * 1024 + (second - 0xDC00)), rest)
        else none
      | _ => none
  | _ => none

def characters? : Nat → Text → Option (Text × Text)
  | 0, _ => none
  | _, [] => none
  | budget + 1, c :: rest =>
    if c == '"' then some ([], rest)
    else if c.toNat < 0x20 then none
    else if c == '\\' then do
      let (c, rest) ← escape? rest
      let (text, rest) ← characters? budget rest
      some (c :: text, rest)
    else do
      let (text, rest) ← characters? budget rest
      some (c :: text, rest)

/-- Whether the digits before the point are a lone zero or start with another digit. -/
def isPlainWhole (digits : Text) : Bool :=
  match digits with
  | [] => false
  | '0' :: rest => rest.isEmpty
  | _ => true

def number? (numeral : Text) : Option Value :=
  let unsigned := if numeral.head? == some '-' then numeral.tail else numeral
  let whole := unsigned.takeWhile Decimal.isDigit
  let rest := unsigned.dropWhile Decimal.isDigit
  let pointed := match rest with
    | '.' :: after => (after.takeWhile Decimal.isDigit).isEmpty
    | _ => false
  if !isPlainWhole whole || pointed then none
  else do
    let value ← Decimal.read? numeral
    if rest.isEmpty && !(value.negative && value.digits == 0)
        && value.digits < (if value.negative then Nat.pow 2 63 + 1 else Nat.pow 2 64) then
      some (.integer (if value.negative then -Int.ofNat value.digits else Int.ofNat value.digits))
    else if value.toFloat.isFinite then some (.float value.toFloat)
    else none

def isNumeral (c : Char) : Bool :=
  Decimal.isDigit c || c == '-' || c == '+' || c == '.' || c == 'e' || c == 'E'

def after? (word : String) (text : Text) : Option Text :=
  if word.toList.isPrefixOf text then some (text.drop word.length) else none

mutual

def value? : Nat → Text → Option (Value × Text)
  | 0, _ => none
  | budget + 1, text =>
    match text with
    | '\x7b' :: rest =>
      match skip rest with
      | '\x7d' :: rest => some (.map [], rest)
      | rest => do
        let (entries, rest) ← entries? budget rest
        some (.map entries, rest)
    | '[' :: rest =>
      match skip rest with
      | ']' :: rest => some (.list [], rest)
      | rest => do
        let (items, rest) ← items? budget rest
        some (.list items, rest)
    | '"' :: rest => do
      let (characters, rest) ← characters? (rest.length + 1) rest
      some (.string (String.ofList characters), rest)
    | 't' :: _ => (after? "true" text).map fun rest => (.bool true, rest)
    | 'f' :: _ => (after? "false" text).map fun rest => (.bool false, rest)
    | 'n' :: _ => (after? "null" text).map fun rest => (.null, rest)
    | _ => do
      let value ← number? (text.takeWhile isNumeral)
      some (value, text.dropWhile isNumeral)

def items? : Nat → Text → Option (List Value × Text)
  | 0, _ => none
  | budget + 1, text => do
    let (item, rest) ← value? budget (skip text)
    match skip rest with
    | ',' :: rest =>
      let (items, rest) ← items? budget rest
      some (item :: items, rest)
    | ']' :: rest => some ([item], rest)
    | _ => none

def entries? : Nat → Text → Option (List (Value × Value) × Text)
  | 0, _ => none
  | budget + 1, text => do
    match skip text with
    | '"' :: rest =>
      let (key, rest) ← characters? (rest.length + 1) rest
      match skip rest with
      | ':' :: rest =>
        let (value, rest) ← value? budget (skip rest)
        let entry := (Value.string (String.ofList key), value)
        match skip rest with
        | ',' :: rest =>
          let (entries, rest) ← entries? budget rest
          some (entry :: entries, rest)
        | '\x7d' :: rest => some ([entry], rest)
        | _ => none
      | _ => none
    | _ => none

end

def read? (text : Text) : Option Value := do
  let (value, rest) ← value? (2 * text.length + 2) (skip text)
  if (skip rest).isEmpty then some value else none

end AgentProbe.Json
