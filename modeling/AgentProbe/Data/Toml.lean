import AgentProbe.Data.Json

set_option autoImplicit false

/-!
Reading TOML texts.

A text is a sequence of lines: headers that open a table, and keys with values that go into the
table opened last.  A table may be defined once; what a header or a dotted key implies may still be
defined later.  Maps come out with their keys in order.
-/

namespace AgentProbe.Toml

/-! ### Blanks and comments -/

def skipBlanks (text : Text) : Text :=
  text.dropWhile fun c => c == ' ' || c == '\t'

/-- The text after a comment, if one starts it; none if the comment holds a control character. -/
def skipComment? (text : Text) : Option Text :=
  if text.head? == some '#' then
    let comment := text.takeWhile (· != '\n')
    let comment := Text.dropReturn comment
    if comment.any fun c => (c.toNat < 0x20 && c != '\t') || c.toNat == 0x7F then none
    else some (text.drop comment.length)
  else some text

def lineBreak? : Text → Option Text
  | '\n' :: rest => some rest
  | '\r' :: '\n' :: rest => some rest
  | _ => none

/-- The text after blanks, comments and line breaks; `budget` bounds their number. -/
def skipLines? : Nat → Text → Option Text
  | 0, text => some text
  | budget + 1, text => do
    let rest ← skipComment? (skipBlanks text)
    match lineBreak? rest with
    | some rest => skipLines? budget rest
    | none => some rest

def endLine? (text : Text) : Option Text := do
  let rest ← skipComment? (skipBlanks text)
  if rest.isEmpty then some [] else lineBreak? rest

/-! ### Strings -/

def escape? : Text → Option (Char × Text)
  | 'b' :: rest => some ('\x08', rest)
  | 't' :: rest => some ('\t', rest)
  | 'n' :: rest => some ('\n', rest)
  | 'f' :: rest => some ('\x0c', rest)
  | 'r' :: rest => some ('\r', rest)
  | '"' :: rest => some ('"', rest)
  | '\\' :: rest => some ('\\', rest)
  | kind :: rest =>
    let width := if kind == 'u' then 4 else if kind == 'U' then 8 else 0
    if width == 0 || rest.length < width then none
    else do
      let code ← Decimal.readDigits? 16 (rest.take width)
      if code < 0xD800 || (0xE000 ≤ code && code ≤ 0x10FFFF) then
        some (Char.ofNat code, rest.drop width)
      else none
  | [] => none

def isControl (c : Char) : Bool :=
  (c.toNat < 0x20 && c != '\t') || c.toNat == 0x7F

def lineString? (quote : Char) : Nat → Text → Option (Text × Text)
  | 0, _ => none
  | _, [] => none
  | budget + 1, c :: rest =>
    if c == quote then some ([], rest)
    else if isControl c then none
    else if c == '\\' && quote == '"' then do
      let (c, rest) ← escape? rest
      let (text, rest) ← lineString? quote budget rest
      some (c :: text, rest)
    else do
      let (text, rest) ← lineString? quote budget rest
      some (c :: text, rest)

def blockString? (quote : Char) : Nat → Text → Option (Text × Text)
  | 0, _ => none
  | _, [] => none
  | budget + 1, c :: rest =>
    let quotes := ((c :: rest).takeWhile (· == quote)).length
    if quotes ≥ 3 then
      let kept := min (quotes - 3) 2
      some (List.replicate kept quote, (c :: rest).drop (kept + 3))
    else if c == '\\' && quote == '"' then
      match lineBreak? (skipBlanks rest) with
      | some below =>
        blockString? quote budget
          (below.dropWhile fun c => c == ' ' || c == '\t' || c == '\n' || c == '\r')
      | none => do
        let (c, rest) ← escape? rest
        let (text, rest) ← blockString? quote budget rest
        some (c :: text, rest)
    else if isControl c && c != '\n' && !(c == '\r' && rest.head? == some '\n') then none
    else do
      let (text, rest) ← blockString? quote budget rest
      some (if c == '\r' then (text, rest) else (c :: text, rest))

def string? (text : Text) : Option (String × Text) :=
  match text with
  | quote :: rest =>
    if quote == '"' || quote.toNat == 39 then do
      let (characters, rest) ←
        match rest with
        | a :: b :: body =>
          if a == quote && b == quote then
            blockString? quote (body.length + 1) ((lineBreak? body).getD body)
          else lineString? quote (rest.length + 1) rest
        | _ => lineString? quote (rest.length + 1) rest
      some (String.ofList characters, rest)
    else none
  | [] => none

/-! ### Keys -/

def isKeyChar (c : Char) : Bool :=
  c.isAlphanum || c == '_' || c == '-'

def keyPart? (text : Text) : Option (String × Text) :=
  match text with
  | c :: rest =>
    if c == '"' || c.toNat == 39 then do
      let (characters, rest) ← lineString? c (rest.length + 1) rest
      some (String.ofList characters, rest)
    else
      let word := text.takeWhile isKeyChar
      if word.isEmpty then none else some (String.ofList word, text.dropWhile isKeyChar)
  | [] => none

def key? : Nat → Text → Option (List String × Text)
  | 0, _ => none
  | budget + 1, text => do
    let (part, rest) ← keyPart? (skipBlanks text)
    match skipBlanks rest with
    | '.' :: rest =>
      let (parts, rest) ← key? budget rest
      some (part :: parts, rest)
    | rest => some ([part], rest)

/-! ### Tables -/

/-- How a table came about. -/
inductive Standing where
  | implied | dotted | defined
deriving DecidableEq, Repr, Inhabited

inductive Item where
  | value (value : Value)
  | table (standing : Standing) (entries : List (String × Item))
  | tables (items : List (List (String × Item)))
deriving Inhabited

abbrev Entries := List (String × Item)

def setEntry (key : String) (item : Item) : Entries → Entries
  | [] => [(key, item)]
  | other :: entries =>
    if other.1 == key then (key, item) :: entries else other :: setEntry key item entries

/-- Puts a value under a dotted key; none if something is there, or a table on the way is closed. -/
def assign? (value : Value) : List String → Entries → Option Entries
  | [], _ => none
  | [key], entries =>
    match entries.lookup key with
    | none => some (setEntry key (.value value) entries)
    | some _ => none
  | key :: rest, entries =>
    match entries.lookup key with
    | none => do some (setEntry key (.table .dotted (← assign? value rest [])) entries)
    | some (.table standing below) =>
      if standing == .defined then none
      else do some (setEntry key (.table standing (← assign? value rest below)) entries)
    | some _ => none

/-- Changes the table that a header names, through the last of every list of tables on the way. -/
def within? (change : Entries → Option Entries) : List String → Entries → Option Entries
  | [], entries => change entries
  | key :: rest, entries =>
    match entries.lookup key with
    | some (.table standing below) => do
      some (setEntry key (.table standing (← within? change rest below)) entries)
    | some (.tables items) => do
      let last ← within? change rest (items.getLastD [])
      some (setEntry key (.tables (items.dropLast ++ [last])) entries)
    | _ => none

/-- Opens the table of a header, `listed` for one more table of a list. -/
def open? (listed : Bool) : List String → Entries → Option Entries
  | [], _ => none
  | [key], entries =>
    match listed, entries.lookup key with
    | false, none => some (setEntry key (.table .defined []) entries)
    | false, some (.table .implied below) => some (setEntry key (.table .defined below) entries)
    | true, none => some (setEntry key (.tables [[]]) entries)
    | true, some (.tables items) => some (setEntry key (.tables (items ++ [[]])) entries)
    | _, _ => none
  | key :: rest, entries =>
    match entries.lookup key with
    | none => do some (setEntry key (.table .implied (← open? listed rest [])) entries)
    | some (.table standing below) => do
      some (setEntry key (.table standing (← open? listed rest below)) entries)
    | some (.tables items) => do
      let last ← open? listed rest (items.getLastD [])
      some (setEntry key (.tables (items.dropLast ++ [last])) entries)
    | some (.value _) => none

def inOrder (entries : List (String × Value)) : Value :=
  .map ((entries.mergeSort fun a b => a.1 ≤ b.1).map fun entry => (.string entry.1, entry.2))

mutual

def Item.toValue : Item → Value
  | .value value => value
  | .table _ entries => inOrder (toValues entries)
  | .tables items => .list (tableValues items)

def toValues : List (String × Item) → List (String × Value)
  | [] => []
  | (key, item) :: entries => (key, item.toValue) :: toValues entries

def tableValues : List (List (String × Item)) → List Value
  | [] => []
  | entries :: items => inOrder (toValues entries) :: tableValues items

end

/-! ### Values -/

def underscoresFit : Text → Bool
  | [] => true
  | '_' :: _ => false
  | [c] => c != '_'
  | c :: '_' :: d :: rest => c != '_' && d != '_' && underscoresFit (d :: rest)
  | _ :: rest => underscoresFit rest

def withoutUnderscores (text : Text) : Text :=
  text.filter (· != '_')

def number? (word : Text) : Option Value :=
  let signed := word.head? == some '-' || word.head? == some '+'
  let negative := word.head? == some '-'
  let body := if signed then word.tail else word
  let whole := fun base digits =>
    if signed || !underscoresFit digits then none
    else (Decimal.readDigits? base (withoutUnderscores digits)).bind fun value =>
      if value < Nat.pow 2 63 then some (Value.integer value) else none
  match body with
  | 'i' :: 'n' :: 'f' :: [] => some (.float (if negative then -(1.0 / 0.0) else 1.0 / 0.0))
  | 'n' :: 'a' :: 'n' :: [] => some (.float (0.0 / 0.0))
  | '0' :: 'x' :: digits => whole 16 digits
  | '0' :: 'o' :: digits => whole 8 digits
  | '0' :: 'b' :: digits => whole 2 digits
  | _ =>
    let digits := body.takeWhile fun c => Decimal.isDigit c || c == '_'
    let rest := body.dropWhile fun c => Decimal.isDigit c || c == '_'
    let fits := (Text.splitBy (fun c => !(Decimal.isDigit c || c == '_')) body).all underscoresFit
    let plain := withoutUnderscores digits
    if !fits || !Json.isPlainWhole plain then none
    else if rest.isEmpty then
      (Decimal.readDigits? 10 plain).bind fun value =>
        if negative then if value ≤ Nat.pow 2 63 then some (.integer (-Int.ofNat value)) else none
        else if value < Nat.pow 2 63 then some (.integer value) else none
    else
      let pointed := match rest with
        | '.' :: after => (after.takeWhile Decimal.isDigit).isEmpty
        | _ => false
      if pointed then none
      else (Decimal.read? (withoutUnderscores word)).map fun value => .float value.toFloat

/-- The number of two digits, if it is within bounds. -/
def twoDigits? (low high : Nat) (text : Text) : Option Text :=
  match text with
  | a :: b :: rest =>
    match Decimal.readDigits? 10 [a, b] with
    | some value => if low ≤ value && value ≤ high then some rest else none
    | none => none
  | _ => none

def mark? (c : Char) : Text → Option Text
  | d :: rest => if c == d then some rest else none
  | [] => none

def date? (text : Text) : Option Text := do
  if !((text.take 4).all Decimal.isDigit && text.length ≥ 4) then none
  let rest ← mark? '-' (text.drop 4)
  let rest ← twoDigits? 1 12 rest
  let rest ← mark? '-' rest
  twoDigits? 1 31 rest

def time? (text : Text) : Option Text := do
  let rest ← twoDigits? 0 23 text
  let rest ← mark? ':' rest
  let rest ← twoDigits? 0 59 rest
  let rest ← mark? ':' rest
  let rest ← twoDigits? 0 60 rest
  match rest with
  | '.' :: after =>
    if (after.takeWhile Decimal.isDigit).isEmpty then none else some (after.dropWhile Decimal.isDigit)
  | _ => some rest

def offset? (text : Text) : Option Text :=
  match text with
  | c :: rest =>
    if c == 'Z' || c == 'z' then some rest
    else if c == '+' || c == '-' then do
      let rest ← twoDigits? 0 23 rest
      let rest ← mark? ':' rest
      twoDigits? 0 59 rest
    else some text
  | [] => some []

def moment? (text : Text) : Option Text :=
  match date? text with
  | some rest =>
    match rest with
    | c :: after =>
      if c == 'T' || c == 't' || (c == ' ' && (after.head?.map Decimal.isDigit) == some true) then
        (time? after).bind offset?
      else some rest
    | [] => some []
  | none => time? text

def isWordChar (c : Char) : Bool :=
  c.isAlphanum || c == '_' || c == '-' || c == '+' || c == '.'

def word? (text : Text) : Option (Value × Text) :=
  match moment? text with
  | some rest => some (.bare (String.ofList (text.take (text.length - rest.length))), rest)
  | none =>
    let word := text.takeWhile isWordChar
    let rest := text.dropWhile isWordChar
    if word == "true".toList then some (.bool true, rest)
    else if word == "false".toList then some (.bool false, rest)
    else (number? word).map fun value => (value, rest)

mutual

def value? : Nat → Text → Option (Value × Text)
  | 0, _ => none
  | budget + 1, text =>
    match text with
    | '[' :: rest => do
      let (items, rest) ← items? budget rest
      some (.list items, rest)
    | '\x7b' :: rest =>
      match skipBlanks rest with
      | '\x7d' :: rest => some (.map [], rest)
      | rest => do
        let (entries, rest) ← inline? budget [] rest
        some (inOrder (toValues entries), rest)
    | c :: _ =>
      if c == '"' || c.toNat == 39 then
        (string? text).map fun (characters, rest) => (.string characters, rest)
      else word? text
    | [] => none

def items? : Nat → Text → Option (List Value × Text)
  | 0, _ => none
  | budget + 1, text => do
    match ← skipLines? text.length text with
    | ']' :: rest => some ([], rest)
    | start =>
      let (item, rest) ← value? budget start
      match ← skipLines? rest.length rest with
      | ',' :: rest =>
        let (items, rest) ← items? budget rest
        some (item :: items, rest)
      | ']' :: rest => some ([item], rest)
      | _ => none

def inline? : Nat → Entries → Text → Option (Entries × Text)
  | 0, _, _ => none
  | budget + 1, entries, text => do
    let (key, rest) ← key? (text.length + 1) text
    match rest with
    | '=' :: rest =>
      let (value, rest) ← value? budget (skipBlanks rest)
      let entries ← assign? value key entries
      match skipBlanks rest with
      | ',' :: rest => inline? budget entries rest
      | '\x7d' :: rest => some (entries, rest)
      | _ => none
    | _ => none

end

/-! ### Texts -/

def header? (listed : Bool) (text : Text) : Option (List String × Text) := do
  let (key, rest) ← key? (text.length + 1) text
  match listed, rest with
  | false, ']' :: rest => some (key, rest)
  | true, ']' :: ']' :: rest => some (key, rest)
  | _, _ => none

/-- Reads the lines of a text into the table named by `place`; `budget` bounds their number. -/
def lines? : Nat → List String → Entries → Text → Option Entries
  | 0, _, _, _ => none
  | budget + 1, place, entries, text => do
    match ← skipLines? text.length text with
    | [] => some entries
    | '[' :: '[' :: rest =>
      let (key, rest) ← header? true rest
      let entries ← open? true key entries
      lines? budget key entries (← endLine? rest)
    | '[' :: rest =>
      let (key, rest) ← header? false rest
      let entries ← open? false key entries
      lines? budget key entries (← endLine? rest)
    | start =>
      let (key, rest) ← key? (start.length + 1) start
      match rest with
      | '=' :: rest =>
        let (value, rest) ← value? (2 * rest.length + 2) (skipBlanks rest)
        let entries ← within? (assign? value key) place entries
        lines? budget place entries (← endLine? rest)
      | _ => none

def read? (text : Text) : Option Value := do
  let text := if text.head? == some '\uFEFF' then text.tail else text
  let entries ← lines? (text.length + 2) [] [] text
  some (Item.toValue (.table .defined entries))

end AgentProbe.Toml
