import AgentProbe.Data.Yaml.Cursor

set_option autoImplicit false

/-!
The scalars of YAML texts: plain, quoted and block scalars.

Within plain and quoted scalars a line break is folded: one becomes a space, and of several the
first is dropped.  Block scalars keep their lines or fold them, and say what becomes of the line
breaks at their end.
-/

namespace AgentProbe.Yaml

/-- What stands between the last character of a scalar and the next one. -/
inductive Gap where
  /-- Blanks on one line, last first. -/
  | blanks (text : Text)
  /-- So many line breaks. -/
  | breaks (count : Nat)
  /-- An escaped line break, and so many line breaks after it. -/
  | glued (count : Nat)
deriving Repr, Inhabited

namespace Gap

def blank (c : Char) : Gap → Gap
  | .blanks text => .blanks (c :: text)
  | gap => gap

def break_ : Gap → Gap
  | .blanks _ => .breaks 1
  | .breaks count => .breaks (count + 1)
  | .glued count => .glued (count + 1)

/-- The characters that a gap is folded to, last first. -/
def folded : Gap → Text
  | .blanks text => text
  | .breaks 1 => [' ']
  | .breaks count => List.replicate (count - 1) '\n'
  | .glued count => List.replicate count '\n'

def hasBreak : Gap → Bool
  | .blanks _ => false
  | _ => true

end Gap

/-! ### Plain scalars -/

def isFlowMark (c : Char) : Bool :=
  c == ',' || c == '[' || c == ']' || c == '\x7b' || c == '\x7d'

def startsPlain (flow : Bool) (text : Text) : Bool :=
  match text with
  | [] => false
  | c :: rest =>
    if c == '-' then !(rest.head? == some ' ' || rest.head? == some '\t' || rest.head? == some '\n'
      || rest.isEmpty)
    else if c == '?' || c == ':' then !flow && !atSpace rest
    else !(atSpace text || isFlowMark c || ("#&*!|>\"%@".toList.contains c) || c.toNat == 39
      || c.toNat == 96)

/-- The characters of a plain scalar, last first, and the cursor after the last of them.  `here` is
the cursor at the text, `last` the one after the last character taken, and `gap` what lies between. -/
def plainFrom (flow : Bool) (indent : Int) (taken : Text) (gap : Gap) (last here : Cursor) :
    Text → Option (Text × Cursor)
  | [] => some (taken, last)
  | c :: rest =>
    let after := { here with rest, column := here.column + 1 }
    if c == '\n' then
      plainFrom flow indent taken gap.break_ last
        { here with rest, column := 0, line := here.line + 1 } rest
    else if c == ' ' || c == '\t' then
      if c == '\t' && gap.hasBreak && (here.column : Int) < indent + 1 then none
      else plainFrom flow indent taken (gap.blank c) last after rest
    else
      let opening := here.column != last.column || here.line != last.line
      let here := { here with rest := c :: rest }
      if opening && (here.atMarker || c == '#'
          || (gap.hasBreak && !flow && (here.column : Int) < indent + 1)) then
        some (taken, last)
      else if c == ':' && atSpace rest then some (taken, last)
      else if flow && isFlowMark c then some (taken, last)
      else if flow && c == ':' && (rest.head?.map fun d => isFlowMark d || d == '?') == some true then
        none
      else
        let after := { after with fresh := false }
        plainFrom flow indent (c :: (gap.folded ++ taken)) (.blanks []) after after rest

/-- A plain scalar and the cursor after it; continuation lines are deeper than `indent`. -/
def plain? (flow : Bool) (indent : Int) (cursor : Cursor) : Option (Value × Cursor) := do
  let (taken, last) ← plainFrom flow indent [] (.blanks []) cursor cursor cursor.rest
  if taken.isEmpty then none
  else some (.bare (String.ofList taken.reverse), last)

/-! ### Quoted scalars -/

def Cursor.newLine (cursor : Cursor) (rest : Text) : Cursor :=
  { cursor with rest, column := 0, line := cursor.line + 1 }

def Cursor.past (cursor : Cursor) (count : Nat) (rest : Text) : Cursor :=
  { cursor with rest, column := cursor.column + count, fresh := false }

def singleFrom (taken : Text) (gap : Gap) (here : Cursor) : Text → Option (Text × Cursor)
  | [] => none
  | [c] => if c.toNat == 39 then some (gap.folded ++ taken, here.past 1 []) else none
  | c :: d :: rest =>
    if { here with rest := c :: d :: rest }.atMarker then none
    else if c.toNat == 39 then
      if d.toNat == 39 then
        singleFrom (d :: (gap.folded ++ taken)) (.blanks []) (here.past 2 rest) rest
      else some (gap.folded ++ taken, here.past 1 (d :: rest))
    else if c == '\n' then singleFrom taken gap.break_ (here.newLine (d :: rest)) (d :: rest)
    else if c == ' ' || c == '\t' then
      singleFrom taken (gap.blank c) (here.past 1 (d :: rest)) (d :: rest)
    else
      singleFrom (c :: (gap.folded ++ taken)) (.blanks []) (here.past 1 (d :: rest)) (d :: rest)

def escape? : Char → Option Char
  | '0' => some '\x00' | 'a' => some '\x07' | 'b' => some '\x08' | 't' => some '\t'
  | '\t' => some '\t' | 'n' => some '\n' | 'v' => some '\x0b' | 'f' => some '\x0c'
  | 'r' => some '\r' | 'e' => some '\x1b' | ' ' => some ' ' | '"' => some '"' | '/' => some '/'
  | '\\' => some '\\' | 'N' => some '\u0085' | '_' => some '\u00a0' | 'L' => some '\u2028'
  | 'P' => some '\u2029' | _ => none

def coded? (digits : Text) : Option Char := do
  let code ← Decimal.readDigits? 16 digits
  if code < 0xD800 || (0xE000 ≤ code && code ≤ 0x10FFFF) then some (Char.ofNat code) else none

/-- The characters of a double-quoted scalar, last first, and the cursor after it; `budget` bounds
the number of characters. -/
def doubleFrom (taken : Text) (gap : Gap) (here : Cursor) : Nat → Text → Option (Text × Cursor)
  | 0, _ => none
  | _, [] => none
  | budget + 1, c :: rest =>
    if { here with rest := c :: rest }.atMarker then none
    else if c == '"' then some (gap.folded ++ taken, here.past 1 rest)
    else if c == '\n' then doubleFrom taken gap.break_ (here.newLine rest) budget rest
    else if c == ' ' || c == '\t' then
      doubleFrom taken (gap.blank c) (here.past 1 rest) budget rest
    else if c == '\\' then
      let before := gap.folded ++ taken
      match rest with
      | [] => none
      | '\n' :: rest => doubleFrom before (.glued 0) (here.newLine rest) budget rest
      | kind :: rest =>
        let width := if kind == 'x' then 2 else if kind == 'u' then 4 else if kind == 'U' then 8 else 0
        if width > 0 then
          if rest.length < width then none
          else do
            let value ← coded? (rest.take width)
            doubleFrom (value :: before) (.blanks []) (here.past (width + 2) (rest.drop width))
              budget (rest.drop width)
        else do
          let value ← escape? kind
          doubleFrom (value :: before) (.blanks []) (here.past 2 rest) budget rest
    else doubleFrom (c :: (gap.folded ++ taken)) (.blanks []) (here.past 1 rest) budget rest

def quoted? (cursor : Cursor) : Option (Value × Cursor) := do
  let inner := cursor.advance 1
  let (taken, after) ←
    if cursor.next? == some '"' then
      doubleFrom [] (.blanks []) inner (inner.rest.length + 1) inner.rest
    else singleFrom [] (.blanks []) inner inner.rest
  some (.string (String.ofList taken.reverse), after)

/-! ### Block scalars -/

/-- What becomes of the line breaks at the end of a block scalar. -/
inductive Chomping where
  | strip | clip | keep
deriving DecidableEq, Repr, Inhabited

/-- The head of a block scalar after its indicator: what becomes of its end, the indentation it gives,
and the text after it. -/
def blockHead? (text : Text) : Option (Chomping × Nat × Text) :=
  let marks := text.takeWhile fun c => c == '+' || c == '-' || Decimal.isDigit c
  let rest := (text.dropWhile fun c => c == '+' || c == '-' || Decimal.isDigit c).dropWhile
    fun c => c == ' ' || c == '\t'
  let rest := if rest.head? == some '#' then rest.dropWhile (· != '\n') else rest
  let signs := marks.filter fun c => !Decimal.isDigit c
  let digits := marks.filter Decimal.isDigit
  if signs.length > 1 || digits.length > 1 || digits == ['0'] then none
  else if !(rest.isEmpty || rest.head? == some '\n') then none
  else
    let chomping := match signs with
      | ['-'] => Chomping.strip
      | ['+'] => .keep
      | _ => .clip
    some (chomping, (Decimal.readDigits? 10 digits).getD 0, rest.drop 1)

def leadingSpaces (line : Text) : Nat :=
  (line.takeWhile (· == ' ')).length

/-- The indentation of a block scalar found from its first lines, none if a tab stands in it. -/
def findIndent? (deepest : Nat) : List Text → Option Nat
  | [] => some deepest
  | line :: lines =>
    let spaces := leadingSpaces line
    match line.drop spaces with
    | [] => findIndent? (max deepest spaces) lines
    | '\t' :: _ => none
    | _ => some (max deepest spaces)

structure Block where
  /-- The characters, last first. -/
  taken : Text := []
  /-- Whether a line break waits to be written or folded. -/
  pending : Bool := false
  /-- The line breaks of the empty lines after it. -/
  empty : Nat := 0
  /-- Whether the last line started with a blank. -/
  blank : Bool := false
deriving Repr, Inhabited

def Block.add (fold : Bool) (block : Block) (line : Text) (broken : Bool) : Block :=
  let blank := line.head? == some ' ' || line.head? == some '\t'
  let join :=
    if !block.pending then []
    else if fold && !block.blank && !blank then if block.empty == 0 then [' '] else []
    else ['\n']
  { taken := line.reverse ++ List.replicate block.empty '\n' ++ join ++ block.taken
    pending := broken, empty := 0, blank }

/-- The block after the lines that belong to it, the number of those lines, and none if a tab stands
where a space is needed.  `lines` have a line break after each but the last. -/
def blockLines? (fold : Bool) (indent : Nat) (block : Block) (count : Nat) :
    List Text → Option (Block × Nat)
  | [] => some (block, count)
  | line :: lines =>
    let spaces := leadingSpaces line
    let content := line.drop (min indent spaces)
    let broken := !lines.isEmpty
    if content.isEmpty then
      blockLines? fold indent
        (if broken then { block with empty := block.empty + 1 } else block) (count + 1) lines
    else if spaces < indent then
      if content.head? == some '\t' then none else some (block, count)
    else blockLines? fold indent (block.add fold content broken) (count + 1) lines

def block? (indent : Int) (cursor : Cursor) : Option (Value × Cursor) := do
  let fold := cursor.next? == some '>'
  let (chomping, given, body) ← blockHead? (cursor.rest.drop 1)
  let lines := Text.splitOn '\n' body
  let depth ←
    if given > 0 then some (if indent ≥ 0 then indent.toNat + given else given)
    else (findIndent? 0 lines).map fun found => max (max found (indent + 1).toNat) 1
  let (block, count) ← blockLines? fold depth {} 0 lines
  let ending := match chomping with
    | .strip => []
    | .clip => if block.pending then ['\n'] else []
    | .keep => List.replicate (block.empty + if block.pending then 1 else 0) '\n'
  let text := (ending ++ block.taken).reverse
  some (.string (String.ofList text),
    { cursor with
      rest := Text.join ['\n'] (lines.drop count), column := 0, line := cursor.line + 1 + count
      fresh := true })

end AgentProbe.Yaml
