import AgentProbe.Data.Yaml.Scalar

set_option autoImplicit false

/-!
Reading YAML texts.

The readers of nested values count down a budget that the length of the text bounds.  A block
collection goes on as long as its entries stand in its column.
-/

namespace AgentProbe.Yaml

def isNameChar (c : Char) : Bool :=
  c.isAlphanum || c == '_' || c == '-'

def name? (cursor : Cursor) : Option (String × Cursor) :=
  let inner := cursor.advance 1
  let name := inner.rest.takeWhile isNameChar
  let after := inner.advance name.length
  if name.isEmpty then none
  else
    match after.next? with
    | none => some (String.ofList name, after)
    | some c =>
      if atSpace after.rest || "?:,]\x7d%@".toList.contains c || c.toNat == 96 then
        some (String.ofList name, after)
      else none

structure Properties where
  anchor : Option String := none
  tagged : Bool := false
  /-- Whether a tag makes the node a string. -/
  asString : Bool := false
deriving Repr, Inhabited

/-- Reads the properties of a node, up to one anchor and one tag, with blanks after each. -/
def properties? : Nat → Properties → Cursor → Option (Properties × Cursor)
  | 0, properties, cursor => some (properties, cursor)
  | count + 1, properties, cursor =>
    match cursor.next? with
    | some '&' => do
      if properties.anchor.isSome then none
      let (name, after) ← name? cursor
      properties? count { properties with anchor := some name } after.skipBlanks
    | some '!' => do
      if properties.tagged then none
      let tag := cursor.rest.takeWhile fun c => !(c == ' ' || c == '\t' || c == '\n' || isFlowMark c)
      properties? count
        { properties with tagged := true, asString := tag == "!!str".toList || tag == ['!'] }
        (cursor.advance tag.length).skipBlanks
    | _ => some (properties, cursor)

def Properties.apply (properties : Properties) : Value → Value
  | .bare text => if properties.asString then .string text else .bare text
  | value => value

mutual

def flowNode? : Nat → Cursor → Option (Value × Cursor)
  | 0, _ => none
  | budget + 1, cursor => do
    let (properties, inner) ← properties? 2 {} cursor
    let inner := inner.skip true
    let given := properties.anchor.isSome || properties.tagged
    let (value, after) ←
      match inner.next? with
      | some '[' => flowItems? budget (inner.advance 1)
      | some '\x7b' => flowEntries? budget (inner.advance 1)
      | some '*' => do
        let (name, after) ← name? inner
        let value ← after.anchors.lookup name
        some (value, after)
      | some c =>
        if c == '"' || c.toNat == 39 then quoted? inner
        else if startsPlain true inner.rest then plain? true 0 inner
        else if given && (c == ',' || c == ']' || c == '\x7d' || c == ':') then
          some (.bare "", inner)
        else none
      | none => none
    let value := properties.apply value
    some (value, after.bind properties.anchor value)

def flowItems? : Nat → Cursor → Option (Value × Cursor)
  | 0, _ => none
  | budget + 1, cursor => do
    let cursor := cursor.skip true
    if cursor.next? == some ']' then some (.list [], cursor.advance 1)
    else
      let (item, after) ← flowPair? budget cursor
      let after := after.skip true
      match after.next? with
      | some ']' => some (.list [item], after.advance 1)
      | some ',' =>
        match ← flowItems? budget (after.advance 1) with
        | (.list items, after) => some (.list (item :: items), after)
        | _ => none
      | _ => none

/-- The key of an entry within brackets; after a question mark it may be left out. -/
def flowKey? : Nat → Bool → Cursor → Option (Value × Cursor)
  | 0, _, _ => none
  | budget + 1, explicit, cursor =>
    if explicit && (cursor.next?.map fun c => ",]\x7d:".toList.contains c) == some true then
      some (.bare "", cursor)
    else flowNode? budget cursor

/-- An item of a flow sequence: a node, or a single entry of a mapping. -/
def flowPair? : Nat → Cursor → Option (Value × Cursor)
  | 0, _ => none
  | budget + 1, cursor => do
    let explicit := cursor.next? == some '?'
    let start := if explicit then (cursor.advance 1).skip true else cursor
    let (key, after) ← flowKey? budget explicit start
    let next := after.skip true
    if next.next? == some ':' && (explicit || next.line == start.line) then
      let (value, after) ← flowValue? budget (next.advance 1)
      some (.map [(key, value)], after)
    else if explicit then some (.map [(key, .bare "")], after)
    else some (key, after)

def flowValue? : Nat → Cursor → Option (Value × Cursor)
  | 0, _ => none
  | budget + 1, cursor =>
    let cursor := cursor.skip true
    match cursor.next? with
    | some c =>
      if c == ',' || c == ']' || c == '\x7d' then some (.bare "", cursor)
      else flowNode? budget cursor
    | none => none

def flowEntries? : Nat → Cursor → Option (Value × Cursor)
  | 0, _ => none
  | budget + 1, cursor => do
    let cursor := cursor.skip true
    if cursor.next? == some '\x7d' then some (.map [], cursor.advance 1)
    else
      let explicit := cursor.next? == some '?'
      let start := if explicit then (cursor.advance 1).skip true else cursor
      let (key, after) ← flowKey? budget explicit start
      let next := after.skip true
      let (value, after) ←
        if next.next? == some ':' && (explicit || next.line == start.line) then
          flowValue? budget (next.advance 1)
        else some (Value.bare "", next)
      let after := after.skip true
      match after.next? with
      | some '\x7d' => some (.map [(key, value)], after.advance 1)
      | some ',' =>
        match ← flowEntries? budget (after.advance 1) with
        | (.map entries, after) => some (.map ((key, value) :: entries), after)
        | _ => none
      | _ => none

end

def atom? (indent : Int) (cursor : Cursor) : Option (Value × Cursor) :=
  match cursor.next? with
  | some c =>
    if c == '[' || c == '\x7b' || c == '*' then flowNode? (4 * cursor.rest.length + 4) cursor
    else if c == '"' || c.toNat == 39 then quoted? cursor
    else if startsPlain false cursor.rest then plain? false indent cursor
    else none
  | none => none

/-- The cursor at the colon that makes the node before it a key: on the same line, with a space
after it. -/
def Cursor.colon? (start after : Cursor) : Option Cursor :=
  let next := after.skipBlanks
  if next.atIndicator ':' && next.line == start.line then some next else none

mutual

/-- A node of the block structure whose lines are deeper than `indent`.  The head of a block scalar
may also stand in that column and, as the value of an entry, a sequence. -/
def blockNode? : Nat → Int → Bool → Cursor → Option (Value × Cursor)
  | 0, _, _, _ => none
  | budget + 1, indent, asEntry, cursor => do
    let start := cursor.skip false
    if start.atEnd then some (.bare "", start)
    else if (start.column : Int) ≤ indent then
      if asEntry && start.fresh && (start.column : Int) == indent && start.atIndicator '-' then
        sequence? budget start.column true start
      else if (start.column : Int) == indent && (start.next? == some '|' || start.next? == some '>') then
        block? indent start
      else some (.bare "", start)
    else
      let (properties, marked) ← properties? 2 {} start
      let inner := marked.skip false
      if inner.line != start.line || inner.atEnd then
        let (value, after) ← blockNode? budget indent asEntry marked
        let value := properties.apply value
        some (value, after.bind properties.anchor value)
      else
        let bound := inner.column != start.column
        let fresh := start.fresh
        if !bound && start.atIndicator '-' then
          if fresh then sequence? budget start.column false start else none
        else if !bound && start.atIndicator '?' then
          if fresh then mapping? budget start.column none start else none
        else if inner.next? == some '|' || inner.next? == some '>' then
          let (value, after) ← block? indent inner
          some (value, after.bind properties.anchor value)
        else
          let (value, after) ← atom? indent inner
          let value := properties.apply value
          let after := after.bind properties.anchor value
          match Cursor.colon? start after with
          | some colon => if fresh then mapping? budget start.column (some value) colon else none
          | none => some (value, after)

/-- The items of a block sequence whose indicators stand in a column.  A sequence that shares its
column with the mapping around it ends where the next key stands. -/
def sequence? : Nat → Nat → Bool → Cursor → Option (Value × Cursor)
  | 0, _, _, _ => none
  | budget + 1, column, shared, cursor => do
    let (item, after) ← blockNode? budget column false cursor.introduce
    let next := after.skip false
    if next.atEnd || next.column < column then some (.list [item], next)
    else if next.column == column && next.fresh && next.atIndicator '-' then
      match ← sequence? budget column shared next with
      | (.list items, after) => some (.list (item :: items), after)
      | _ => none
    else if next.column == column && next.fresh && shared then some (.list [item], next)
    else none

/-- The entries of a block mapping whose keys stand in a column.  `key?` is a key that was read
already, with the cursor at its colon. -/
def mapping? : Nat → Nat → Option Value → Cursor → Option (Value × Cursor)
  | 0, _, _, _ => none
  | budget + 1, column, key?, cursor => do
    let (key, value, after) ←
      match key? with
      | some key => do
        let (value, after) ← blockNode? budget column true (cursor.advance 1)
        some (key, value, after)
      | none =>
        if cursor.atIndicator '?' then do
          let (key, after) ← blockNode? budget column false cursor.introduce
          let next := after.skip false
          if !next.atEnd && next.column == column && next.atIndicator ':' then
            let (value, after) ← blockNode? budget column true next.introduce
            some (key, value, after)
          else some (key, Value.bare "", next)
        else do
          let (properties, marked) ← properties? 2 {} cursor
          let (key, after) ← atom? column (marked.skip false)
          let key := properties.apply key
          let colon ← Cursor.colon? cursor (after.bind properties.anchor key)
          let (value, after) ← blockNode? budget column true (colon.advance 1)
          some (key, value, after)
    let next := after.skip false
    if next.atEnd || next.column < column then some (.map [(key, value)], next)
    else if next.column == column && next.fresh then
      match ← mapping? budget column none next with
      | (.map entries, after) => some (.map ((key, value) :: entries), after)
      | _ => none
    else none

end

def directiveWords (line : Text) : List Text :=
  (Text.words line).takeWhile fun word => word.head? != some '#'

/-- Whether the words are those of a directive: the version, or a handle for tags. -/
def isDirective (words : List Text) : Bool :=
  match words.map String.ofList with
  | ["%YAML", version] => version == "1.1" || version == "1.2"
  | ["%TAG", _, _] => true
  | _ => false

def isVersion (words : List Text) : Bool :=
  words.head? == some "%YAML".toList

/-- The directives before a document, and the cursor after them; `count` bounds their number. -/
def directives? : Nat → Cursor → Option (List (List Text) × Cursor)
  | 0, cursor => some ([], cursor)
  | count + 1, cursor => do
    let start := cursor.skip false
    if start.column == 0 && start.next? == some '%' then
      let words := directiveWords (start.rest.takeWhile (· != '\n'))
      if !isDirective words then none
      let (others, after) ← directives? count
        { start with rest := start.rest.dropWhile (· != '\n'), fresh := true }
      if isVersion words && others.any isVersion then none
      some (words :: others, after)
    else some ([], start)

def onlyEnds : Nat → Cursor → Bool
  | 0, _ => false
  | count + 1, cursor =>
    let next := cursor.skip false
    if next.rest.isEmpty then true
    else if next.atMarker && next.next? == some '.' then onlyEnds count (next.advance 3)
    else false

/-- The value of a YAML text with one document; a text without content has an empty value. -/
def read? (text : Text) : Option Value := do
  let text := if text.head? == some '\uFEFF' then text.tail else text
  if text.any fun c => !isAllowed c then none
  let text := unifyBreaks text
  let (directives, start) ← directives? (text.length + 1) { rest := text }
  let marked := start.atMarker && start.next? == some '-'
  if !marked && (start.atMarker || !directives.isEmpty) then none
  let (value, after) ←
    blockNode? (4 * text.length + 8) (-1) false (if marked then start.advance 3 else start)
  if onlyEnds (text.length + 1) after then some value else none

end AgentProbe.Yaml
