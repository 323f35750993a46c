import AgentProbe.Text.NameChar
import AgentProbe.Syntax.Node
import AgentProbe.Syntax.Numeral

set_option autoImplicit false

/-!
Tokens, and the places where they are read.

What the next token is depends on where it is read: a line end is a token only where a statement
may end, an indentation only where a block may start, and a quote only where a string may stand.  A
`Place` says which of these may come; `Cursor.next` reads the token at a cursor in such a place,
together with the comments and line continuations before it.
-/

namespace AgentProbe.Syntax

structure Place where
  /-- The end of a statement. -/
  newline : Bool := false
  /-- The start of an indented block. -/
  indent : Bool := false
  /-- The end of an indented block. -/
  dedent : Bool := false
  /-- A closing bracket. -/
  closer : Bool := false
  /-- The start of a string. -/
  string : Bool := false
  /-- An exception handler. -/
  handler : Bool := false
deriving DecidableEq, Repr, Inhabited

/-- The place where reading goes on after a mistake: anything but the end of a statement may
come. -/
def Place.anywhere : Place :=
  { indent := true, dedent := true, closer := true, string := true }

structure Delimiter where
  mark : Char
  triple : Bool := false
  raw : Bool := false
  bytes : Bool := false
  format : Bool := false
deriving DecidableEq, Repr, Inhabited

inductive Token where
  | word (spelling : String)
  | integer
  | float
  | operator (spelling : String)
  | quote (delimiter : Delimiter)
  | newline
  | indent
  | dedent
  | finish
  /-- An operand that is taken for granted. -/
  | operand
  /-- A character that starts no token. -/
  | junk
deriving DecidableEq, Repr, Inhabited

/-- A piece of text that is passed over as an error, and the blocks that are open after it. -/
structure Skip where
  error : Node
  indents : List Nat
  /-- The boundaries that are still read before the piece. -/
  lead : Nat := 0
deriving Repr, Inhabited

structure Cursor where
  rest : Text
  offset : Nat
  /-- Widths of the open blocks, innermost first. -/
  indents : List Nat := [0]
  /-- What is passed over further on, in order. -/
  skips : List Skip := []
  /-- Whether the string literal opened last is a format string still open. -/
  inFormat : Bool := false
deriving Repr, Inhabited

/-- A token with its span, what was passed over before it, and the cursor after it. -/
structure Lexeme where
  token : Token
  start : Nat
  stop : Nat
  /-- Comments and line continuations before the token, in order. -/
  extras : List Node
  /-- The cursor on the token's first character. -/
  here : Cursor
  after : Cursor
  /-- Whether the token is not in the text but taken for granted. -/
  missing : Bool := false
deriving Repr, Inhabited

def Lexeme.isOp (lexeme : Lexeme) (spelling : String) : Bool :=
  lexeme.token == .operator spelling

def Lexeme.isWord (lexeme : Lexeme) (spelling : String) : Bool :=
  lexeme.token == .word spelling

/-! ### The gap before a token -/

/-- What lies between two tokens, as far as blocks and statement ends are concerned. -/
structure Gap where
  /-- A line end was passed. -/
  lineEnd : Bool := false
  /-- The width of the indentation before the next token. -/
  width : Nat := 0
  /-- The indentation of the first comment that has a line of its own. -/
  comment : Option Nat := none
  /-- No block or statement boundary can be drawn from this gap. -/
  closed : Bool := false
  rest : Text := []
  offset : Nat := 0
deriving Repr, Inhabited

/-- Passes blanks, line continuations and, if asked to, comments on lines of their own.  A blank is
one column wide, a tab eight; a line end, carriage return or form feed starts over. -/
def Gap.scan (overComments : Bool) (gap : Gap) (inComment : Bool) : Text → Gap
  | [] => { gap with lineEnd := true, width := 0, rest := [] }
  | '\\' :: '\r' :: '\n' :: rest =>
    if inComment then
      scan overComments { gap with width := 0, offset := gap.offset + 3 } false rest
    else scan overComments { gap with offset := gap.offset + 3 } false rest
  | '\\' :: '\n' :: rest =>
    if inComment then
      scan overComments { gap with width := 0, offset := gap.offset + 2 } false rest
    else scan overComments { gap with offset := gap.offset + 2 } false rest
  | c :: rest =>
    let passed := { gap with offset := gap.offset + c.utf8Size }
    if inComment then
      if c == '\n' then scan overComments { passed with width := 0 } false rest
      else scan overComments passed true rest
    else if c == '\n' then scan overComments { passed with lineEnd := true, width := 0 } false rest
    else if c == ' ' then scan overComments { passed with width := gap.width + 1 } false rest
    else if c == '\r' || c.toNat == 12 then scan overComments { passed with width := 0 } false rest
    else if c == '\t' then scan overComments { passed with width := gap.width + 8 } false rest
    else if c == '#' && overComments then
      if gap.lineEnd then
        scan overComments
          { passed with comment := gap.comment.or (some gap.width) } true rest
      else { gap with closed := true, rest := c :: rest }
    else if c == '\\' then
      if rest.isEmpty then { passed with lineEnd := true, width := 0, rest := [] }
      else { gap with closed := true, rest := c :: rest }
    else { gap with rest := c :: rest }

def isQuoteMark (c : Char) : Bool :=
  c == '"' || c.toNat == 39 || c.toNat == 96

/-- The block or statement boundary that a gap stands for in a place. -/
def Gap.boundary (gap : Gap) (place : Place) (cursor : Cursor) : Option Token :=
  if gap.closed || !gap.lineEnd then none
  else
    let current := cursor.indents.headD 0
    let quoteNext := (gap.rest.head?.map isQuoteMark).getD false
    let commentOutside := match gap.comment with
      | some width => decide (width < current)
      | none => true
    if place.indent && gap.width > current then some .indent
    else if (place.dedent || (!place.newline && !(place.string && quoteNext) && !place.closer))
        && gap.width < current && !cursor.inFormat && commentOutside then some .dedent
    else if place.newline then some .newline
    else none

/-! ### Strings, words, operators -/

/-- Reads prefix letters and an opening quote: the delimiter, and the number of characters. -/
def Delimiter.read (delimiter : Delimiter) (size : Nat) : Text → Option (Delimiter × Nat)
  | [] => none
  | c :: rest =>
    if c == 'f' || c == 'F' then read { delimiter with format := true } (size + 1) rest
    else if c == 'r' || c == 'R' then read { delimiter with raw := true } (size + 1) rest
    else if c == 'b' || c == 'B' then read { delimiter with bytes := true } (size + 1) rest
    else if c == 'u' || c == 'U' then read delimiter (size + 1) rest
    else if isQuoteMark c then
      let opened := { delimiter with mark := c }
      match rest with
      | second :: third :: _ =>
        if c.toNat != 96 && second == c && third == c then
          some ({ opened with triple := true }, size + 3)
        else some (opened, size + 1)
      | _ => some (opened, size + 1)
    else none

/-- Operators and delimiters, longer ones first. -/
def operators : List String :=
  ["**=", "//=", ">>=", "<<=", "...", "->", ":=", "==", "!=", "<=", ">=", "<>", "<<", ">>", "**",
   "//", "+=", "-=", "*=", "/=", "@=", "%=", "&=", "^=", "|=", "(", ")", "[", "]", "\x7b", "\x7d",
   ",", ":", ".", ";", "=", "+", "-", "*", "/", "@", "%", "&", "^", "|", "~", "<", ">"]

def operatorAt (text : Text) : Option String :=
  operators.find? fun operator => operator.toList.isPrefixOf text

def isSeparator (c : Char) : Bool :=
  (9 ≤ c.toNat && c.toNat ≤ 13) || c == ' ' || c.toNat == 0xFEFF || c.toNat == 0x2060
    || c.toNat == 0x200B

def Lexeme.shorten (lexeme : Lexeme) (token : Token) (count : Nat) : Lexeme :=
  let after : Cursor :=
    { lexeme.here with
      rest := lexeme.here.rest.drop count
      offset := lexeme.here.offset + Text.bytes (lexeme.here.rest.take count) }
  { lexeme with token, stop := after.offset, after }

namespace Cursor

def advance (cursor : Cursor) (count : Nat) : Cursor :=
  { cursor with
    rest := cursor.rest.drop count
    offset := cursor.offset + Text.bytes (cursor.rest.take count) }

def skipBlanks (cursor : Cursor) : Cursor :=
  cursor.advance (cursor.rest.takeWhile isSeparator).length

def plain (cursor : Cursor) (extras : List Node) : Lexeme :=
  let spanning (token : Token) (count : Nat) : Lexeme :=
    let after := cursor.advance count
    { token, start := cursor.offset, stop := after.offset, extras, here := cursor, after }
  match cursor.rest with
  | [] => spanning .finish 0
  | c :: rest =>
    if isNameStart c then
      let spelling := c :: rest.takeWhile isNameRest
      spanning (.word (String.ofList spelling)) spelling.length
    else
      match Numeral.read (c :: rest) with
      | some (true, count) => spanning .float count
      | some (false, count) => spanning .integer count
      | none =>
        match operatorAt (c :: rest) with
        | some operator => spanning (.operator operator) operator.length
        | none => spanning .junk 1

def continuation? : Text → Option Nat
  | '\\' :: '\r' :: '\n' :: _ => some 3
  | '\\' :: '\n' :: _ => some 2
  | ['\\'] => some 1
  | _ => none

/-- The error to pass over next, if only blanks stand before it, and the cursor after it. -/
def skip? (cursor : Cursor) : Option (Node × Cursor) :=
  match cursor.skips with
  | [] => none
  | skip :: skips =>
    if skip.lead == 0 && skip.error.start ≤ cursor.skipBlanks.offset then
      let after : Cursor :=
        { cursor with
          rest := Text.since cursor.rest (skip.error.stop - cursor.offset)
          offset := skip.error.stop }
      some (skip.error, { after with indents := skip.indents, skips })
    else none

/-- Reads the next token in a place.  `fuel` bounds the comments, continuations and errors before
it. -/
def nextFrom (place : Place) : Nat → Cursor → List Node → Lexeme
  | 0, cursor, extras =>
    { token := .junk, start := cursor.offset, stop := cursor.offset, extras, here := cursor
      after := cursor }
  | fuel + 1, cursor, extras =>
    match cursor.skip? with
    | some (error, after) => nextFrom place fuel after (extras ++ [error])
    | none =>
      let overComments := place.indent || place.dedent || place.newline || place.handler
      let gap := Gap.scan overComments { offset := cursor.offset } false cursor.rest
      let ahead := cursor.skips.head?.filter fun skip => decide (skip.error.start ≤ gap.offset)
      let closed := ahead.any fun skip => skip.lead == 0
      let skips := match ahead with
        | some skip => { skip with lead := skip.lead - 1 } :: cursor.skips.tail
        | none => cursor.skips
      let marked (token : Token) (indents : List Nat) : Lexeme :=
        { token, start := cursor.offset, stop := cursor.offset, extras, here := cursor
          after := { cursor with indents, skips } }
      match (if closed then none else gap.boundary place cursor) with
      | some .indent => marked .indent (gap.width :: cursor.indents)
      | some .dedent => marked .dedent cursor.indents.tail
      | some _ => marked .newline cursor.indents
      | none =>
        let opening :=
          if gap.closed || gap.comment.isSome || !place.string then none
          else Delimiter.read { mark := '"' } 0 gap.rest
        match opening with
        | some (delimiter, count) =>
          let opened : Cursor :=
            { cursor with rest := gap.rest, offset := gap.offset, inFormat := delimiter.format }
          let after := opened.advance count
          { token := .quote delimiter, start := gap.offset, stop := after.offset, extras
            here := opened, after }
        | none =>
          let here := cursor.skipBlanks
          match here.rest with
          | '#' :: rest =>
            let after := here.advance ((rest.takeWhile (· != '\n')).length + 1)
            nextFrom place fuel after (extras ++ [Node.leaf .comment here.offset after.offset])
          | text =>
            match continuation? text with
            | some count =>
              let after := here.advance count
              nextFrom place fuel after
                (extras ++ [Node.leaf .lineContinuation here.offset after.offset])
            | none => here.plain extras

def next (cursor : Cursor) (place : Place) : Lexeme :=
  nextFrom place (cursor.rest.length + 1) cursor []

end Cursor

end AgentProbe.Syntax
