import AgentProbe.Data.Value

set_option autoImplicit false

/-!
The place that a YAML reader has reached, and the separation between its tokens.

A cursor knows its column, because indentation gives a YAML text its structure, and whether a block
collection may start where it stands: that is so after a line break and after the indicators that
introduce an entry, and no longer once something else was read on the line.
-/

namespace AgentProbe.Yaml

structure Cursor where
  rest : Text
  column : Nat := 0
  line : Nat := 0
  /-- Whether a block collection may start here. -/
  fresh : Bool := true
  /-- The values that anchors name, latest first. -/
  anchors : List (String × Value) := []
deriving Inhabited

def isAllowed (c : Char) : Bool :=
  let n := c.toNat
  n == 9 || n == 10 || n == 13 || (0x20 ≤ n && n ≤ 0x7E) || n == 0x85
    || (0xA0 ≤ n && n ≠ 0xFFFE && n ≠ 0xFFFF)

/-- The text with every line break written as a line feed. -/
def unifyBreaks : Text → Text
  | '\r' :: '\n' :: rest => '\n' :: unifyBreaks rest
  | '\r' :: rest => '\n' :: unifyBreaks rest
  | '\u0085' :: rest => '\n' :: unifyBreaks rest
  | c :: rest => c :: unifyBreaks rest
  | [] => []

def atSpace : Text → Bool
  | [] => true
  | c :: _ => c == ' ' || c == '\t' || c == '\n'

namespace Cursor

def advance (cursor : Cursor) (count : Nat) : Cursor :=
  { cursor with rest := cursor.rest.drop count, column := cursor.column + count, fresh := false }

def introduce (cursor : Cursor) : Cursor :=
  { cursor.advance 1 with fresh := true }

def atMarker (cursor : Cursor) : Bool :=
  cursor.column == 0 && (["---".toList, "...".toList].any fun marker =>
    marker.isPrefixOf cursor.rest && atSpace (cursor.rest.drop 3))

/-- Whether the cursor stands at an indicator that needs a space after it. -/
def atIndicator (cursor : Cursor) (indicator : Char) : Bool :=
  match cursor.rest with
  | c :: rest => c == indicator && atSpace rest
  | [] => false

def next? (cursor : Cursor) : Option Char :=
  cursor.rest.head?

/-- Skips blanks, comments and line breaks, `inComment` within a comment.  A tab may stand only where
no block collection can start. -/
def skipFrom (flow inComment : Bool) (cursor : Cursor) : Text → Cursor
  | [] => { cursor with rest := [] }
  | c :: rest =>
    if c == '\n' then
      skipFrom flow false
        { cursor with column := 0, line := cursor.line + 1, fresh := cursor.fresh || !flow } rest
    else if inComment || c == ' ' || (c == '\t' && (flow || !cursor.fresh)) then
      skipFrom flow inComment { cursor with column := cursor.column + 1 } rest
    else if c == '#' then skipFrom flow true { cursor with column := cursor.column + 1 } rest
    else { cursor with rest := c :: rest }

/-- The cursor at the next token; `flow` within brackets. -/
def skip (cursor : Cursor) (flow : Bool) : Cursor :=
  skipFrom flow false cursor cursor.rest

def skipBlanks (cursor : Cursor) : Cursor :=
  cursor.advance (cursor.rest.takeWhile fun c => c == ' ' || c == '\t').length

def atEnd (cursor : Cursor) : Bool :=
  cursor.rest.isEmpty || cursor.atMarker

def bind (cursor : Cursor) (name? : Option String) (value : Value) : Cursor :=
  match name? with
  | some name => { cursor with anchors := (name, value) :: cursor.anchors }
  | none => cursor

end Cursor

end AgentProbe.Yaml
