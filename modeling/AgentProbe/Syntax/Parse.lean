import AgentProbe.Syntax.Quotation

set_option autoImplicit false

/-!
The parsing monad and the shape of the grammar's recursion.

A parser reads tokens from a state and either yields a result or stops at a token.  The grammar is
open-recursive: every production is a plain function of the parser for its parts, which it asks for
by a `Goal`, so productions live in modules of their own and the knot is tied in one place.
-/

namespace AgentProbe.Syntax

structure State where
  cursor : Cursor
  /-- Comments, line continuations and errors passed so far, last first. -/
  extras : List Node := []
  /-- The finished nodes that are not yet part of a larger one, last first. -/
  finished : List Node := []
  /-- Tokens that are taken for granted. -/
  granted : List Lexeme := []
deriving Repr, Inhabited

/-- On what a parse stopped, and what was finished until then. -/
structure Stop where
  lexeme : Lexeme
  finished : List Node
deriving Repr, Inhabited

abbrev Parse := StateT State (Except Stop)

/-- What may follow a construct, besides the tokens the construct itself asks for. -/
structure Follow where
  newline : Bool := false
  closer : Bool := false
deriving DecidableEq, Repr, Inhabited

namespace Follow

def inside : Follow := {}
def line : Follow := { newline := true }
def bracket : Follow := { closer := true }

def place (follow : Follow) : Place :=
  { newline := follow.newline, closer := follow.closer }

def operand (follow : Follow) : Place :=
  { newline := follow.newline, closer := follow.closer, string := true }

end Follow

namespace Parse

def peek (place : Place) : Parse Lexeme :=
  fun state =>
    match state.granted.find? fun grant => grant.start == state.cursor.offset with
    | some lexeme => .ok (lexeme, state)
    | none => .ok (state.cursor.next place, state)

def peekAfter (lexeme : Lexeme) (place : Place) : Parse Lexeme :=
  pure (lexeme.after.next place)

def stop {α : Type} (lexeme : Lexeme) : Parse α :=
  fun state => .error ⟨lexeme, state.finished⟩

def take (lexeme : Lexeme) (kind : Kind) : Parse Node :=
  fun state =>
    let leaf := Node.mk kind lexeme.start lexeme.stop none lexeme.missing []
    .ok (leaf,
      { cursor := lexeme.after
        extras := lexeme.extras.reverse ++ state.extras
        finished := leaf :: state.finished
        granted :=
          if lexeme.missing then state.granted.filter fun grant => grant.start != lexeme.start
          else state.granted })

/-- Passes what stands before a token, so that the token is read the same way in any place. -/
def settle (lexeme : Lexeme) : Parse Lexeme :=
  fun state =>
    if lexeme.extras.isEmpty || lexeme.missing then .ok (lexeme, state)
    else
      .ok ({ lexeme with extras := [] },
        { state with
          cursor := { lexeme.here with inFormat := state.cursor.inFormat }
          extras := lexeme.extras.reverse ++ state.extras })

def build (kind : Kind) (children : List Node) : Parse Node :=
  fun state =>
    let node := Node.spanning kind children
    .ok (node,
      { state with
        finished := node :: state.finished.dropWhile fun part => node.start ≤ part.start })

def takeBoundary (lexeme : Lexeme) : Parse Node :=
  match lexeme.token with
  | .indent => take lexeme (.boundary .blockStart)
  | .dedent => take lexeme (.boundary .blockEnd)
  | _ => take lexeme (.boundary .lineEnd)

def takeToken (lexeme : Lexeme) : Parse Node :=
  match lexeme.token with
  | .word spelling => take lexeme (.token spelling)
  | .operator spelling => take lexeme (.token spelling)
  | _ => stop lexeme

def operator (place : Place) (spelling : String) : Parse Node := do
  let lexeme ← peek place
  if lexeme.isOp spelling then takeToken lexeme else stop lexeme

def keyword (place : Place) (spelling : String) : Parse Node := do
  let lexeme ← peek place
  if lexeme.isWord spelling then takeToken lexeme else stop lexeme

def name (place : Place) : Parse Node := do
  let lexeme ← peek place
  match lexeme.token with
  | .word _ => take lexeme .identifier
  | _ => stop lexeme

/-- Runs a parser and, if it stops, another one from the same state; of two stops the later
counts. -/
def orElse {α : Type} (first second : Parse α) : Parse α :=
  fun state =>
    match first state with
    | .ok result => .ok result
    | .error early =>
      match second state with
      | .ok result => .ok result
      | .error late =>
        if early.lexeme.start > late.lexeme.start then .error early else .error late

/-- Repeats a step until it yields a result, at most `fuel` times. -/
def repeatFor {α β : Type} (step : α → Parse (α ⊕ β)) : Nat → α → Parse β
  | 0, _ => do stop (← peek {})
  | fuel + 1, a => do
    match ← step a with
    | .inl a => repeatFor step fuel a
    | .inr b => pure b

/-- Repeats a step that consumes a token each time, until it yields a result. -/
def loop {α β : Type} (a : α) (step : α → Parse (α ⊕ β)) : Parse β :=
  fun state =>
    repeatFor step (state.cursor.rest.length + state.cursor.indents.length + 2) a state

end Parse

/-! ### Goals -/

/-- What a production can ask the rest of the grammar for. -/
inductive Goal where
  /-- An expression whose operators bind at least as tightly as `floor`; the body of a lambda in it
  starts at `lambdaFloor`.  `entry` is what may come in place of the expression. -/
  | expression (floor lambdaFloor : Nat) (entry follow : Follow)
  /-- An operand with operators that bind at least as tightly as `floor`. -/
  | primary (floor : Nat) (entry follow : Follow)
  /-- A type; `bounded` allows a bound after it. -/
  | typing (entry follow : Follow) (bounded : Bool)
  /-- A pattern of a case clause. -/
  | caseItem (entry follow : Follow)
  /-- The body of a compound statement. -/
  | suite

abbrev Parts := Goal → Parse (List Node)

namespace Parts

def one (parts : Parts) (goal : Goal) : Parse Node := do
  match ← parts goal with
  | [node] => pure node
  | _ => Parse.stop (← Parse.peek {})

def expression (parts : Parts) (entry follow : Follow) : Parse Node :=
  parts.one (.expression 0 0 entry follow)

end Parts

end AgentProbe.Syntax
