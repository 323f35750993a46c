import AgentProbe.Syntax.Parse

set_option autoImplicit false

/-!
String literals as syntax nodes.

A string is a start, pieces of content and interpolations, and an end.  Neighbouring pieces of
content form one node, whose children are the escape sequences and doubled braces in it.
-/

namespace AgentProbe.Syntax

/-- Tokens that can start an operand, apart from words that would be keywords here. -/
def startsOperand (lexeme : Lexeme) (keywords : List String) : Bool :=
  match lexeme.token with
  | .word spelling => !keywords.contains spelling
  | .integer => true
  | .float => true
  | .quote _ => true
  | .operator spelling => ["(", "[", "\x7b", "-", "+", "~", "...", "*"].contains spelling
  | _ => false

namespace Parse

/-- Consumes characters as a leaf, without reading a token. -/
def skipAs (count : Nat) (kind : Kind) : Parse Node :=
  fun state =>
    let after := state.cursor.advance count
    let leaf := Node.leaf kind state.cursor.offset after.offset
    .ok (leaf, { state with cursor := after, finished := leaf :: state.finished })

def skip (count : Nat) : Parse Unit :=
  modify fun state => { state with cursor := state.cursor.advance count }

/-- One expression, or several with commas between them as an expression list.  The words in
`keywords` do not start another expression after a comma. -/
def expressions (parts : Parts) (entry follow : Follow) (keywords : List String) :
    Parse Node := do
  let first ← parts.expression entry follow
  loop [first] fun items => do
    let comma ← peek follow.place
    if comma.isOp "," then
      let items := items ++ [← takeToken comma]
      let next ← peek follow.operand
      if startsOperand next keywords then
        pure (.inl (items ++ [← parts.expression follow follow]))
      else pure (.inr (← build .expressionList items))
    else
      match items with
      | [single] => pure (.inr single)
      | _ => pure (.inr (← build .expressionList items))

def yieldAfter (parts : Parts) (keyword : Node) (follow : Follow) : Parse Node := do
  let next ← peek follow.operand
  if next.isWord "from" then
    let origin ← takeToken next
    let value ← parts.expression .inside follow
    build .yieldExpression [keyword, origin, value]
  else if startsOperand next [] then
    let value ← expressions parts follow follow []
    build .yieldExpression [keyword, value]
  else build .yieldExpression [keyword]

def yieldOrExpressions (parts : Parts) (entry follow : Follow) : Parse Node := do
  let next ← peek entry.operand
  if next.isWord "yield" then
    let keyword ← takeToken next
    yieldAfter parts keyword follow
  else expressions parts entry follow []

def conversion? : Parse (List Node) := do
  let lexeme ← peek { closer := true }
  match lexeme.here.rest with
  | '!' :: letter :: _ =>
    if lexeme.token == .junk && 'a' ≤ letter && letter ≤ 'z' then
      pure [← take (lexeme.shorten .junk 2) .typeConversion]
    else pure []
  | _ => pure []

/-- The parts of a format specifier after its colon.  `interpolate` reads a nested expression. -/
def specifierParts (interpolate : Parse Node) (colon : Node) : Parse Node :=
  loop [colon] fun items => do
    let state ← get
    match state.cursor.rest with
    | [] => stop (← peek {})
    | '\x7d' :: _ =>
      pure (.inr (Node.mk .formatSpecifier colon.start state.cursor.offset none false items))
    | '\x7b' :: _ => pure (.inl (items ++ [← interpolate]))
    | '\n' :: _ =>
      skip 1
      pure (.inl items)
    | text =>
      let length := (text.takeWhile fun c => c != '\x7b' && c != '\x7d' && c != '\n').length
      skip length
      pure (.inl items)

/-- An interpolation from its opening brace on; `depth` bounds the nesting of specifiers. -/
def interpolation (parts : Parts) : Nat → Kind → Parse Node
  | 0, _ => do stop (← peek {})
  | depth + 1, kind => do
    let opening ← skipAs 1 (.token "\x7b")
    let value ← yieldOrExpressions parts .inside .bracket
    let equals ← peek { closer := true }
    let equalSign ← if equals.isOp "=" then pure [← takeToken equals] else pure []
    let mark ← conversion?
    let colon ← peek { closer := true }
    let specifier ←
      if colon.isOp ":" || colon.isOp ":=" then do
        let colonNode ← take (colon.shorten (.operator ":") 1) (.token ":")
        pure [← specifierParts (interpolation parts depth .formatExpression) colonNode]
      else pure []
    let closing ← operator { closer := true } "\x7d"
    build kind ([opening, value] ++ equalSign ++ mark ++ specifier ++ [closing])

structure ContentRun where
  start : Nat
  escapes : List Node

def ContentRun.close (stop : Nat) : Option ContentRun → List Node
  | none => []
  | some run => [Node.mk .stringContent run.start stop none false run.escapes]

def ContentRun.extend (start : Nat) (escapes : List Node) : Option ContentRun → ContentRun
  | none => ⟨start, escapes⟩
  | some run => { run with escapes := run.escapes ++ escapes }

def string (parts : Parts) (lexeme : Lexeme) (delimiter : Delimiter) : Parse Node := do
  let opening ← take lexeme .stringStart
  loop ([opening], (none : Option ContentRun)) fun (items, run) => do
    let state ← get
    let offset := state.cursor.offset
    match delimiter.piece state.cursor.rest with
    | .content length =>
      skip length
      pure (.inl (items, some (ContentRun.extend offset [] run)))
    | .backslash =>
      skip 1
      pure (.inl (items, some (ContentRun.extend offset [] run)))
    | .escape length =>
      let escape ← skipAs length .escapeSequence
      pure (.inl (items, some (ContentRun.extend offset [escape] run)))
    | .doubledBrace =>
      let escape ← skipAs 2 .escapeInterpolation
      pure (.inl (items, some (ContentRun.extend offset [escape] run)))
    | .openBrace =>
      let node ← interpolation parts (state.cursor.rest.length + 1) .interpolation
      pure (.inl (items ++ ContentRun.close offset run ++ [node], none))
    | .close length =>
      let closing ← skipAs length .stringEnd
      modify fun state => { state with cursor := { state.cursor with inFormat := false } }
      pure (.inr (← build .string (items ++ ContentRun.close offset run ++ [closing])))
    | .broken => stop (← peek Place.anywhere)

def strings (parts : Parts) (lexeme : Lexeme) (delimiter : Delimiter) (follow : Follow) :
    Parse Node := do
  let first ← string parts lexeme delimiter
  loop [first] fun items => do
    let next ← peek follow.operand
    match next.token with
    | .quote delimiter => pure (.inl (items ++ [← string parts next delimiter]))
    | _ =>
      match items with
      | [single] => pure (.inr single)
      | _ => pure (.inr (← build .concatenatedString items))

end Parse

end AgentProbe.Syntax
