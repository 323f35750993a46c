import AgentProbe.Syntax.Simple
import AgentProbe.Syntax.Typing
import AgentProbe.Syntax.Parameter

set_option autoImplicit false

/-!
Statements with a body.

A body is either an indented block, the rest of the line, or nothing at all: a line end after the
colon is an empty block.  Block starts, block ends and line ends are kept as zero-width children
until the comments have found their places.
-/

namespace AgentProbe.Syntax

namespace Parse

def statementPlace : Place :=
  { dedent := true, string := true }

def handlerPlace : Place :=
  { dedent := true, string := true, handler := true }

/-! ### Bodies -/

def body (parts : Parts) : Parse (List Node) := do
  let colon ← operator {} ":"
  pure (colon :: (← parts .suite))

def elseClause? (parts : Parts) (place : Place) : Parse (List Node) := do
  let next ← peek place
  if next.isWord "else" then
    let sign ← takeToken next
    pure [← build .elseClause (sign :: (← body parts))]
  else pure []

/-! ### Statements -/

def ifStatement (parts : Parts) (lexeme : Lexeme) : Parse Node := do
  let sign ← takeToken lexeme
  let condition ← parts.expression .inside .inside
  let main ← body parts
  let clauses ← loop ([sign, condition] ++ main) fun items => do
    let next ← peek statementPlace
    if next.isWord "elif" then
      let sign ← takeToken next
      let condition ← parts.expression .inside .inside
      pure (.inl (items ++ [← build .elifClause ([sign, condition] ++ (← body parts))]))
    else pure (.inr (items ++ (← elseClause? parts statementPlace)))
  build .ifStatement clauses

/-- A `for` statement, after `async` if that came first. -/
def forStatement (parts : Parts) (opened : List Node) (lexeme : Lexeme) : Parse Node := do
  let sign ← takeToken lexeme
  let subject ← loopTarget parts
  let within ← keyword {} "in"
  let source ← expressions parts .inside .inside []
  let main ← body parts
  let otherwise ← elseClause? parts statementPlace
  build .forStatement (opened ++ [sign, subject, within, source] ++ main ++ otherwise)

def whileStatement (parts : Parts) (lexeme : Lexeme) : Parse Node := do
  let sign ← takeToken lexeme
  let condition ← parts.expression .inside .inside
  let main ← body parts
  let otherwise ← elseClause? parts statementPlace
  build .whileStatement ([sign, condition] ++ main ++ otherwise)

def exceptClause (parts : Parts) (lexeme : Lexeme) : Parse Node := do
  let sign ← takeToken lexeme
  let next ← peek { string := true }
  if next.isOp ":" then build .exceptClause (sign :: (← body parts))
  else
    let cause ← parts.expression .inside .inside
    let after ← peek {}
    if after.isOp "," then
      let comma ← takeToken after
      let bound ← parts.expression .inside .inside
      build .exceptClause ([sign, cause, comma, bound] ++ (← body parts))
    else build .exceptClause ([sign, cause] ++ (← body parts))

/-- An `except*` clause; its keyword and star are one token. -/
def exceptGroupClause (parts : Parts) (lexeme : Lexeme) : Parse Node := do
  let sign ← take (lexeme.shorten (.operator "except*") 7) (.token "except*")
  let cause ← parts.expression .inside .inside
  build .exceptGroupClause ([sign, cause] ++ (← body parts))

def isGroupHandler (lexeme : Lexeme) : Bool :=
  lexeme.isWord "except" && lexeme.after.rest.head? == some '*'

def finallyClause? (parts : Parts) : Parse (List Node) := do
  let next ← peek handlerPlace
  if next.isWord "finally" then
    let sign ← takeToken next
    pure [← build .finallyClause (sign :: (← body parts))]
  else pure []

def tryStatement (parts : Parts) (lexeme : Lexeme) : Parse Node := do
  let sign ← takeToken lexeme
  let main ← body parts
  let next ← peek handlerPlace
  if next.isWord "except" then
    let group := isGroupHandler next
    let handlers ← loop ([] : List Node) fun items => do
      let next ← peek handlerPlace
      if next.isWord "except" && isGroupHandler next == group then
        let clause ← if group then exceptGroupClause parts next else exceptClause parts next
        pure (.inl (items ++ [clause]))
      else pure (.inr items)
    let otherwise ← elseClause? parts handlerPlace
    let final ← finallyClause? parts
    build .tryStatement (sign :: main ++ handlers ++ otherwise ++ final)
  else
    let final ← finallyClause? parts
    if final.isEmpty then stop next
    else build .tryStatement (sign :: main ++ final)

def isPlainElement (node : Node) : Bool :=
  node.kind != .listSplat && node.kind != .yieldExpression

/-- The clause of a `with` statement.  A parenthesised tuple of two or more expressions is a list of
contexts; anything else in parentheses is one context. -/
def withClause (parts : Parts) : Parse Node := do
  let first ← parts.expression .inside .inside
  let next ← peek {}
  let elements := first.namedChildren
  if first.kind == .tupleDisplay && next.isOp ":" && elements.length ≥ 2
      && elements.all isPlainElement then
    pure (← build .withClause (first.children.map fun child =>
      if child.kind.isNamed then Node.spanning .withItem [child] else child))
  else
    let items ← loop [← build .withItem [first]] fun items => do
      let comma ← peek {}
      if comma.isOp "," then
        let items := items ++ [← takeToken comma]
        let next ← peek { string := true }
        if next.isOp ":" then pure (.inr items)
        else
          let value ← parts.expression .inside .inside
          pure (.inl (items ++ [← build .withItem [value]]))
      else pure (.inr items)
    build .withClause items

def withStatement (parts : Parts) (opened : List Node) (lexeme : Lexeme) : Parse Node := do
  let sign ← takeToken lexeme
  let clause ← withClause parts
  build .withStatement (opened ++ [sign, clause] ++ (← body parts))

def typeParameter? (parts : Parts) : Parse (List Node) := do
  let next ← peek {}
  if next.isOp "[" then pure [← typeParameter parts next] else pure []

def functionDefinition (parts : Parts) (opened : List Node) (lexeme : Lexeme) : Parse Node := do
  let sign ← takeToken lexeme
  let name ← name {}
  let generics ← typeParameter? parts
  let parameters ← parameters parts
  let arrow ← peek {}
  let result ←
    if arrow.isOp "->" then do
      let sign ← takeToken arrow
      pure [sign, ← parts.one (.typing .inside .inside false)]
    else pure []
  pure (← build .functionDefinition
    (opened ++ [sign, name.as .name] ++ generics ++ [parameters] ++ result ++ (← body parts)))

def classDefinition (parts : Parts) (lexeme : Lexeme) : Parse Node := do
  let sign ← takeToken lexeme
  let name ← name {}
  let generics ← typeParameter? parts
  let next ← peek {}
  let bases ← if next.isOp "(" then do pure [← arguments parts next] else pure []
  if bases.all fun node => node.kind == .argumentList then
    pure (← build .classDefinition
      ([sign, name.as .name] ++ generics ++ bases ++ (← body parts)))
  else stop next

def definition (parts : Parts) (lexeme : Lexeme) : Parse Node := do
  match lexeme.token with
  | .word "class" => classDefinition parts lexeme
  | .word "def" => functionDefinition parts [] lexeme
  | .word "async" =>
    let async ← takeToken lexeme
    let next ← peek {}
    if next.isWord "def" then functionDefinition parts [async] next else stop next
  | _ => stop lexeme

def decoratedDefinition (parts : Parts) : Parse Node := do
  let items ← loop ([] : List Node) fun items => do
    let next ← peek {}
    if next.isOp "@" then
      let sign ← takeToken next
      let subject ← parts.expression .inside .line
      let lineEnd ← peek Follow.line.place
      if lineEnd.token == .newline then
        let boundary ← takeBoundary lineEnd
        pure (.inl (items ++ [← build .decorator [sign, subject, boundary]]))
      else stop lineEnd
    else pure (.inr (items ++ [← definition parts next]))
  build .decoratedDefinition items

/-! ### Case clauses -/

def caseClause (parts : Parts) (lexeme : Lexeme) : Parse Node := do
  let sign ← takeToken lexeme
  let first ← parts.one (.caseItem .inside .inside)
  let items ← loop [sign, first] fun items => do
    let comma ← peek {}
    if comma.isOp "," then
      let items := items ++ [← takeToken comma]
      let next ← peek { string := true }
      if next.isOp ":" || next.isWord "if" then pure (.inr items)
      else pure (.inl (items ++ [← parts.one (.caseItem .inside .inside)]))
    else pure (.inr items)
  let guardSign ← peek {}
  let guard ←
    if guardSign.isWord "if" then do
      let sign ← takeToken guardSign
      pure [← build .ifClause [sign, ← parts.expression .inside .inside]]
    else pure []
  build .caseClause (items ++ guard ++ (← body parts))

def caseBlock (parts : Parts) : Parse Node := do
  let next ← peek { indent := true, newline := true }
  match next.token with
  | .newline =>
    let boundary ← takeBoundary next
    build .block [boundary]
  | .indent =>
    let opening ← takeBoundary next
    let items ← loop [opening] fun items => do
      let next ← peek { dedent := true }
      if next.isWord "case" then pure (.inl (items ++ [← caseClause parts next]))
      else if next.token == .dedent then pure (.inr (items ++ [← takeBoundary next]))
      else stop next
    build .block items
  | _ => stop next

def matchStatement (parts : Parts) (lexeme : Lexeme) : Parse Node := do
  let sign ← takeToken lexeme
  let first ← parts.expression .inside .inside
  let items ← loop [sign, first] fun items => do
    let comma ← peek {}
    if comma.isOp "," then
      let items := items ++ [← takeToken comma]
      let next ← peek { string := true }
      if next.isOp ":" then pure (.inr items)
      else pure (.inl (items ++ [← parts.expression .inside .inside]))
    else pure (.inr items)
  let colon ← operator {} ":"
  build .matchStatement (items ++ [colon, ← caseBlock parts])

/-! ### Statements and suites -/

/-- A statement from its first token on: its nodes, with the line end of a simple one. -/
def statement (parts : Parts) (lexeme : Lexeme) : Parse (List Node) := do
  let single (node : Parse Node) : Parse (List Node) := do pure [← node]
  let lexeme ← settle lexeme
  match lexeme.token with
  | .word "if" => single (ifStatement parts lexeme)
  | .word "for" => single (forStatement parts [] lexeme)
  | .word "while" => single (whileStatement parts lexeme)
  | .word "try" => single (tryStatement parts lexeme)
  | .word "with" => single (withStatement parts [] lexeme)
  | .word "def" => single (definition parts lexeme)
  | .word "class" => single (definition parts lexeme)
  | .operator "@" => single (decoratedDefinition parts)
  | .word "async" =>
    let next ← peekAfter lexeme Follow.line.operand
    match next.token with
    | .word "def" => single (definition parts lexeme)
    | .word "for" =>
      let async ← takeToken lexeme
      single (forStatement parts [async] next)
    | .word "with" =>
      let async ← takeToken lexeme
      single (withStatement parts [async] next)
    | _ => statementLine parts lexeme
  | .word "match" => orElse (single (matchStatement parts lexeme)) (statementLine parts lexeme)
  | _ => statementLine parts lexeme

def suite (parts : Parts) : Parse (List Node) := do
  let next ← peek { indent := true, newline := true, string := true }
  match next.token with
  | .newline =>
    let boundary ← takeBoundary next
    pure [Node.leaf .block boundary.start boundary.stop]
  | .indent =>
    let opening ← takeBoundary next
    let items ← loop ([] : List Node) fun items => do
      let next ← peek statementPlace
      if next.token == .dedent then pure (.inr (items ++ [← takeBoundary next]))
      else pure (.inl (items ++ (← statement parts next)))
    pure [opening, ← build .block items]
  | _ => pure [← build .block (← statementLine parts next)]

end Parse

end AgentProbe.Syntax
