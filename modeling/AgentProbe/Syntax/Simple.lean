import AgentProbe.Syntax.CasePattern
import AgentProbe.Syntax.Target

set_option autoImplicit false

/-!
Statements that fit on one line.

A word is a keyword only where the grammar can use it, so `print`, `exec` and `type` open their
statements only when what follows fits; otherwise they are names.
-/

namespace AgentProbe.Syntax

def augmentedSigns : List String :=
  ["+=", "-=", "*=", "/=", "@=", "//=", "%=", "**=", ">>=", "<<=", "&=", "^=", "|="]

namespace Parse

/-! ### Imports -/

def importedName (entry follow : Place) : Parse Node := do
  let subject ← dottedName entry follow
  let next ← peek follow
  if next.isWord "as" then
    let sign ← takeToken next
    let newName ← name {}
    build .aliasedImport [subject.as .name, sign, newName.as .newName]
  else pure subject

def importList (entry follow : Place) (opened : List Node) : Parse (List Node) := do
  let first ← importedName entry follow
  loop (opened ++ [first.as .name]) fun items => do
    let comma ← peek follow
    if comma.isOp "," then
      let items := items ++ [← takeToken comma]
      let next ← peek follow
      match next.token with
      | .word _ =>
        let subject ← importedName follow follow
        pure (.inl (items ++ [subject.as .name]))
      | _ => pure (.inr items)
    else pure (.inr items)

def importStatement (lexeme : Lexeme) : Parse Node := do
  let sign ← takeToken lexeme
  build .importStatement (← importList {} { newline := true } [sign])

def importDots (dots : List Node) : Parse (List Node) :=
  loop dots fun dots => do
    let next ← peek {}
    match next.token with
    | .operator "." => pure (.inl (dots ++ [← takeToken next]))
    | .operator "..." =>
      pure (.inl (dots ++ [← take (next.shorten (.operator ".") 1) (.token ".")]))
    | _ => pure (.inr dots)

def importSource : Parse Node := do
  let next ← peek {}
  match next.token with
  | .word _ => dottedName {} {}
  | _ =>
    let dots ← importDots []
    if dots.isEmpty then stop next
    else
      let start ← build .importPrefix dots
      let after ← peek {}
      match after.token with
      | .word "import" => build .relativeImport [start]
      | .word _ => build .relativeImport [start, ← dottedName {} {}]
      | _ => stop after

def importedNames (wildcard : Bool) (opened : List Node) : Parse (List Node) := do
  let next ← peek {}
  match next.token with
  | .operator "(" =>
    let opening ← takeToken next
    let items ← importList {} { closer := true } (opened ++ [opening])
    pure (items ++ [← operator { closer := true } ")"])
  | .operator "*" =>
    if wildcard then
      let star ← takeToken next
      pure (opened ++ [← build .wildcardImport [star]])
    else stop next
  | _ => importList {} { newline := true } opened

def fromStatement (lexeme : Lexeme) : Parse Node := do
  let sign ← takeToken lexeme
  let next ← peek {}
  if next.isWord "__future__" then
    let source ← takeToken next
    let verb ← keyword {} "import"
    build .futureImportStatement (← importedNames false [sign, source, verb])
  else
    let source ← importSource
    let verb ← keyword {} "import"
    pure (← build .importFromStatement
      (← importedNames true [sign, source.as .moduleName, verb]))

/-! ### Statements with a keyword -/

/-- Expressions with commas between them; a comma may end the list if `trailing` is set. -/
def commaSeparated (parts : Parts) (entry follow : Follow) (trailing : Bool)
    (opened : List Node) : Parse (List Node) := do
  let first ← parts.expression entry follow
  loop (opened ++ [first]) fun items => do
    let comma ← peek follow.place
    if comma.isOp "," then
      let items := items ++ [← takeToken comma]
      if trailing then
        let next ← peek follow.operand
        if startsOperand next [] then
          pure (.inl (items ++ [← parts.expression follow follow]))
        else pure (.inr items)
      else pure (.inl (items ++ [← parts.expression .inside follow]))
    else pure (.inr items)

def nameList (opened : List Node) : Parse (List Node) := do
  let first ← name {}
  loop (opened ++ [first]) fun items => do
    let comma ← peek { newline := true }
    if comma.isOp "," then
      let items := items ++ [← takeToken comma]
      pure (.inl (items ++ [← name {}]))
    else pure (.inr items)

def returnStatement (parts : Parts) (lexeme : Lexeme) : Parse Node := do
  let sign ← takeToken lexeme
  let next ← peek Follow.line.operand
  if startsOperand next [] then
    build .returnStatement [sign, ← expressions parts .line .line []]
  else build .returnStatement [sign]

def raiseStatement (parts : Parts) (lexeme : Lexeme) : Parse Node := do
  let sign ← takeToken lexeme
  let next ← peek Follow.line.operand
  let raised ←
    if startsOperand next ["from"] then do pure [← expressions parts .line .line ["from"]]
    else pure []
  let after ← peek Follow.line.place
  if after.isWord "from" then
    let origin ← takeToken after
    let cause ← parts.expression .inside .line
    build .raiseStatement ([sign] ++ raised ++ [origin, cause])
  else build .raiseStatement ([sign] ++ raised)

def execStatement (parts : Parts) (lexeme code : Lexeme) : Parse Node := do
  let sign ← takeToken lexeme
  let subject ←
    match code.token with
    | .quote delimiter => string parts code delimiter
    | _ => take code .identifier
  let next ← peek Follow.line.place
  if next.isWord "in" then
    let within ← takeToken next
    pure (← build .execStatement
      (← commaSeparated parts .inside .line false [sign, subject, within]))
  else build .execStatement [sign, subject]

def printStatement (parts : Parts) (lexeme : Lexeme) : Parse Node := do
  let sign ← takeToken lexeme
  let next ← peek { string := true }
  if next.isOp ">>" then
    let arrows ← takeToken next
    let stream ← parts.expression .inside .line
    let target ← build .chevron [arrows, stream]
    let comma ← peek Follow.line.place
    if comma.isOp "," then
      let comma ← takeToken comma
      let next ← peek Follow.line.operand
      if startsOperand next [] then
        pure (← build .printStatement
          (← commaSeparated parts .line .line true [sign, target, comma]))
      else build .printStatement [sign, target, comma]
    else build .printStatement [sign, target]
  else build .printStatement (← commaSeparated parts .inside .line true [sign])

def typeAlias (parts : Parts) (lexeme : Lexeme) : Parse Node := do
  let sign ← takeToken lexeme
  let left ← parts.one (.typing .inside .inside false)
  let equals ← operator {} "="
  let right ← parts.one (.typing .inside .line false)
  build .typeAliasStatement [sign, left, equals, right]

/-! ### Expressions and assignments -/

/-- A part of an assignment that still lacks its value: the kind of the whole and the parts read
so far. -/
abbrev Pending := Kind × List Node

def Pending.complete (pending : List Pending) (value : Node) : Node :=
  pending.foldl (fun value waiting => Node.spanning waiting.1 (waiting.2 ++ [value])) value

/-- The parts of an expression statement: expressions, or an assignment, which may be chained,
typed or combined with an operator. -/
def assignmentOrExpressions (parts : Parts) : Parse (List Node) :=
  loop ([] : List Pending) fun pending => do
    let start ← peek Follow.inside.operand
    if start.isWord "yield" then
      let sign ← takeToken start
      pure (.inr [Pending.complete pending (← yieldAfter parts sign .line)])
    else
      let items ← commaSeparated parts .inside .line true []
      let next ← peek Follow.line.place
      match next.token with
      | .operator spelling =>
        if spelling == "=" || spelling == ":" || augmentedSigns.contains spelling then
          match Sequence.target? items with
          | none => stop next
          | some subject =>
            let sign ← takeToken next
            if spelling == ":" then
              let type ← parts.one (.typing .inside .line false)
              let equals ← peek Follow.line.place
              if equals.isOp "=" then
                let equals ← takeToken equals
                pure (.inl ((.assignment, [subject, sign, type, equals]) :: pending))
              else
                pure (.inr [Pending.complete pending
                  (← build .assignment [subject, sign, type])])
            else
              let kind := if spelling == "=" then Kind.assignment else .augmentedAssignment
              pure (.inl ((kind, [subject, sign]) :: pending))
        else
          pure (.inr (if pending.isEmpty then items
            else [Pending.complete pending (Sequence.value items)]))
      | _ =>
        pure (.inr (if pending.isEmpty then items
          else [Pending.complete pending (Sequence.value items)]))

def expressionStatement (parts : Parts) : Parse Node := do
  build .expressionStatement (← assignmentOrExpressions parts)

def wholeExpressionStatement (parts : Parts) : Parse Node := do
  let statement ← expressionStatement parts
  let next ← peek Follow.line.place
  if next.token == .newline || next.isOp ";" then pure statement else stop next

/-! ### Lines -/

def simpleStatement (parts : Parts) (lexeme : Lexeme) : Parse Node := do
  match lexeme.token with
  | .word "import" => importStatement lexeme
  | .word "from" => fromStatement lexeme
  | .word "assert" =>
    let sign ← takeToken lexeme
    build .assertStatement (← commaSeparated parts .inside .line false [sign])
  | .word "return" => returnStatement parts lexeme
  | .word "del" =>
    let sign ← takeToken lexeme
    build .deleteStatement [sign, ← expressions parts .inside .line []]
  | .word "raise" => raiseStatement parts lexeme
  | .word "pass" => build .passStatement [← takeToken lexeme]
  | .word "break" => build .breakStatement [← takeToken lexeme]
  | .word "continue" => build .continueStatement [← takeToken lexeme]
  | .word "global" =>
    let sign ← takeToken lexeme
    build .globalStatement (← nameList [sign])
  | .word "nonlocal" =>
    let sign ← takeToken lexeme
    build .nonlocalStatement (← nameList [sign])
  | .word "exec" =>
    let next ← peekAfter lexeme Follow.line.operand
    match next.token with
    | .quote _ => orElse (execStatement parts lexeme next) (wholeExpressionStatement parts)
    | .word spelling =>
      if ["if", "and", "or", "in", "is", "not", "as"].contains spelling then
        expressionStatement parts
      else execStatement parts lexeme next
    | _ => expressionStatement parts
  | .word "print" =>
    let next ← peekAfter lexeme Follow.line.operand
    if next.isOp ">>" then printStatement parts lexeme
    else orElse (wholeExpressionStatement parts) (printStatement parts lexeme)
  | .word "type" => orElse (typeAlias parts lexeme) (expressionStatement parts)
  | _ => expressionStatement parts

def statementLine (parts : Parts) (lexeme : Lexeme) : Parse (List Node) := do
  let first ← simpleStatement parts lexeme
  loop [first] fun items => do
    let next ← peek Follow.line.place
    if next.token == .newline then pure (.inr (items ++ [← takeBoundary next]))
    else if next.isOp ";" then
      let items := items ++ [← takeToken next]
      let after ← peek Follow.line.operand
      if after.token == .newline then pure (.inr (items ++ [← takeBoundary after]))
      else pure (.inl (items ++ [← simpleStatement parts after]))
    else stop next

end Parse

end AgentProbe.Syntax
