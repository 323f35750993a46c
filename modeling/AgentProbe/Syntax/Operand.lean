import AgentProbe.Syntax.Target

set_option autoImplicit false

/-!
Operands: literals, names, displays, comprehensions, calls, attributes and subscripts.
-/

namespace AgentProbe.Syntax

namespace Parse

/-! ### Comprehensions -/

def startsComprehension (lexeme : Lexeme) : Bool :=
  lexeme.isWord "for" || lexeme.isWord "async"

/-- One `for … in …` clause from its first keyword on. -/
def forInClause (parts : Parts) (lexeme : Lexeme) : Parse Node := do
  let start ←
    if lexeme.isWord "async" then do
      let async ← takeToken lexeme
      pure [async, ← keyword {} "for"]
    else pure [← takeToken lexeme]
  let subject ← loopTarget parts
  let within ← keyword {} "in"
  let first ← parts.one (.expression 2 2 .inside .bracket)
  loop (start ++ [subject, within, first]) fun items => do
    let comma ← peek { closer := true }
    if comma.isOp "," then
      let items := items ++ [← takeToken comma]
      let next ← peek { closer := true, string := true }
      if startsOperand next ["for", "if", "async"] then
        pure (.inl (items ++ [← parts.one (.expression 2 2 .bracket .bracket)]))
      else pure (.inr (← build .forInClause items))
    else pure (.inr (← build .forInClause items))

def comprehensionClauses (parts : Parts) (closing : String) (opened : List Node) :
    Parse (List Node) :=
  loop opened fun items => do
    let next ← peek { closer := true }
    if startsComprehension next then
      pure (.inl (items ++ [← forInClause parts next]))
    else if next.isWord "if" && items.length > 2 then
      let sign ← takeToken next
      let condition ← parts.one (.expression 2 0 .inside .bracket)
      pure (.inl (items ++ [← build .ifClause [sign, condition]]))
    else pure (.inr (items ++ [← operator { closer := true } closing]))

/-! ### Elements -/

def starredElement (parts : Parts) (lexeme : Lexeme) : Parse Node := do
  let star ← take (lexeme.shorten (.operator "*") 1) (.token "*")
  let value ← parts.expression .inside .bracket
  build .listSplat [star, value]

/-- An element of a list, tuple or set.  Two stars are two starred elements, one in the other. -/
def element (parts : Parts) : Parse Node := do
  let lexeme ← peek { closer := true, string := true }
  if lexeme.isOp "*" || lexeme.isOp "**" then starredElement parts lexeme
  else if lexeme.isWord "yield" then
    let keyword ← takeToken lexeme
    yieldAfter parts keyword .bracket
  else parts.expression .bracket .bracket

def elementsAfter (parts : Parts) (closing : String) (opened : List Node) : Parse (List Node) :=
  loop opened fun items => do
    let comma ← peek { closer := true }
    if comma.isOp "," then
      let items := items ++ [← takeToken comma]
      let next ← peek { closer := true, string := true }
      if next.isOp closing then pure (.inr (items ++ [← takeToken next]))
      else pure (.inl (items ++ [← element parts]))
    else pure (.inr (items ++ [← operator { closer := true } closing]))

/-! ### Displays -/

def parenthesized (parts : Parts) (lexeme : Lexeme) : Parse Node := do
  let opening ← takeToken lexeme
  let next ← peek { closer := true, string := true }
  if next.isOp ")" then
    build .tupleDisplay [opening, ← takeToken next]
  else
    let first ← element parts
    let after ← peek { closer := true }
    if startsComprehension after then
      pure (← build .generatorExpression
        (← comprehensionClauses parts ")" [opening, first]))
    else
      let items ← elementsAfter parts ")" [opening, first]
      if items.length == 3 then build .parenthesizedExpression items
      else build .tupleDisplay items

def listDisplay (parts : Parts) (lexeme : Lexeme) : Parse Node := do
  let opening ← takeToken lexeme
  let next ← peek { closer := true, string := true }
  if next.isOp "]" then build .listDisplay [opening, ← takeToken next]
  else
    let first ← element parts
    let after ← peek { closer := true }
    if startsComprehension after then
      pure (← build .listComprehension (← comprehensionClauses parts "]" [opening, first]))
    else pure (← build .listDisplay (← elementsAfter parts "]" [opening, first]))

def entry (parts : Parts) : Parse Node := do
  let lexeme ← peek { closer := true, string := true }
  if lexeme.isOp "**" then
    let stars ← takeToken lexeme
    build .dictionarySplat [stars, ← parts.expression .inside .bracket]
  else
    let key ← parts.expression .bracket .bracket
    let colon ← operator { closer := true } ":"
    build .pair [key, colon, ← parts.expression .inside .bracket]

def entriesAfter (parts : Parts) (opened : List Node) : Parse (List Node) :=
  loop opened fun items => do
    let comma ← peek { closer := true }
    if comma.isOp "," then
      let items := items ++ [← takeToken comma]
      let next ← peek { closer := true, string := true }
      if next.isOp "\x7d" then pure (.inr (items ++ [← takeToken next]))
      else pure (.inl (items ++ [← entry parts]))
    else pure (.inr (items ++ [← operator { closer := true } "\x7d"]))

def braced (parts : Parts) (lexeme : Lexeme) : Parse Node := do
  let opening ← takeToken lexeme
  let next ← peek { closer := true, string := true }
  if next.isOp "\x7d" then build .dictionaryDisplay [opening, ← takeToken next]
  else if next.isOp "," then
    let comma ← takeToken next
    pure (← build .dictionaryDisplay
      [opening, comma, ← operator { closer := true } "\x7d"])
  else if next.isOp "**" then
    let first ← entry parts
    build .dictionaryDisplay (← entriesAfter parts [opening, first])
  else
    let first ← element parts
    let after ← peek { closer := true }
    if after.isOp ":" then
      let colon ← takeToken after
      let value ← parts.expression .inside .bracket
      let first ← build .pair [first, colon, value]
      let after ← peek { closer := true }
      if startsComprehension after then
        pure (← build .dictionaryComprehension
          (← comprehensionClauses parts "\x7d" [opening, first]))
      else build .dictionaryDisplay (← entriesAfter parts [opening, first])
    else if startsComprehension after then
      build .setComprehension (← comprehensionClauses parts "\x7d" [opening, first])
    else build .setDisplay (← elementsAfter parts "\x7d" [opening, first])

/-! ### Arguments and subscripts -/

def argument (parts : Parts) : Parse Node := do
  let lexeme ← peek { closer := true, string := true }
  match lexeme.token with
  | .operator "*" => starredElement parts lexeme
  | .operator "**" =>
    let stars ← takeToken lexeme
    build .dictionarySplat [stars, ← parts.expression .inside .bracket]
  | .word spelling =>
    let next ← peekAfter lexeme { closer := true }
    if next.isOp "=" && !(["None", "True", "False", "lambda", "not"].contains spelling) then
      let name ← take lexeme .identifier
      let sign ← takeToken next
      let value ← parts.expression .inside .bracket
      build .keywordArgument [name.as .name, sign, value.as .value]
    else parts.expression .bracket .bracket
  | _ => parts.expression .bracket .bracket

/-- The arguments of a call from the opening parenthesis on: an argument list, or a single
generator that shares the parentheses. -/
def arguments (parts : Parts) (lexeme : Lexeme) : Parse Node := do
  let opening ← takeToken lexeme
  let next ← peek { closer := true, string := true }
  if next.isOp ")" then build .argumentList [opening, ← takeToken next]
  else if next.isOp "," then
    let comma ← takeToken next
    pure (← build .argumentList [opening, comma, ← operator { closer := true } ")"])
  else
    let first ← argument parts
    let after ← peek { closer := true }
    if startsComprehension after && first.kind != .keywordArgument then
      pure (← build .generatorExpression (← comprehensionClauses parts ")" [opening, first]))
    else
      let items ← loop [opening, first] fun items => do
        let comma ← peek { closer := true }
        if comma.isOp "," then
          let items := items ++ [← takeToken comma]
          let next ← peek { closer := true, string := true }
          if next.isOp ")" then pure (.inr (items ++ [← takeToken next]))
          else pure (.inl (items ++ [← argument parts]))
        else pure (.inr (items ++ [← operator { closer := true } ")"]))
      build .argumentList items

/-- A bound of a slice, unless a colon, a comma or the closing bracket comes first. -/
def sliceBound? (parts : Parts) : Parse (List Node) := do
  let next ← peek { closer := true, string := true }
  if next.isOp ":" || next.isOp "," || next.isOp "]" then pure []
  else pure [← parts.expression .bracket .bracket]

def subscriptItem (parts : Parts) : Parse Node := do
  let lower ← sliceBound? parts
  let colon ← peek { closer := true }
  if colon.isOp ":" then
    let items := lower ++ [← takeToken colon]
    let items := items ++ (← sliceBound? parts)
    let second ← peek { closer := true }
    if second.isOp ":" then
      let items := items ++ [← takeToken second]
      build .slice (items ++ (← sliceBound? parts))
    else build .slice items
  else
    match lower with
    | [single] => pure single
    | _ => stop colon

def subscripts (parts : Parts) (opened : List Node) : Parse (List Node) := do
  let first ← subscriptItem parts
  loop (opened ++ [first]) fun items => do
    let comma ← peek { closer := true }
    if comma.isOp "," then
      let items := items ++ [← takeToken comma]
      let next ← peek { closer := true, string := true }
      if next.isOp "]" then pure (.inr (items ++ [← takeToken next]))
      else pure (.inl (items ++ [← subscriptItem parts]))
    else pure (.inr (items ++ [← operator { closer := true } "]"]))

/-! ### Operands -/

def attributeOf (subject : Node) (dot : Lexeme) : Parse Node := do
  let sign ← takeToken dot
  let next ← peek {}
  let name ← if next.token == .operand then take next .identifier else name {}
  build .memberAccess [subject, sign, name]

def subscriptOf (parts : Parts) (subject : Node) (bracket : Lexeme) : Parse Node := do
  let opening ← takeToken bracket
  build .subscript (← subscripts parts [subject.as .value, opening])

def starredName (parts : Parts) (lexeme : Lexeme) (follow : Follow) : Parse Node := do
  let star ← takeToken lexeme
  let first ← name { string := true }
  loop first fun subject => do
    let next ← peek follow.place
    match next.token with
    | .operator "." => pure (.inl (← attributeOf subject next))
    | .operator "[" => pure (.inl (← subscriptOf parts subject next))
    | _ => pure (.inr (← build .listSplat [star, subject]))

def atom (parts : Parts) (entry follow : Follow) : Parse Node := do
  let lexeme ← peek entry.operand
  match lexeme.token with
  | .quote delimiter => strings parts lexeme delimiter follow
  | .integer => take lexeme .integer
  | .float => take lexeme .float
  | .word "None" => take lexeme .noneLiteral
  | .word "True" => take lexeme .trueLiteral
  | .word "False" => take lexeme .falseLiteral
  | .word _ => take lexeme .identifier
  | .operand => take lexeme .identifier
  | .operator "(" => parenthesized parts lexeme
  | .operator "[" => listDisplay parts lexeme
  | .operator "\x7b" => braced parts lexeme
  | .operator "..." => take lexeme .ellipsis
  | .operator "*" => starredName parts lexeme follow
  | _ => stop lexeme

def postfixed (parts : Parts) (entry follow : Follow) : Parse Node := do
  let first ← atom parts entry follow
  loop first fun subject => do
    let next ← peek follow.place
    match next.token with
    | .operator "." => pure (.inl (← attributeOf subject next))
    | .operator "[" => pure (.inl (← subscriptOf parts subject next))
    | .operator "(" =>
      let arguments ← arguments parts next
      pure (.inl (← build .call [subject.as .function, arguments.as .arguments]))
    | _ => pure (.inr subject)

end Parse

end AgentProbe.Syntax
