import AgentProbe.Syntax.Literal

set_option autoImplicit false

/-!
Patterns of case clauses.
-/

namespace AgentProbe.Syntax

namespace Parse

def dottedName (place after : Place) : Parse Node := do
  let first ← name place
  loop [first] fun items => do
    let dot ← peek after
    if dot.isOp "." then
      let sign ← takeToken dot
      pure (.inl (items ++ [sign, ← name {}]))
    else pure (.inr (← build .dottedName items))

/-- Patterns with commas between them, after an opening bracket and with the closing one. -/
def casePatterns (parts : Parts) (closing : String) (opened : List Node) : Parse (List Node) :=
  loop opened fun items => do
    let next ← peek { closer := true, string := true }
    if next.isOp closing then pure (.inr (items ++ [← takeToken next]))
    else
      let items := items ++ [← parts.one (.caseItem .bracket .bracket)]
      let comma ← peek { closer := true }
      if comma.isOp "," then pure (.inl (items ++ [← takeToken comma]))
      else pure (.inr (items ++ [← operator { closer := true } closing]))

def splatPattern (lexeme : Lexeme) : Parse Node := do
  let star ← takeToken lexeme
  let next ← peek { string := true }
  match next.token with
  | .word "_" => build .splatPattern [star, ← takeToken next]
  | .word _ => build .splatPattern [star, ← take next .identifier]
  | _ => stop next

def number : Parse Node := do
  let next ← peek { string := true }
  match next.token with
  | .integer => take next .integer
  | .float => take next .float
  | _ => stop next

/-- A number with its sign and, in a complex pattern, its second part. -/
def numericPattern (sign : List Node) (follow : Follow) : Parse (List Node) := do
  let first ← number
  let next ← peek follow.place
  if next.isOp "+" || next.isOp "-" then
    let middle ← takeToken next
    pure [← build .complexPattern (sign ++ [first, middle, ← number])]
  else pure (sign ++ [first])

def namePattern (parts : Parts) (follow : Follow) : Parse Node := do
  let subject ← dottedName { string := true } follow.place
  let next ← peek follow.place
  if next.isOp "(" then
    let opening ← takeToken next
    pure (← build .classPattern (← casePatterns parts ")" [subject, opening]))
  else pure subject

def closedPattern (parts : Parts) (entry follow : Follow) (keyPattern : Parse (List Node)) :
    Parse (List Node) := do
  let lexeme ← peek entry.operand
  match lexeme.token with
  | .quote delimiter => pure [← strings parts lexeme delimiter follow]
  | .integer => numericPattern [] follow
  | .float => numericPattern [] follow
  | .operator "-" =>
    let sign ← takeToken lexeme
    numericPattern [sign] follow
  | .operator "*" => pure [← splatPattern lexeme]
  | .operator "**" => pure [← splatPattern lexeme]
  | .operator "[" =>
    let opening ← takeToken lexeme
    pure [← build .listPattern (← casePatterns parts "]" [opening])]
  | .operator "(" =>
    let opening ← takeToken lexeme
    pure [← build .tuplePattern (← casePatterns parts ")" [opening])]
  | .operator "\x7b" =>
    let opening ← takeToken lexeme
    let items ← loop [opening] fun items => do
      let next ← peek { closer := true, string := true }
      if next.isOp "\x7d" then pure (.inr (items ++ [← takeToken next]))
      else
        let items ←
          if next.isOp "*" || next.isOp "**" then pure (items ++ [← splatPattern next])
          else do
            let key ← keyPattern
            let colon ← operator { closer := true } ":"
            pure (items ++ key ++ [colon, ← parts.one (.caseItem .bracket .bracket)])
        let comma ← peek { closer := true }
        if comma.isOp "," then pure (.inl (items ++ [← takeToken comma]))
        else pure (.inr (items ++ [← operator { closer := true } "\x7d"]))
    pure [← build .dictPattern items]
  | .word "True" => pure [← take lexeme .trueLiteral]
  | .word "False" => pure [← take lexeme .falseLiteral]
  | .word "None" => pure [← take lexeme .noneLiteral]
  | .word "_" => pure [← takeToken lexeme]
  | .word _ => pure [← namePattern parts follow]
  | _ => stop lexeme

/-- Patterns with `|` between them.  `depth` bounds dictionary keys that are dictionaries. -/
def simplePattern (parts : Parts) : Nat → Follow → Follow → Parse (List Node)
  | 0, _, _ => do stop (← peek {})
  | depth + 1, entry, follow => do
    let key := simplePattern parts depth .bracket .bracket
    let first ← closedPattern parts entry follow key
    loop first fun items => do
      let bar ← peek follow.place
      if bar.isOp "|" then
        let sign ← takeToken bar
        pure (.inl (items ++ [sign] ++ (← closedPattern parts .inside follow key)))
      else if items.any fun item => item.kind == .token "|" then
        pure (.inr [← build .unionPattern items])
      else pure (.inr items)

def caseItem (parts : Parts) (entry follow : Follow) : Parse Node := do
  let state ← get
  let depth := state.cursor.rest.length + 1
  let lexeme ← peek entry.operand
  let next ← peekAfter lexeme follow.place
  let first ←
    match lexeme.token with
    | .word _ =>
      if next.isOp "=" then do
        let name ← take lexeme .identifier
        let sign ← takeToken next
        let value ← simplePattern parts depth .inside follow
        pure [← build .keywordPattern ([name, sign] ++ value)]
      else simplePattern parts depth entry follow
    | _ => simplePattern parts depth entry follow
  loop (← build .casePattern first) fun pattern => do
    let next ← peek follow.place
    if next.isWord "as" then
      let sign ← takeToken next
      let name ← name {}
      pure (.inl (← build .casePattern [← build .asPattern [pattern, sign, name]]))
    else pure (.inr pattern)

end Parse

end AgentProbe.Syntax
