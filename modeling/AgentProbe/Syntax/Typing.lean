import AgentProbe.Syntax.Operand

set_option autoImplicit false

/-!
Types, as they stand in parameters, results and declarations.

A name with brackets is a generic type whose parameters are types; anything else is an expression.
-/

namespace AgentProbe.Syntax

namespace Parse

def typeParameter (parts : Parts) (lexeme : Lexeme) : Parse Node := do
  let opening ← takeToken lexeme
  let first ← parts.one (.typing .bracket .bracket true)
  let items ← loop [opening, first] fun items => do
    let comma ← peek { closer := true }
    if comma.isOp "," then
      let items := items ++ [← takeToken comma]
      let next ← peek { closer := true, string := true }
      if next.isOp "]" then pure (.inr (items ++ [← takeToken next]))
      else pure (.inl (items ++ [← parts.one (.typing .bracket .bracket true)]))
    else pure (.inr (items ++ [← operator { closer := true } "]"]))
  build .typeParameter items

def splatType (lexeme : Lexeme) : Parse Node := do
  let star ← takeToken lexeme
  build .splatType [star, ← name { string := true }]

def plainType (parts : Parts) (entry follow : Follow) : Parse Node := do
  let lexeme ← peek entry.operand
  match lexeme.token with
  | .operator "*" => splatType lexeme
  | .operator "**" => splatType lexeme
  | .word spelling =>
    let next ← peekAfter lexeme follow.place
    if next.isOp "[" && !(["None", "True", "False", "lambda", "not", "await"].contains spelling) then
      let name ← take lexeme .identifier
      build .genericType [name, ← typeParameter parts next]
    else parts.expression entry follow
  | _ => parts.expression entry follow

/-- A type with the members, alternatives and, if allowed, the bound that follow it. -/
def typing (parts : Parts) (entry follow : Follow) (bounded : Bool) : Parse Node := do
  let first ← plainType parts entry follow
  loop (← build .typeExpression [first]) fun type => do
    let next ← peek follow.place
    match next.token with
    | .operator "|" =>
      let sign ← takeToken next
      let right ← plainType parts .inside follow
      pure (.inl (← build .typeExpression
        [← build .unionType [type, sign, ← build .typeExpression [right]]]))
    | .operator "." =>
      let sign ← takeToken next
      pure (.inl (← build .typeExpression
        [← build .memberType [type, sign, ← name {}]]))
    | .operator ":" =>
      if bounded then
        let sign ← takeToken next
        let bound ← parts.one (.typing .inside follow true)
        pure (.inr (← build .typeExpression [← build .constrainedType [type, sign, bound]]))
      else pure (.inr type)
    | _ => pure (.inr type)

end Parse

end AgentProbe.Syntax
