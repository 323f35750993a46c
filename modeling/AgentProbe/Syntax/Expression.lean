import AgentProbe.Syntax.Operand
import AgentProbe.Syntax.Parameter

set_option autoImplicit false

/-!
Expressions, by the tightness of their operators.

From loose to tight: 1 conditional, 2 `as`, 3 `or`, 4 `and`, 5 `not`, 6 comparisons, then the
operators on operands from 14 (`|`) to 21 (`**`), and 22 attributes, subscripts and calls.  A parser
with floor `n` reads only operators of level `n` and above.
-/

namespace AgentProbe.Syntax

def operatorLevel? (spelling : String) : Option Nat :=
  if spelling == "|" then some 14
  else if spelling == "&" then some 15
  else if spelling == "^" then some 16
  else if ["<<", ">>"].contains spelling then some 17
  else if ["+", "-"].contains spelling then some 18
  else if ["*", "@", "/", "%", "//"].contains spelling then some 19
  else if spelling == "**" then some 21
  else none

def comparisonSigns : List String :=
  ["<", "<=", "==", "!=", ">=", ">", "<>"]

def operatorWords : List String :=
  ["if", "and", "or", "in", "is", "not", "as", "else", "for", "from"]

namespace Parse

def unary (parts : Parts) (floor : Nat) (entry follow : Follow) : Parse Node := do
  let lexeme ← peek entry.operand
  if floor ≤ 21 && (lexeme.isOp "-" || lexeme.isOp "+" || lexeme.isOp "~") then
    let sign ← takeToken lexeme
    build .unaryOperator [sign, ← parts.one (.primary 21 .inside follow)]
  else if floor ≤ 21 && lexeme.isWord "await" then
    let next ← peekAfter lexeme { follow.operand with newline := follow.newline }
    if startsOperand next operatorWords then
      let sign ← takeToken lexeme
      build .awaitExpression [sign, ← parts.one (.primary 21 .inside follow)]
    else postfixed parts entry follow
  else postfixed parts entry follow

/-- An operand with the operators that bind at least as tightly as `floor`. -/
def primary (parts : Parts) (floor : Nat) (entry follow : Follow) : Parse Node := do
  let first ← unary parts floor entry follow
  loop first fun left => do
    let next ← peek follow.place
    match next.token with
    | .operator spelling =>
      match operatorLevel? spelling with
      | some level =>
        if floor ≤ level then
          let sign ← takeToken next
          let right ← parts.one
            (.primary (if spelling == "**" then level else level + 1) .inside follow)
          pure (.inl (← build .binaryOperator [left, sign, right]))
        else pure (.inr left)
      | none => pure (.inr left)
    | _ => pure (.inr left)

def comparisonSign? (follow : Follow) : Parse (Option Node) := do
  let next ← peek follow.place
  match next.token with
  | .operator spelling =>
    if comparisonSigns.contains spelling then pure (some (← takeToken next)) else pure none
  | .word "in" => pure (some (← takeToken next))
  | .word "not" =>
    let first ← takeToken next
    let second ← keyword {} "in"
    pure (some (← build (.token "not in") [first, second]))
  | .word "is" =>
    let first ← takeToken next
    let second ← peek { string := true }
    if second.isWord "not" then
      pure (some (← build (.token "is not") [first, ← takeToken second]))
    else pure (some first)
  | _ => pure none

/-- Operands with comparison operators between them, as one flat node. -/
def comparison (parts : Parts) (entry follow : Follow) : Parse Node := do
  let first ← parts.one (.primary 14 entry follow)
  loop [first] fun items => do
    match ← comparisonSign? follow with
    | some sign =>
      pure (.inl (items ++ [sign, ← parts.one (.primary 14 .inside follow)]))
    | none =>
      match items with
      | [single] => pure (.inr single)
      | _ => pure (.inr (← build .comparisonOperator items))

def lambda (parts : Parts) (lexeme : Lexeme) (floor : Nat) (follow : Follow) : Parse Node := do
  let sign ← takeToken lexeme
  let parameters ← lambdaParameters parts
  let colon ← operator {} ":"
  let body ← parts.one (.expression floor floor .inside follow)
  build .lambdaExpression ([sign] ++ parameters ++ [colon, body])

/-- What an expression starts with, before the operators looser than comparisons. -/
def head (parts : Parts) (lambdaFloor : Nat) (entry follow : Follow) : Parse Node := do
  let lexeme ← peek entry.operand
  match lexeme.token with
  | .word "lambda" => lambda parts lexeme lambdaFloor follow
  | .word "not" =>
    let sign ← takeToken lexeme
    build .notOperator [sign, ← parts.one (.expression 6 0 .inside follow)]
  | .word spelling =>
    let next ← peekAfter lexeme follow.place
    if next.isOp ":=" && !(["None", "True", "False"].contains spelling) then
      let name ← take lexeme .identifier
      let sign ← takeToken next
      let value ← parts.one (.expression 3 0 .inside follow)
      build .namedExpression [name, sign, value]
    else comparison parts entry follow
  | _ => comparison parts entry follow

def expression (parts : Parts) (floor lambdaFloor : Nat) (entry follow : Follow) :
    Parse Node := do
  let first ← head parts lambdaFloor entry follow
  loop first fun left => do
    let next ← peek follow.place
    match next.token with
    | .word "and" =>
      if floor ≤ 4 then
        let sign ← takeToken next
        let right ← parts.one (.expression 5 0 .inside follow)
        pure (.inl (← build .booleanOperator [left, sign, right]))
      else pure (.inr left)
    | .word "or" =>
      if floor ≤ 3 then
        let sign ← takeToken next
        let right ← parts.one (.expression 4 0 .inside follow)
        pure (.inl (← build .booleanOperator [left, sign, right]))
      else pure (.inr left)
    | .word "as" =>
      if floor ≤ 2 then
        let sign ← takeToken next
        let right ← parts.one (.expression 3 0 .inside follow)
        pure (.inl (← build .asPattern [left, sign, ← build .asPatternTarget [right]]))
      else pure (.inr left)
    | .word "if" =>
      if floor ≤ 1 then
        let sign ← takeToken next
        let condition ← parts.expression .inside .inside
        let otherwise ← keyword {} "else"
        let right ← parts.one (.expression 1 0 .inside follow)
        pure (.inl (← build .conditionalExpression [left, sign, condition, otherwise, right]))
      else pure (.inr left)
    | _ => pure (.inr left)

end Parse

end AgentProbe.Syntax
