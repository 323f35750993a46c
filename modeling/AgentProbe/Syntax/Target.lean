import AgentProbe.Syntax.Literal

set_option autoImplicit false

/-!
Assignment targets.

A target is written like an expression and recognised as one only when what follows shows that it
is assigned to.  `Node.target?` turns the expression that was read into the target it stands for.
-/

namespace AgentProbe.Syntax

namespace Node

def isPlace (node : Node) : Bool :=
  node.kind == .identifier || node.kind == .memberAccess || node.kind == .subscript

mutual

/-- The target that an expression stands for, if it can be assigned to. -/
def target? : Node → Option Node
  | mk kind start stop role missing children =>
    match kind with
    | .identifier => some (mk kind start stop role missing children)
    | .memberAccess => some (mk kind start stop role missing children)
    | .subscript => some (mk kind start stop role missing children)
    | .listSplat =>
      if (children.drop 1).all isPlace then
        some (mk .listSplatPattern start stop role missing children)
      else none
    | .tupleDisplay => (targets? children).map (mk .tuplePattern start stop role missing)
    | .parenthesizedExpression => (targets? children).map (mk .tuplePattern start stop role missing)
    | .listDisplay => (targets? children).map (mk .listPattern start stop role missing)
    | _ => none

/-- The same for the elements of a bracketed target; delimiters stay. -/
def targets? : List Node → Option (List Node)
  | [] => some []
  | node :: nodes =>
    let first := match node.kind with
      | .token _ => some node
      | _ => target? node
    match first, targets? nodes with
    | some first, some rest => some (first :: rest)
    | _, _ => none

end

end Node

abbrev Sequence := List Node

/-- What a sequence of expressions before an assignment sign is assigned to: one target, or a list
of targets when there are commas. -/
def Sequence.target? (items : Sequence) : Option Node :=
  match items with
  | [single] => single.target?
  | _ => (Node.targets? items).map (Node.spanning .patternList)

def Sequence.value (items : Sequence) : Node :=
  match items with
  | [single] => single
  | _ => Node.spanning .expressionList items

namespace Parse

def target (parts : Parts) (entry follow : Follow) : Parse Node := do
  let lexeme ← peek entry.operand
  let node ← parts.one (.primary 22 entry follow)
  match node.target? with
  | some target => pure target
  | none => stop lexeme

def loopTarget (parts : Parts) : Parse Node := do
  let first ← target parts .inside .inside
  loop [first] fun items => do
    let comma ← peek {}
    if comma.isOp "," then
      let items := items ++ [← takeToken comma]
      let next ← peek { string := true }
      if startsOperand next ["in"] then
        pure (.inl (items ++ [← target parts .inside .inside]))
      else pure (.inr (← build .patternList items))
    else
      match items with
      | [single] => pure (.inr single)
      | _ => pure (.inr (← build .patternList items))

end Parse

end AgentProbe.Syntax
