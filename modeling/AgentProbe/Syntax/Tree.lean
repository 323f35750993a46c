import AgentProbe.Syntax.Repair

set_option autoImplicit false

/-!
Syntax trees: a text together with the tree that was read from it.

Comments, line continuations and errors can stand between any two tokens.  They are collected while
the statements are read and put into the tree afterwards: each goes into the innermost node that
spans it, in source order.
-/

namespace AgentProbe.Syntax

namespace Node

mutual

def withExtra (extra : Node) : Node → Node
  | mk kind start stop role missing children =>
    mk kind start stop role missing (placeExtra extra children)

/-- Children with an extra: before the first child that starts after it, or inside the child that
spans its start. -/
def placeExtra (extra : Node) : List Node → List Node
  | [] => [extra]
  | child :: rest =>
    if extra.start < child.start then extra :: child :: rest
    else if extra.start < child.stop then withExtra extra child :: rest
    else child :: placeExtra extra rest

end

mutual

def withoutBoundaries : Node → Node
  | mk kind start stop role missing children =>
    mk kind start stop role missing (dropBoundaries children)

/-- The nodes that are no line ends, block starts or block ends, each without those below it. -/
def dropBoundaries : List Node → List Node
  | [] => []
  | node :: nodes =>
    if node.kind.isBoundary then dropBoundaries nodes
    else withoutBoundaries node :: dropBoundaries nodes

end

end Node

structure SyntaxTree where
  source : Text
  root : Node
  /-- Whether the end of a statement was taken for granted, which no node shows. -/
  endAssumed : Bool := false
deriving Repr, Inhabited

namespace SyntaxTree

/-- Reads a text.  Every text has a tree; what cannot be read is in error nodes. -/
def parse (source : Text) : SyntaxTree :=
  let start : State := { cursor := { rest := source, offset := 0 } }
  let (nodes, state) := start.statements (4 * source.length + 4) repairLimit []
  let extras := state.extras.mergeSort fun left right => left.start ≤ right.start
  let children := extras.foldl (fun nodes extra => Node.placeExtra extra nodes) nodes
  let first := (children.head?.map Node.start).getD 0
  let root := Node.mk .moduleRoot first (Text.bytes source) none false children
  let shown := root.withoutBoundaries
  { source, root := shown, endAssumed := root.hasError && !shown.hasError }

def text (tree : SyntaxTree) (node : Node) : Text :=
  Text.slice tree.source node.start node.stop

def textOf (tree : SyntaxTree) (node : Node) : String :=
  String.ofList (tree.text node)

def line (tree : SyntaxTree) (node : Node) : Nat :=
  Text.lineBreaksBefore tree.source node.start + 1

/-- The number of bytes between the start of a node's line and the node. -/
def column (tree : SyntaxTree) (node : Node) : Nat :=
  Text.bytes ((Text.upTo tree.source node.start).reverse.takeWhile (· != '\n'))

def hasErrors (tree : SyntaxTree) : Bool :=
  tree.root.hasError || tree.endAssumed

/-- The node that a reference leads to; its kind is not looked at. -/
def resolve (tree : SyntaxTree) (ref : NodeRef) : Option Node :=
  tree.root.at? ref.path

structure Fault where
  missing : Bool
  line : Nat
  column : Nat
  snippet : String
deriving DecidableEq, Repr, Inhabited

def faults (tree : SyntaxTree) : List Fault :=
  (Node.faultsIn [tree.root]).map fun node =>
    { missing := node.isMissing
      line := tree.line node
      column := tree.column node
      snippet :=
        if node.isMissing then "missing " ++ node.kind.name
        else String.ofList (Text.headline (tree.text node)) }

end SyntaxTree

end AgentProbe.Syntax
