import AgentProbe.Text.Basic
import AgentProbe.Syntax.Kind

set_option autoImplicit false

/-!
Syntax nodes and references to them.

A node carries its kind, the byte span it covers, the role it plays for its parent, and its
children in source order.  A `NodeRef` names a node by its kind and the child indices that lead to
it from the root, so that it stays meaningful for as long as the tree is the same.
-/

namespace AgentProbe.Syntax

/-- The part a child plays in its parent, where a query asks for it. -/
inductive Role where
  | name | newName | moduleName | function | arguments | value
deriving DecidableEq, Repr, Inhabited

inductive Node where
  /-- `missing` marks a token that was put in to go on after a mistake. -/
  | mk (kind : Kind) (start stop : Nat) (role : Option Role) (missing : Bool)
      (children : List Node)
deriving Repr, Inhabited

namespace Node

def kind : Node → Kind | mk kind _ _ _ _ _ => kind
def start : Node → Nat | mk _ start _ _ _ _ => start
def stop : Node → Nat | mk _ _ stop _ _ _ => stop
def role : Node → Option Role | mk _ _ _ role _ _ => role
def isMissing : Node → Bool | mk _ _ _ _ missing _ => missing
def children : Node → List Node | mk _ _ _ _ _ children => children

def leaf (kind : Kind) (start stop : Nat) : Node :=
  mk kind start stop none false []

/-- A node over its children: it spans from the first to the last of them. -/
def spanning (kind : Kind) (children : List Node) : Node :=
  mk kind ((children.head?.map start).getD 0) ((children.getLast?.map stop).getD 0) none false
    children

def as (role : Role) : Node → Node
  | mk kind start stop _ missing children => mk kind start stop (some role) missing children

def ofKind (kind : Kind) : Node → Node
  | mk _ start stop role missing children => mk kind start stop role missing children

def isError (node : Node) : Bool :=
  node.kind == .error

def namedChildren (node : Node) : List Node :=
  node.children.filter fun child => child.kind.isNamed

def child? (node : Node) (role : Role) : Option Node :=
  node.children.find? fun child => child.role == some role

def childrenAs (node : Node) (role : Role) : List Node :=
  node.children.filter fun child => child.role == some role

/-! ### Mistakes -/

mutual

def hasError : Node → Bool
  | mk kind _ _ _ missing children => kind == .error || missing || anyError children

def anyError : List Node → Bool
  | [] => false
  | node :: nodes => hasError node || anyError nodes

end

mutual

/-- The outermost errors and missing tokens, in source order. -/
def faults : Node → List Node
  | mk kind start stop role missing children =>
    if kind == .error || missing then [mk kind start stop role missing children]
    else faultsIn children

def faultsIn : List Node → List Node
  | [] => []
  | node :: nodes => (if hasError node then faults node else []) ++ faultsIn nodes

end

/-! ### Paths -/

def at? : Node → List Nat → Option Node
  | node, [] => some node
  | node, index :: path =>
    match node.children[index]? with
    | none => none
    | some child => at? child path

mutual

/-- Every node at or below this one, with its path in front, in document order.  Below a node that
fails `enter` nothing is visited. -/
def visits (enter : Node → Bool) (path : List Nat) : Node → List (Node × List Nat)
  | mk kind start stop role missing children =>
    let node := mk kind start stop role missing children
    (node, path) :: if enter node then visitsIn enter path 0 children else []

def visitsIn (enter : Node → Bool) (path : List Nat) (index : Nat) :
    List Node → List (Node × List Nat)
  | [] => []
  | node :: nodes =>
    visits enter (path ++ [index]) node ++ visitsIn enter path (index + 1) nodes

end

end Node

/-! ### References -/

/-- A stable reference to a node: its kind's name and the child indices from the root. -/
structure NodeRef where
  kind : String
  path : List Nat
deriving DecidableEq, Repr, Inhabited

namespace NodeRef

def root : NodeRef := ⟨"module", []⟩

def depth (ref : NodeRef) : Nat := ref.path.length

def isTopLevel (ref : NodeRef) : Bool := ref.path.length == 1

def of (node : Node) (path : List Nat) : NodeRef := ⟨node.kind.name, path⟩

/-- The display form `kind@i.j.k`. -/
def display (ref : NodeRef) : String :=
  ref.kind ++ "@" ++ ".".intercalate (ref.path.map toString)

end NodeRef

end AgentProbe.Syntax
