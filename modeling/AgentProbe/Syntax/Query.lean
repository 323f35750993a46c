import AgentProbe.Syntax.Tree

set_option autoImplicit false

/-!
Questions about a syntax tree: its imports, calls, definitions, and where module-level code goes.
Every answer is in document order.
-/

namespace AgentProbe.Syntax

/-! ### Imports -/

structure ImportedName where
  name : String
  newName : Option String := none
deriving DecidableEq, Repr, Inhabited

structure Import where
  module : String
  names : List ImportedName
  isFrom : Bool
  line : Nat
  text : String
  topLevel : Bool
  node : NodeRef
deriving DecidableEq, Repr, Inhabited

namespace Import

/-- Whether a dotted name is a package or lies inside it. -/
def isWithin (package module : String) : Bool :=
  module == package || (package ++ ".").toList.isPrefixOf module.toList

def isFromPackage (entry : Import) (package : String) : Bool :=
  isWithin package entry.module

end Import

def firstSegment (dotted : String) : String :=
  String.ofList (dotted.toList.takeWhile (· != '.'))

def lastSegment (dotted : String) : String :=
  String.ofList (dotted.toList.reverse.takeWhile (· != '.')).reverse

/-- The identifier that an imported name binds: its alias, or the first segment of the name. -/
def ImportedName.binding (imported : ImportedName) : String :=
  imported.newName.getD (firstSegment imported.name)

def Import.bindings (entry : Import) : List String :=
  entry.names.map ImportedName.binding

namespace SyntaxTree

def dotted (tree : SyntaxTree) (node : Node) : String :=
  String.ofList (Text.compact (tree.text node))

def importedName (tree : SyntaxTree) (node : Node) : ImportedName :=
  if node.kind == .aliasedImport then
    { name := ((node.child? .name).map tree.dotted).getD ""
      newName := (node.child? .newName).map tree.textOf }
  else { name := tree.dotted node }

/-- The imports that a statement stands for: one for every module of a plain import, one for a
`from` import. -/
def importsAt (tree : SyntaxTree) (node : Node) (path : List Nat) : List Import :=
  let entry (module : String) (names : List ImportedName) (isFrom : Bool) : Import :=
    { module, names, isFrom
      line := tree.line node
      text := tree.textOf node
      topLevel := path.length == 1
      node := NodeRef.of node path }
  let named := (node.childrenAs .name).map tree.importedName
  match node.kind with
  | .importStatement => named.map fun imported => entry imported.name [imported] false
  | .importFromStatement =>
    let wildcards := (node.children.filter fun child => child.kind == .wildcardImport).map
      fun _ => ({ name := "*" } : ImportedName)
    [entry (((node.child? .moduleName).map tree.dotted).getD "") (named ++ wildcards) true]
  | .futureImportStatement => [entry "__future__" named true]
  | _ => []

def imports (tree : SyntaxTree) : List Import :=
  (tree.root.visits (fun node => !node.kind.isImport) []).flatMap fun visit =>
    tree.importsAt visit.1 visit.2

end SyntaxTree

/-! ### Calls -/

structure Argument where
  keyword : Option String := none
  value : String
  /-- The elements, if the value of a keyword is a list display. -/
  listElements : Option (List String) := none
deriving DecidableEq, Repr, Inhabited

structure Call where
  callee : String
  name : String
  rootBinding : String
  arguments : List Argument
  line : Nat
  snippet : String
  node : NodeRef
deriving DecidableEq, Repr, Inhabited

namespace Call

def keyword (call : Call) (name : String) : Option String :=
  (call.arguments.find? fun argument => argument.keyword == some name).map Argument.value

/-- Whether a pattern names the callee: `*` every call, a dotted pattern the callee or a dotted
suffix of it, any other pattern its last segment. -/
def isNamedBy (call : Call) (pattern : String) : Bool :=
  if pattern == "*" then true
  else if pattern.toList.contains '.' then
    call.callee == pattern || (('.' :: pattern.toList).reverse.isPrefixOf call.callee.toList.reverse)
  else call.name == pattern

end Call

namespace SyntaxTree

def listElements (tree : SyntaxTree) (list : Node) : List String :=
  (list.namedChildren.filter fun child => child.kind != .comment).map tree.textOf

/-- The argument that a child of an argument list stands for; a comment is none. -/
def argumentAt (tree : SyntaxTree) (node : Node) : Option Argument :=
  match node.kind with
  | .comment => none
  | .keywordArgument =>
    let value := node.child? .value
    some
      { keyword := (node.child? .name).map tree.textOf
        value := (value.map tree.textOf).getD ""
        listElements := (value.filter fun value => value.kind == .listDisplay).map
          tree.listElements }
  | _ => some { value := tree.textOf node }

def callAt (tree : SyntaxTree) (node : Node) (path : List Nat) : Option Call :=
  match node.kind, node.child? .function with
  | .call, some function =>
    let callee := tree.dotted function
    let arguments := match node.child? .arguments with
      | some list =>
        if list.kind == .argumentList then list.namedChildren.filterMap tree.argumentAt else []
      | none => []
    some
      { callee
        name := lastSegment callee
        rootBinding := firstSegment callee
        arguments
        line := tree.line node
        snippet := String.ofList (Text.headline (tree.text node))
        node := NodeRef.of node path }
  | _, _ => none

def allCalls (tree : SyntaxTree) : List Call :=
  (tree.root.visits (fun _ => true) []).filterMap fun visit => tree.callAt visit.1 visit.2

def calls (tree : SyntaxTree) (pattern : String) : List Call :=
  tree.allCalls.filter fun call => call.isNamedBy pattern

end SyntaxTree

/-- The order in which ambiguous calls are tried: those that go through a binding first, then
shallower ones. -/
def Call.precedes (bindings : List String) (left right : Call) : Bool :=
  let far (call : Call) : Bool := !bindings.contains call.rootBinding
  if far left == far right then left.node.depth ≤ right.node.depth else !far left

/-- Calls by proximity to the bindings; calls of the same rank keep their order. -/
def rankCalls (bindings : List String) (calls : List Call) : List Call :=
  calls.mergeSort (Call.precedes bindings)

/-! ### Definitions -/

inductive DefKind where
  | functions | classes | any
deriving DecidableEq, Repr, Inhabited

namespace DefKind

def name : DefKind → String
  | .functions => "function"
  | .classes => "class"
  | .any => "any"

def covers (wanted : DefKind) (kind : Kind) : Bool :=
  match wanted with
  | .functions => kind == .functionDefinition
  | .classes => kind == .classDefinition
  | .any => kind == .functionDefinition || kind == .classDefinition

end DefKind

structure Definition where
  name : String
  kind : DefKind
  line : Nat
  decorators : List String
  node : NodeRef
deriving DecidableEq, Repr, Inhabited

namespace SyntaxTree

def decoratorsAt (tree : SyntaxTree) (path : List Nat) : List String :=
  match path with
  | [] => []
  | _ =>
    match tree.root.at? path.dropLast with
    | some parent =>
      if parent.kind == .decoratedDefinition then
        (parent.children.filter fun child => child.kind == .decorator).map tree.textOf
      else []
    | none => []

def definitions (tree : SyntaxTree) (wanted : DefKind) : List Definition :=
  (tree.root.visits (fun _ => true) []).filterMap fun (node, path) =>
    if wanted.covers node.kind then
      some
        { name := ((node.child? .name).map tree.textOf).getD ""
          kind := if node.kind == .classDefinition then .classes else .functions
          line := tree.line node
          decorators := tree.decoratorsAt path
          node := NodeRef.of node path }
    else none

/-! ### Where module-level code goes -/

/-- Whether a top-level node is a docstring, given the named node before it. -/
def isDocstring (previous : Option Node) (node : Node) : Bool :=
  node.kind == .expressionStatement
    && (match node.namedChildren with
      | [single] => single.kind == .string
      | _ => false)
    && (match previous with
      | none => true
      | some before => before.kind == .comment)

def lastImport (index : Nat) : List Node → Option NodeRef
  | [] => none
  | node :: nodes =>
    match lastImport (index + 1) nodes with
    | some ref => some ref
    | none => if node.kind.isImport then some (NodeRef.of node [index]) else none

def firstDocstring (previous : Option Node) (index : Nat) : List Node → Option NodeRef
  | [] => none
  | node :: nodes =>
    if isDocstring previous node then some (NodeRef.of node [index])
    else firstDocstring (if node.kind.isNamed then some node else previous) (index + 1) nodes

/-- Where module-level insertions go: the last top-level import, else a leading docstring, else the
module itself. -/
def importAnchor (tree : SyntaxTree) : NodeRef :=
  match lastImport 0 tree.root.children with
  | some ref => ref
  | none => (firstDocstring none 0 tree.root.children).getD NodeRef.root

/-- The start of the first statement that is no comment, for insertions at the top of a module; the
end of the text if there is none. -/
def moduleStart (tree : SyntaxTree) : Nat :=
  match tree.root.namedChildren.find? fun child => child.kind != .comment with
  | some node => node.start
  | none => Text.bytes tree.source

end SyntaxTree

end AgentProbe.Syntax
