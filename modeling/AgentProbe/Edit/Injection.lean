import AgentProbe.Edit.Basic
import AgentProbe.Plan.Basic
import AgentProbe.Syntax.Query

set_option autoImplicit false

/-!
Injection: every point of a plan becomes a text edit of the file, the edits are applied together,
and the result is read once.
-/

namespace AgentProbe

open Syntax (SyntaxTree Node Kind)

/-! ### Lines -/

/-- An offset moved past blanks and a comment to the end of its line; elsewhere it stays. -/
def endOfLine (source : Text) (offset : Nat) : Nat :=
  let line := (Text.since source offset).takeWhile (· != '\n')
  match Text.trim line with
  | [] => offset + Text.bytes line
  | c :: _ => if c == '#' then offset + Text.bytes line else offset

def lineIndent (source : Text) (offset : Nat) : Text :=
  let before := ((Text.upTo source offset).reverse.takeWhile (· != '\n')).reverse
  (before ++ Text.since source offset).takeWhile fun c => c == ' ' || c == '\t'

/-! ### Statements -/

/-- The edit that puts a payload after a statement, or at the top of the module when the anchor is
the module itself. -/
def statementEdit (tree : SyntaxTree) (node : Node) (point : InjectionPoint) (separator : Text) :
    TextEdit :=
  let payload := point.payload.toList
  if point.anchor.path.isEmpty then
    let offset := tree.moduleStart
    let lead := match (Text.upTo tree.source offset).getLast? with
      | some '\n' => []
      | some _ => ['\n']
      | none => []
    .insert point.id offset (lead ++ payload ++ separator) point.kind.rank
  else
    .insert point.id (endOfLine tree.source node.stop) (separator ++ payload) point.kind.rank

/-! ### Arguments -/

/-- Kinds of expressions that can follow a star without parentheses. -/
def isStarrable (kind : Kind) : Bool :=
  [Kind.identifier, .memberAccess, .call, .subscript, .parenthesizedExpression, .listDisplay,
   .tupleDisplay].contains kind

def contents (node : Node) : List Node :=
  node.namedChildren.filter fun child => child.kind != .comment

def mergeEdit (tree : SyntaxTree) (id : Nat) (value : Node) (expression : Text) : TextEdit :=
  if value.kind == .listDisplay then
    match (contents value).getLast? with
    | some last => .insert id last.stop (", ".toList ++ expression) 2
    | none => .insert id (value.start + 1) expression 2
  else
    let old := tree.text value
    let merged :=
      if old == "None".toList then "[".toList ++ expression ++ "]".toList
      else if isStarrable value.kind then
        "[*".toList ++ old ++ ", ".toList ++ expression ++ "]".toList
      else "[*(".toList ++ old ++ "), ".toList ++ expression ++ "]".toList
    .replace id value.start value.stop merged

def appendEdit (tree : SyntaxTree) (id : Nat) (list : Node) (entry : Text) : TextEdit :=
  match (contents list).getLast? with
  | none => .insert id (list.stop - 1) entry 2
  | some last =>
    if !(tree.text list).contains '\n' then .insert id last.stop (", ".toList ++ entry) 2
    else
      let indent := lineIndent tree.source last.start
      let comma := list.children.find? fun child =>
        child.kind == .token "," && child.start ≥ last.stop
      match comma with
      | some comma =>
        .insert id (endOfLine tree.source comma.stop) ('\n' :: indent ++ entry ++ [',']) 2
      | none =>
        let stop := endOfLine tree.source last.stop
        .replace id last.stop stop
          (',' :: Text.slice tree.source last.stop stop ++ '\n' :: indent ++ entry)

def argumentEdit (tree : SyntaxTree) (call : Node) (point : InjectionPoint) (keyword : String)
    (mode : MergeMode) : Except EditError TextEdit :=
  let expression := point.payload.toList
  match call.child? .arguments with
  | none => .error (.inapplicable point.id .noArgumentList)
  | some list =>
    if list.kind != .argumentList then .error (.inapplicable point.id .bareGenerator)
    else
      let existing := (contents list).find? fun argument =>
        argument.kind == .keywordArgument
          && (argument.child? .name).map tree.textOf == some keyword
      match existing with
      | some argument =>
        match mode, argument.child? .value with
        | .value, _ => .error (.inapplicable point.id .keywordSet)
        | .list, none => .error (.inapplicable point.id .noValue)
        | .list, some value => .ok (mergeEdit tree point.id value expression)
      | none =>
        let entry := match mode with
          | .list => keyword.toList ++ "=[".toList ++ expression ++ "]".toList
          | .value => keyword.toList ++ '=' :: expression
        .ok (appendEdit tree point.id list entry)

/-! ### Plans -/

def InjectionPoint.resolve (point : InjectionPoint) (tree : SyntaxTree) : Except EditError Node :=
  match tree.resolve point.anchor with
  | none => .error (.unresolvedAnchor point.anchor.display)
  | some node =>
    if node.kind.name == point.anchor.kind then .ok node
    else .error (.anchorKindMismatch point.anchor.display point.anchor.kind node.kind.name)

def InjectionPoint.edit (point : InjectionPoint) (tree : SyntaxTree) :
    Except EditError TextEdit := do
  let node ← point.resolve tree
  match point.kind with
  | .insertImport => pure (statementEdit tree node point "\n".toList)
  | .insertAfter => pure (statementEdit tree node point "\n\n".toList)
  | .argument keyword mode => argumentEdit tree node point keyword mode

/-- The first point whose anchor and kind an earlier point has, if there is one. -/
def duplicate? (seen : List (Syntax.NodeRef × String)) : List InjectionPoint → Option InjectionPoint
  | [] => none
  | point :: points =>
    let key := (point.anchor, point.kind.tag)
    if seen.contains key then some point else duplicate? (key :: seen) points

def editsFor (tree : SyntaxTree) (plan : EditPlan) : Except EditError (List TextEdit) :=
  match duplicate? [] plan.points with
  | some point => .error (.duplicateAnchor point.anchor.display point.kind.tag)
  | none => plan.points.mapM fun point => point.edit tree

structure Injection where
  tree : SyntaxTree
  edits : List TextEdit
deriving Repr, Inhabited

def Injection.text (injection : Injection) : Text :=
  injection.tree.source

def inject (tree : SyntaxTree) (plan : EditPlan) : Except EditError Injection := do
  let edits ← editsFor tree plan
  let text ← applyEdits tree.source edits
  pure ⟨SyntaxTree.parse text, edits⟩

end AgentProbe
