import AgentProbe.Detection.Signature
import AgentProbe.Plan.Basic
import AgentProbe.Plan.Block

set_option autoImplicit false

/-!
Planning: from patterns to the edits of one file.

A file is planned for a framework only when it calls one of the framework's entry points through a
name that it imports from the framework.  What the file already has is not planned again, so that an
instrumented file gets an empty plan.
-/

namespace AgentProbe

open Syntax (SyntaxTree Import Call NodeRef)

/-- A framework that was found, its signature, and the pattern that a platform has for it. -/
structure PlanInput where
  framework : String
  version : String
  signature : Signature
  platform : String
  pattern : Pattern
deriving DecidableEq, Repr, Inhabited

def PlanInput.rendered (input : PlanInput) : Pattern :=
  input.pattern.render
    [("platform", input.platform), ("framework", input.framework), ("version", input.version)]

/-- The callees that are in force: the pattern's own, else the signature's anchors. -/
def PlanInput.callees (input : PlanInput) : List String :=
  match input.rendered.callSite with
  | some rule => if rule.callees.isEmpty then input.signature.anchors else rule.callees
  | none => input.signature.anchors

/-! ### What a file has -/

structure ImportKey where
  isFrom : Bool
  module : String
  name : String
  newName : Option String
deriving DecidableEq, Repr, Inhabited

def importKeys (entry : Import) : List ImportKey :=
  entry.names.map fun imported => ⟨entry.isFrom, entry.module, imported.name, imported.newName⟩

def lineKeys? (line : String) : Option (List ImportKey) :=
  let tree := SyntaxTree.parse line.toList
  if tree.hasErrors then none
  else
    match tree.imports.flatMap importKeys with
    | [] => none
    | keys => some keys

def frameworkBindings (imports : List Import) (signature : Signature) : List String :=
  (imports.filter fun entry => signature.matchesModule entry.module).flatMap Import.bindings

/-- Whether a call goes through one of the bindings, or may do so through a wildcard. -/
def isEligible (bindings : List String) (call : Call) : Bool :=
  bindings.contains call.rootBinding
    || (bindings.contains "*" && !call.callee.toList.contains '.')

/-- The call to attach to: for the first callee that has one, the call of the highest rank that
goes through a binding of the framework. -/
def anchorCall? (tree : SyntaxTree) (imports : List Import) (signature : Signature)
    (callees : List String) : Option Call :=
  let bindings := frameworkBindings imports signature
  if bindings.isEmpty then none
  else
    callees.findSome? fun callee =>
      (Syntax.rankCalls bindings ((tree.calls callee).filter (isEligible bindings))).head?

def carries (call : Call) (rule : CallSiteRule) : Bool :=
  match call.arguments.find? fun argument => argument.keyword == some rule.keyword with
  | none => false
  | some argument =>
    match rule.mode with
    | .value => true
    | .list =>
      let value := compacted rule.value
      match argument.listElements with
      | some elements => elements.any fun element => compacted element == value
      | none => compacted argument.value == value

/-! ### Drafts -/

structure Draft where
  /-- Imports the file has or will have. -/
  keys : List ImportKey
  /-- The texts of those imports, without blanks. -/
  texts : List String
  importLines : List String := []
  importIds : List String := []
  initBlocks : List (Block × String) := []
  initIds : List String := []
  callPoints : List InjectionPoint := []
deriving Repr, Inhabited

def addId (ids : List String) (id : String) : List String :=
  if ids.contains id then ids else ids ++ [id]

def Draft.start (imports : List Import) : Draft :=
  let top := imports.filter fun entry => entry.topLevel
  { keys := top.flatMap importKeys, texts := top.map fun entry => compacted entry.text }

/-- The draft with an import line, unless the file has what it imports. -/
def Draft.addImport (id : String) (draft : Draft) (line : String) : Draft :=
  let (fresh, keys) := match lineKeys? line with
    | some keys => (keys.any fun key => !draft.keys.contains key, draft.keys ++ keys)
    | none => (!draft.texts.contains (compacted line), draft.keys)
  let known := { draft with keys, texts := draft.texts ++ [compacted line] }
  if fresh then
    { known with
      importLines := draft.importLines ++ [line]
      importIds := addId draft.importIds id }
  else known

def Draft.addImports (draft : Draft) (pattern : Pattern) : Draft :=
  ((pattern.imports.map trimmed).filter fun line => !line.isEmpty).foldl
    (Draft.addImport pattern.id) draft

/-- The draft with a pattern's module-level code, unless the file or the draft has it. -/
def Draft.addInit (source : Block) (draft : Draft) (pattern : Pattern) : Draft :=
  match pattern.initCode with
  | none => draft
  | some code =>
    let block := Block.ofText code.toList
    if block.isEmpty || source.contains block
        || draft.initBlocks.any fun (known, _) => known.text == block.text then draft
    else
      { draft with
        initBlocks := draft.initBlocks ++ [(block, String.ofList (Text.trimEnd code.toList))]
        initIds := addId draft.initIds pattern.id }

def callPoint? (targets : List Target) (pattern : Pattern) (anchor : Call) :
    Option InjectionPoint :=
  match pattern.callSite with
  | none => none
  | some rule =>
    if rule.appliesTo targets && !carries anchor rule then
      some
        { anchor := anchor.node
          kind := .argument rule.keyword rule.mode
          payload := trimmed rule.value
          patternId := pattern.id
          line := anchor.line }
    else none

def InjectionPoint.agrees (left right : InjectionPoint) : Bool :=
  left.patternId == right.patternId && left.kind == right.kind && left.payload == right.payload

/-- The draft with a call-site point.  A point for a call that has one is either the same or in
conflict with it. -/
def Draft.addCallPoint (draft : Draft) (point : InjectionPoint) : Except Conflict Draft :=
  match draft.callPoints.find? fun known => known.anchor == point.anchor with
  | none => .ok { draft with callPoints := draft.callPoints ++ [point] }
  | some known =>
    if known.agrees point then .ok draft
    else .error ⟨point.anchor, point.line, [known.patternId, point.patternId]⟩

def Draft.addInput (tree : SyntaxTree) (imports : List Import) (source : Block)
    (targets : List Target) (draft : Draft) (input : PlanInput) : Except Conflict Draft :=
  match anchorCall? tree imports input.signature input.callees with
  | none => .ok draft
  | some anchor =>
    let pattern := input.rendered
    let draft := (draft.addImports pattern).addInit source pattern
    match callPoint? targets pattern anchor with
    | none => .ok draft
    | some point => draft.addCallPoint point

def Draft.modulePoints (draft : Draft) (anchor : NodeRef) (line : Nat) : List InjectionPoint :=
  (if draft.importLines.isEmpty then []
    else
      [{ anchor, line, kind := .insertImport
         payload := "\n".intercalate draft.importLines
         patternId := ",".intercalate draft.importIds }])
  ++ (if draft.initBlocks.isEmpty then []
    else
      [{ anchor, line, kind := .insertAfter
         payload := "\n\n".intercalate (draft.initBlocks.map Prod.snd)
         patternId := ",".intercalate draft.initIds }])

/-- The points of a draft: imports, module-level code, then the calls by line. -/
def Draft.points (tree : SyntaxTree) (draft : Draft) : List InjectionPoint :=
  let anchor := tree.importAnchor
  let line := ((tree.resolve anchor).map tree.line).getD 1
  draft.modulePoints anchor line
    ++ draft.callPoints.mergeSort fun left right => left.line ≤ right.line

def planFile (targets : List Target) (path : String) (tree : SyntaxTree)
    (inputs : List PlanInput) : EditPlan :=
  let imports := tree.imports
  let source := Block.ofText tree.source
  match inputs.foldlM (Draft.addInput tree imports source targets) (Draft.start imports) with
  | .error conflict => EditPlan.conflicted path conflict
  | .ok draft => EditPlan.ofPoints path (draft.points tree)

end AgentProbe
