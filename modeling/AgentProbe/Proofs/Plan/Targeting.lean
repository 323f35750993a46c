import AgentProbe.Platform.Builtin
import AgentProbe.Proofs.Plan.Satisfaction

set_option autoImplicit false

/-!
What the targets of a run decide.

Targets gate call-site edits twice: a platform leaves out a rule that serves none of them, and the
planner passes over one.  But a rule also names the calls that its pattern attaches to.  The planner
reads these names before it looks at targets; the platform drops them with the rule, which hands the
choice of calls back to the framework.  So imports and code can come and go with the targets.
-/

namespace AgentProbe

open Syntax (SyntaxTree NodeRef)

/-! ### One pattern under different targets -/

namespace Platform

/-- The rule that a platform has for a framework, whatever the targets are. -/
def rule? (platform : Platform) (framework : String) : Option CallSiteRule :=
  (platform.template? framework).bind fun entry => entry.2.callSite

def input (platform : Platform) (framework version : String) (signature : Signature)
    (targets : List Target) : Except PatternError PlanInput :=
  (platform.pattern framework version targets).map fun pattern =>
    { framework, version, signature, platform := platform.name, pattern }

variable {platform : Platform} {framework version : String} {signature : Signature}
  {first second : List Target} {left right : PlanInput}

theorem input_congr (leftMade : platform.input framework version signature first = .ok left)
    (rightMade : platform.input framework version signature second = .ok right) :
    left.signature = right.signature ∧ left.rendered.id = right.rendered.id ∧
      left.rendered.imports = right.rendered.imports ∧
      left.rendered.initCode = right.rendered.initCode := by
  unfold input Platform.pattern at leftMade rightMade
  cases found : platform.template? framework with
  | none =>
      rw [found] at leftMade
      cases leftMade
  | some entry =>
      rw [found] at leftMade rightMade
      cases leftMade
      cases rightMade
      exact ⟨rfl, rfl, rfl, rfl⟩

theorem callees_input (made : platform.input framework version signature first = .ok left) :
    left.callees =
      match platform.rule? framework with
      | none => signature.anchors
      | some rule =>
        if rule.appliesTo first && !rule.callees.isEmpty then rule.callees
        else signature.anchors := by
  unfold input Platform.pattern at made
  unfold rule?
  cases found : platform.template? framework with
  | none =>
      rw [found] at made
      cases made
  | some entry =>
      obtain ⟨key, template⟩ := entry
      rw [found] at made
      cases made
      simp only [PlanInput.callees, PlanInput.rendered, Pattern.render, Template.toPattern,
        Option.bind_some]
      cases template.callSite with
      | none => rfl
      | some rule =>
          have scope (value : String) :
              CallSiteRule.appliesTo { rule with value := value } first = rule.appliesTo first := rfl
          rw [Option.map_some, Option.filter_some, scope]
          dsimp only
          cases rule.appliesTo first with
          | false => rfl
          | true => cases none : rule.callees.isEmpty <;> simp [none]

/-- Targets choose the callees only by a rule that names some and is in scope for one of two lists. -/
theorem callees_congr (leftMade : platform.input framework version signature first = .ok left)
    (rightMade : platform.input framework version signature second = .ok right)
    (alike : ∀ rule, platform.rule? framework = some rule →
      rule.callees = [] ∨ rule.appliesTo first = rule.appliesTo second) :
    left.callees = right.callees := by
  rw [callees_input leftMade, callees_input rightMade]
  cases asked : platform.rule? framework with
  | none => rfl
  | some rule =>
      dsimp only
      rcases alike rule asked with unnamed | sameScope
      · simp [unnamed]
      · rw [sameScope]

end Platform

/-! ### The module-level points of one input -/

namespace EditPlan

def ofKind (kind : EditKind) (plan : EditPlan) : List InjectionPoint :=
  plan.points.filter fun point => point.kind == kind

theorem number_append (first : Nat) (before after : List InjectionPoint) :
    number first (before ++ after) =
      number first before ++ number (first + before.length) after := by
  induction before generalizing first with
  | nil => rfl
  | cons point before ih =>
      rw [List.cons_append, number, number, ih, List.length_cons, List.cons_append, Nat.add_assoc,
        Nat.add_comm 1]

end EditPlan

namespace Draft

variable {draft : Draft} {tree : SyntaxTree}

theorem ofKind_points {kind : EditKind} (path : String)
    (calls : ∀ point ∈ draft.callPoints, ∃ keyword mode, point.kind = .argument keyword mode)
    (atModule : ∀ keyword mode, kind ≠ .argument keyword mode) :
    (EditPlan.ofPoints path (draft.points tree)).ofKind kind =
      (EditPlan.number 0 (draft.modulePoints tree.importAnchor
        (((tree.resolve tree.importAnchor).map tree.line).getD 1))).filter
          fun point => point.kind == kind := by
  unfold EditPlan.ofKind EditPlan.ofPoints points
  rw [EditPlan.number_append, List.filter_append, List.append_right_eq_self,
    List.filter_eq_nil_iff]
  intro point member same
  obtain ⟨original, present, renumbered⟩ := EditPlan.mem_number member
  obtain ⟨keyword, mode, argument⟩ :=
    calls original ((List.mergeSort_perm draft.callPoints _).mem_iff.mp present)
  apply atModule keyword mode
  rw [← eq_of_beq same, renumbered]
  exact argument

theorem addModule_congr (draft : Draft) (source : Block) {left right : PlanInput}
    (sameId : left.rendered.id = right.rendered.id)
    (sameImports : left.rendered.imports = right.rendered.imports)
    (sameCode : left.rendered.initCode = right.rendered.initCode) :
    draft.addModule source left = draft.addModule source right := by
  have imports : draft.addImports left.rendered = draft.addImports right.rendered := by
    rw [addImports, addImports, sameId, sameImports]
  unfold addModule addInit
  rw [imports, sameCode, sameId]

theorem addCallPoint_of_nil (none : draft.callPoints = []) (point : InjectionPoint) :
    draft.addCallPoint point = .ok { draft with callPoints := [point] } := by
  unfold addCallPoint
  rw [none]
  rfl

theorem modulePoints_quiet (draft : Draft) (anchor : NodeRef) (line : Nat) :
    ((EditPlan.number 0 (draft.modulePoints anchor line)).filter
          (fun point => point.kind == .insertImport) = [] ∧
        (EditPlan.number 0 (draft.modulePoints anchor line)).filter
          (fun point => point.kind == .insertAfter) = []) ↔
      draft.importLines = [] ∧ draft.initBlocks = [] := by
  unfold modulePoints
  cases draft.importLines <;> cases draft.initBlocks <;> simp [EditPlan.number]

end Draft

namespace PlanInput

structure IsStocked (tree : SyntaxTree) (input : PlanInput) : Prop where
  imports : ∀ before line after, input.lines = before ++ line :: after → HasImport tree before line
  code : ∀ code, input.rendered.initCode = some code →
    (Block.ofText code.toList).isEmpty = true ∨
      (Block.ofText tree.source).contains (Block.ofText code.toList) = true

def draft (tree : SyntaxTree) (input : PlanInput) : Draft :=
  if (input.anchor? tree).isSome then
    (Draft.start tree.imports).addModule (Block.ofText tree.source) input
  else Draft.start tree.imports

variable {tree : SyntaxTree}

theorem isStocked_iff (input : PlanInput) :
    ((Draft.start tree.imports).addModule (Block.ofText tree.source) input).importLines = [] ∧
        ((Draft.start tree.imports).addModule (Block.ofText tree.source) input).initBlocks = [] ↔
      input.IsStocked tree := by
  have knows : (Draft.start tree.imports).Knows tree [] :=
    ⟨fun _ => Iff.rfl, fun _ => by simp⟩
  have quiet := @Draft.addModule_quiet tree [] (Draft.start tree.imports) (Block.ofText tree.source)
    input knows
  constructor
  · rintro ⟨noLines, noBlocks⟩
    obtain ⟨_, imports, code⟩ := quiet.mp ⟨noLines, noBlocks, Draft.addModule_callPoints _ _ _⟩
    exact ⟨imports, code⟩
  · rintro ⟨imports, code⟩
    obtain ⟨noLines, noBlocks, _⟩ := quiet.mpr ⟨⟨rfl, rfl, rfl⟩, imports, code⟩
    exact ⟨noLines, noBlocks⟩

theorem IsStocked.key_mem {input : PlanInput} {line : String} {after : List String}
    {keys : List ImportKey} (stocked : input.IsStocked tree)
    (lines : input.lines = line :: after) (read : lineKeys? line = some keys) :
    ∀ key ∈ keys, key ∈ (Draft.start tree.imports).keys := by
  have has := stocked.imports [] line after lines
  unfold HasImport at has
  rw [read] at has
  exact has

theorem addInput_start (targets : List Target) (tree : SyntaxTree) (input : PlanInput) :
    ∃ next, (Draft.start tree.imports).addInput tree tree.imports (Block.ofText tree.source) targets
          input = .ok next ∧
      next.modulePoints = (input.draft tree).modulePoints ∧
      ∀ point ∈ next.callPoints, ∃ keyword mode, point.kind = .argument keyword mode := by
  unfold Draft.addInput draft anchor?
  cases anchorCall? tree tree.imports input.signature input.callees with
  | none => exact ⟨_, rfl, rfl, List.forall_mem_nil _⟩
  | some anchor =>
      have noCalls := (Draft.start tree.imports).addModule_callPoints (Block.ofText tree.source) input
      rw [Draft.addModule] at noCalls
      dsimp only
      cases made : callPoint? targets input.rendered anchor with
      | none =>
          refine ⟨_, rfl, rfl, ?_⟩
          intro point member
          rw [noCalls] at member
          cases member
      | some point =>
          obtain ⟨rule, _, _, _, _, kind⟩ := callPoint?_eq_some made
          refine ⟨_, Draft.addCallPoint_of_nil noCalls point, rfl, ?_⟩
          intro other member
          cases List.mem_singleton.mp member
          exact ⟨_, _, kind⟩

theorem planFile_singleton (targets : List Target) (path : String) (tree : SyntaxTree)
    (input : PlanInput) :
    (planFile targets path tree [input]).conflict = none ∧
      ∀ kind, (∀ keyword mode, kind ≠ .argument keyword mode) →
        (planFile targets path tree [input]).ofKind kind =
          (EditPlan.number 0 ((input.draft tree).modulePoints tree.importAnchor
            (((tree.resolve tree.importAnchor).map tree.line).getD 1))).filter
              fun point => point.kind == kind := by
  obtain ⟨next, added, sameModule, calls⟩ := addInput_start targets tree input
  have folded : [input].foldlM (Draft.addInput tree tree.imports (Block.ofText tree.source) targets)
      (Draft.start tree.imports) = .ok next := by
    rw [List.foldlM_cons, added]
    rfl
  have planned : planFile targets path tree [input] =
      EditPlan.ofPoints path (next.points tree) := by
    simp only [planFile, folded]
  rw [planned]
  refine ⟨rfl, ?_⟩
  intro kind atModule
  rw [next.ofKind_points path calls atModule, sameModule]

end PlanInput

/-! ### Two lists of targets -/

/-- Targets gate the imports and the code of a pattern only by the calls that a rule names.  Under two
lists of targets the module-level points are equal exactly if the pattern has an anchor under both or
under neither, or the file has all it asks for; and the anchors are equal unless a rule that names
callees is in scope for one list only. -/
theorem planFile_targets {platform : Platform} {framework version : String} {signature : Signature}
    {first second : List Target} {left right : PlanInput}
    (leftMade : platform.input framework version signature first = .ok left)
    (rightMade : platform.input framework version signature second = .ok right)
    (path : String) (tree : SyntaxTree) :
    (planFile first path tree [left]).conflict = none ∧
      (planFile second path tree [right]).conflict = none ∧
      (((planFile first path tree [left]).ofKind .insertImport =
            (planFile second path tree [right]).ofKind .insertImport ∧
          (planFile first path tree [left]).ofKind .insertAfter =
            (planFile second path tree [right]).ofKind .insertAfter) ↔
        (left.anchor? tree).isSome = (right.anchor? tree).isSome ∨ left.IsStocked tree) ∧
      ((∀ rule, platform.rule? framework = some rule →
          rule.callees = [] ∨ rule.appliesTo first = rule.appliesTo second) →
        left.anchor? tree = right.anchor? tree) := by
  obtain ⟨sameSignature, sameId, sameImports, sameCode⟩ := Platform.input_congr leftMade rightMade
  obtain ⟨leftClear, leftPoints⟩ := left.planFile_singleton first path tree
  obtain ⟨rightClear, rightPoints⟩ := right.planFile_singleton second path tree
  refine ⟨leftClear, rightClear, ?_, ?_⟩
  · have shared := (Draft.start tree.imports).addModule_congr (Block.ofText tree.source) sameId
      sameImports sameCode
    have quiet := ((Draft.start tree.imports).addModule (Block.ofText tree.source)
      left).modulePoints_quiet tree.importAnchor
        (((tree.resolve tree.importAnchor).map tree.line).getD 1)
    rw [left.isStocked_iff] at quiet
    rw [leftPoints _ (by rintro _ _ ⟨⟩), leftPoints _ (by rintro _ _ ⟨⟩),
      rightPoints _ (by rintro _ _ ⟨⟩), rightPoints _ (by rintro _ _ ⟨⟩)]
    unfold PlanInput.draft
    rw [← shared]
    cases (left.anchor? tree).isSome with
    | false =>
        cases (right.anchor? tree).isSome with
        | false => exact iff_of_true ⟨rfl, rfl⟩ (Or.inl rfl)
        | true =>
            rw [or_iff_right Bool.false_ne_true]
            exact (and_congr eq_comm eq_comm).trans quiet
    | true =>
        cases (right.anchor? tree).isSome with
        | false =>
            rw [or_iff_right Bool.false_ne_true.symm]
            exact quiet
        | true => exact iff_of_true ⟨rfl, rfl⟩ (Or.inl rfl)
  · intro alike
    unfold PlanInput.anchor?
    rw [sameSignature, Platform.callees_congr leftMade rightMade alike]

/-- A file that calls a framework by another name than the one that a rule for it names. -/
def chatTree : SyntaxTree :=
  SyntaxTree.parse "from langchain_openai import ChatOpenAI\nllm = ChatOpenAI()\n".toList

def chatSignature : Signature :=
  { name := "langchain", packages := ["langchain"], modules := ["langchain_openai"]
    anchors := ["AgentExecutor", "ChatOpenAI"] }

theorem planFile_targets_unserved :
    ∃ left right,
      Platform.langfuse.input "langchain" "*" chatSignature [.llmCalls] = .ok left ∧
      Platform.langfuse.input "langchain" "*" chatSignature [.rag] = .ok right ∧
      (planFile [.llmCalls] "agent.py" chatTree [left]).conflict = none ∧
      (planFile [.rag] "agent.py" chatTree [right]).conflict = none ∧
      ¬ ((planFile [.llmCalls] "agent.py" chatTree [left]).ofKind .insertImport =
            (planFile [.rag] "agent.py" chatTree [right]).ofKind .insertImport ∧
          (planFile [.llmCalls] "agent.py" chatTree [left]).ofKind .insertAfter =
            (planFile [.rag] "agent.py" chatTree [right]).ofKind .insertAfter) := by
  have served : (Platform.langfuse.input "langchain" "*" chatSignature [.llmCalls]).toOption.map
      (fun input => ((input.anchor? chatTree).isSome, input.lines.map String.toList)) =
        some (false, ["import os", "from langfuse.callback import CallbackHandler"].map
          String.toList) := by
    decide +kernel
  have unserved : (Platform.langfuse.input "langchain" "*" chatSignature [.rag]).toOption.map
      (fun input => (input.anchor? chatTree).isSome) = some true := by
    decide +kernel
  have read : lineKeys? "import os" = some [⟨false, "os", "os", none⟩] := by decide +kernel
  have fresh : ⟨false, "os", "os", none⟩ ∉ (Draft.start chatTree.imports).keys := by decide +kernel
  obtain ⟨left, leftRead, leftSeen⟩ := Option.map_eq_some_iff.mp served
  obtain ⟨right, rightRead, rightSeen⟩ := Option.map_eq_some_iff.mp unserved
  have leftMade := Sequencing.eq_ok_of_toOption leftRead
  have rightMade := Sequencing.eq_ok_of_toOption rightRead
  rw [Prod.mk.injEq] at leftSeen
  obtain ⟨unanchored, sameLines⟩ := leftSeen
  have lines := (List.map_inj_right fun _ _ => String.toList_inj.mp).mp sameLines
  obtain ⟨leftClear, rightClear, same, _⟩ := planFile_targets leftMade rightMade "agent.py" chatTree
  refine ⟨left, right, leftMade, rightMade, leftClear, rightClear, ?_⟩
  intro equal
  rcases same.mp equal with alike | stocked
  · rw [unanchored, rightSeen] at alike
    cases alike
  · exact fresh (stocked.key_mem lines read _ List.mem_cons_self)

end AgentProbe
