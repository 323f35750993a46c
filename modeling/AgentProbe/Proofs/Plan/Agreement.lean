import AgentProbe.Edit.Injection
import AgentProbe.Proofs.Plan.Draft
import AgentProbe.Proofs.Syntax.Anchor

set_option autoImplicit false

/-!
Planning and injection agree.

The planner decides from calls that were read off the tree; the injector looks at the nodes again.
Here both are brought back to the same nodes: every anchor of a plan resolves, no two points want the
same thing of one node, and a keyword that the planner found missing is missing for the injector too.
The one thing that can still go wrong is a call whose only argument is a bare generator expression.
-/

namespace AgentProbe

open Syntax (SyntaxTree Node Call NodeRef)

/-! ### The grammar -/

def Syntax.Node.isComplete (node : Node) : Bool :=
  match node.kind with
  | .call =>
    match node.child? .arguments with
    | some list => list.kind == .argumentList || list.kind == .generatorExpression
    | none => false
  | .keywordArgument => (node.child? .name).isSome && (node.child? .value).isSome
  | _ => true

/-- What the grammar promises of a tree without errors. -/
def Syntax.SyntaxTree.Grammatical (tree : SyntaxTree) : Prop :=
  tree.root.kind.name = "module" ∧ ∀ node ∈ tree.nodes, node.isComplete = true

instance (tree : SyntaxTree) : Decidable tree.Grammatical :=
  inferInstanceAs (Decidable (_ ∧ _))

namespace Syntax.SyntaxTree.Grammatical

theorem call_arguments {tree : SyntaxTree} (grammatical : tree.Grammatical) {node : Node}
    (under : node.Under tree.root) (isCall : node.kind = .call) :
    ∃ list, node.child? .arguments = some list ∧
      (list.kind = .argumentList ∨ list.kind = .generatorExpression) := by
  have complete := grammatical.2 node (mem_nodes_of_under under)
  simp only [Node.isComplete, isCall] at complete
  cases found : node.child? .arguments with
  | none =>
      rw [found] at complete
      cases complete
  | some list =>
      rw [found] at complete
      simp only [Bool.or_eq_true, beq_iff_eq] at complete
      exact ⟨list, rfl, complete⟩

theorem keyword_value {tree : SyntaxTree} (grammatical : tree.Grammatical) {node : Node}
    (under : node.Under tree.root) (isKeyword : node.kind = .keywordArgument) :
    ∃ value, node.child? .value = some value := by
  have complete := grammatical.2 node (mem_nodes_of_under under)
  simp only [Node.isComplete, isKeyword, Bool.and_eq_true] at complete
  exact Option.isSome_iff_exists.mp complete.2

end Syntax.SyntaxTree.Grammatical

/-! ### What the call-site points of a draft come from -/

/-- A point that asks for an argument which a call of the tree does not carry. -/
def InjectionPoint.IsForCall (tree : SyntaxTree) (point : InjectionPoint) : Prop :=
  ∃ call rule, call ∈ tree.allCalls ∧ carries call rule = false ∧ point.anchor = call.node ∧
    point.kind = .argument rule.keyword rule.mode

/-- Every call-site point is for a call of the tree, and no call has two. -/
structure Draft.Consistent (tree : SyntaxTree) (draft : Draft) : Prop where
  forCalls : ∀ point ∈ draft.callPoints, point.IsForCall tree
  distinct : draft.callPoints.Pairwise fun left right => left.anchor ≠ right.anchor

theorem Draft.Consistent.addCallPoint {tree : SyntaxTree} {draft next : Draft}
    {point : InjectionPoint} (consistent : draft.Consistent tree) (forCall : point.IsForCall tree)
    (added : draft.addCallPoint point = .ok next) : next.Consistent tree := by
  rcases addCallPoint_eq_ok added with ⟨fresh, rfl⟩ | ⟨_, _, _, _, rfl⟩
  · constructor
    · intro other member
      rcases List.mem_append.mp member with known | last
      · exact consistent.forCalls other known
      · rw [List.mem_singleton.mp last]
        exact forCall
    · refine List.pairwise_append.mpr ⟨consistent.distinct, List.pairwise_singleton _ _, ?_⟩
      intro known member other last
      rw [List.mem_singleton.mp last]
      exact fresh known member
  · exact consistent

theorem Draft.Consistent.addInput {tree : SyntaxTree} {source : Block} {targets : List Target}
    {draft next : Draft} {input : PlanInput} (consistent : draft.Consistent tree)
    (added : draft.addInput tree tree.imports source targets input = .ok next) :
    next.Consistent tree := by
  have filled : (draft.addModule source input).Consistent tree :=
    ⟨by rw [addModule_callPoints]; exact consistent.forCalls,
      by rw [addModule_callPoints]; exact consistent.distinct⟩
  rcases addInput_eq_ok added with ⟨_, rfl⟩ | ⟨anchor, anchored, ⟨_, rfl⟩ | ⟨point, made, pushed⟩⟩
  · exact consistent
  · exact filled
  · obtain ⟨rule, _, _, missing, place, kind⟩ := callPoint?_eq_some made
    exact filled.addCallPoint ⟨anchor, rule, anchorCall?_mem anchored, missing, place, kind⟩ pushed

/-! ### The points of a plan -/

theorem Draft.mem_modulePoints {draft : Draft} {anchor : NodeRef} {line : Nat}
    {point : InjectionPoint} (member : point ∈ draft.modulePoints anchor line) :
    point.anchor = anchor ∧ (point.kind = .insertImport ∨ point.kind = .insertAfter) := by
  unfold modulePoints at member
  rcases List.mem_append.mp member with imports | code
  · split at imports
    · cases imports
    · rw [List.mem_singleton.mp imports]
      exact ⟨rfl, Or.inl rfl⟩
  · split at code
    · cases code
    · rw [List.mem_singleton.mp code]
      exact ⟨rfl, Or.inr rfl⟩

def InjectionPoint.key (point : InjectionPoint) : NodeRef × String :=
  (point.anchor, point.kind.tag)

theorem Draft.modulePoints_keys_nodup (draft : Draft) (anchor : NodeRef) (line : Nat) :
    ((draft.modulePoints anchor line).map InjectionPoint.key).Nodup := by
  unfold modulePoints
  split <;> split <;> simp [InjectionPoint.key, EditKind.tag]

theorem Draft.Consistent.callPoints_keys_nodup {tree : SyntaxTree} {draft : Draft}
    (consistent : draft.Consistent tree) :
    (draft.callPoints.map InjectionPoint.key).Nodup := by
  refine List.pairwise_map.mpr (consistent.distinct.imp ?_)
  intro left right different same
  exact different (congrArg Prod.fst same)

theorem InjectionPoint.IsForCall.tag {tree : SyntaxTree} {point : InjectionPoint}
    (forCall : point.IsForCall tree) : point.kind.tag = "add_or_merge_argument" := by
  obtain ⟨_, _, _, _, _, kind⟩ := forCall
  rw [kind]
  rfl

/-- No two points of a consistent draft ask for the same thing. -/
theorem Draft.Consistent.points_keys_nodup {tree : SyntaxTree} {draft : Draft}
    (consistent : draft.Consistent tree) :
    ((draft.points tree).map InjectionPoint.key).Nodup := by
  simp only [points, List.map_append]
  refine List.nodup_append.mpr ⟨draft.modulePoints_keys_nodup _ _, ?_, ?_⟩
  · exact ((List.mergeSort_perm draft.callPoints _).map InjectionPoint.key).nodup_iff.mpr
      consistent.callPoints_keys_nodup
  · intro first firstMember second secondMember same
    obtain ⟨modulePoint, atModule, rfl⟩ := List.mem_map.mp firstMember
    obtain ⟨callPoint, sorted, rfl⟩ := List.mem_map.mp secondMember
    have atCall := (List.mergeSort_perm draft.callPoints _).mem_iff.mp sorted
    have tags := congrArg Prod.snd same
    simp only [InjectionPoint.key, (consistent.forCalls callPoint atCall).tag] at tags
    rcases (mem_modulePoints atModule).2 with kind | kind <;>
      · rw [kind] at tags
        exact absurd tags (by decide)

theorem duplicate?_eq_none {seen : List (NodeRef × String)} {points : List InjectionPoint}
    (distinct : (points.map InjectionPoint.key).Nodup)
    (fresh : ∀ point ∈ points, point.key ∉ seen) : duplicate? seen points = none := by
  induction points generalizing seen with
  | nil => rfl
  | cons point points ih =>
      rw [List.map_cons, List.nodup_cons] at distinct
      have unseen : seen.contains point.key = false := by
        simpa using fresh point List.mem_cons_self
      have later : ∀ other ∈ points, other.key ∉ point.key :: seen := by
        intro other member known
        rcases List.mem_cons.mp known with same | old
        · exact distinct.1 (List.mem_map.mpr ⟨other, member, same⟩)
        · exact fresh other (List.mem_cons_of_mem point member) old
      have rest := ih distinct.2 later
      simp only [duplicate?]
      change (if seen.contains point.key then some point
        else duplicate? (point.key :: seen) points) = none
      rw [unseen, rest]
      rfl

theorem planFile_consistent {targets : List Target} {path : String} {tree : SyntaxTree}
    {inputs : List PlanInput} (clear : (planFile targets path tree inputs).conflict = none) :
    ∃ draft,
      inputs.foldlM (Draft.addInput tree tree.imports (Block.ofText tree.source) targets)
          (Draft.start tree.imports) = .ok draft ∧
        planFile targets path tree inputs = EditPlan.ofPoints path (draft.points tree) ∧
        draft.Consistent tree := by
  obtain ⟨draft, folded, same⟩ := planFile_eq_ofPoints clear
  refine ⟨draft, folded, same, ?_⟩
  exact Sequencing.foldlM_preserves (fun _ _ _ holds added => Draft.Consistent.addInput holds added)
    inputs (Draft.start tree.imports) draft
    ⟨fun _ member => absurd member List.not_mem_nil, List.Pairwise.nil⟩ folded

theorem planFile_points {targets : List Target} {path : String} {tree : SyntaxTree}
    {inputs : List PlanInput} (clear : (planFile targets path tree inputs).conflict = none) :
    ((planFile targets path tree inputs).points.map InjectionPoint.key).Nodup ∧
      ∀ point ∈ (planFile targets path tree inputs).points,
        point.IsForCall tree ∨
          (point.anchor = tree.importAnchor ∧
            (point.kind = .insertImport ∨ point.kind = .insertAfter)) := by
  obtain ⟨draft, _, same, consistent⟩ := planFile_consistent clear
  rw [same]
  constructor
  · simp only [EditPlan.ofPoints]
    rw [EditPlan.map_number InjectionPoint.key (fun _ _ => rfl)]
    exact consistent.points_keys_nodup
  · intro point member
    obtain ⟨original, present, renumbered⟩ := EditPlan.mem_number member
    rw [renumbered]
    rcases List.mem_append.mp present with atModule | sorted
    · have placed := Draft.mem_modulePoints atModule
      exact Or.inr placed
    · exact Or.inl (consistent.forCalls original
        ((List.mergeSort_perm draft.callPoints _).mem_iff.mp sorted))

theorem planFile_anchored {targets : List Target} {path : String} {tree : SyntaxTree}
    {inputs : List PlanInput} {point : InjectionPoint}
    (clear : (planFile targets path tree inputs).conflict = none)
    (planned : point ∈ (planFile targets path tree inputs).points)
    (kind : point.kind = .insertImport ∨ point.kind = .insertAfter) :
    point.anchor = tree.importAnchor := by
  rcases (planFile_points clear).2 point planned with ⟨_, _, _, _, _, argument⟩ | ⟨anchored, _⟩
  · rw [argument] at kind
    simp at kind
  · exact anchored

/-! ### Anchors resolve -/

theorem InjectionPoint.resolve_of_reached {tree : SyntaxTree} {point : InjectionPoint}
    {node : Node} (path : List Nat) (reached : tree.root.at? path = some node)
    (anchored : point.anchor = NodeRef.of node path) : point.resolve tree = .ok node := by
  have found : tree.resolve point.anchor = some node := by
    rw [anchored]
    exact reached
  have same : (node.kind.name == point.anchor.kind) = true := by
    rw [anchored]
    exact beq_self_eq_true _
  simp only [resolve, found, same, if_true]

theorem InjectionPoint.resolve_importAnchor {tree : SyntaxTree} {point : InjectionPoint}
    (rooted : tree.root.kind.name = "module") (anchored : point.anchor = tree.importAnchor) :
    ∃ node, point.resolve tree = .ok node := by
  rcases tree.importAnchor_resolves with atRoot | ⟨index, node, present, place⟩
  · refine ⟨tree.root, resolve_of_reached [] rfl ?_⟩
    rw [anchored, atRoot, NodeRef.of, rooted]
    rfl
  · refine ⟨node, resolve_of_reached [index] ?_ (anchored.trans place)⟩
    rw [Node.at?_cons, present]
    rfl

/-! ### The two ways to look for a keyword -/

theorem carries_of_existing {tree : SyntaxTree} {call : Call} {rule : CallSiteRule}
    {list argument : Node}
    (listed : call.arguments = list.namedChildren.filterMap tree.argumentAt)
    (found : (contents list).find? (fun argument => argument.kind == .keywordArgument
      && (argument.child? .name).map tree.textOf == some rule.keyword) = some argument)
    (single : rule.mode = .value) : carries call rule = true := by
  have matched := List.find?_some found
  simp only [Bool.and_eq_true, beq_iff_eq] at matched
  have named := (List.mem_filter.mp (List.mem_of_find?_eq_some found)).1
  obtain ⟨read, readAs, keyword⟩ : ∃ read, tree.argumentAt argument = some read ∧
      read.keyword = some rule.keyword := by
    simp only [SyntaxTree.argumentAt, matched.1]
    exact ⟨_, rfl, matched.2⟩
  have present : read ∈ call.arguments := by
    rw [listed]
    exact List.mem_filterMap.mpr ⟨argument, named, readAs⟩
  unfold carries
  cases seen : call.arguments.find? fun argument => argument.keyword == some rule.keyword with
  | none =>
      have missed := List.find?_eq_none.mp seen read present
      rw [keyword, beq_self_eq_true] at missed
      exact absurd rfl missed
  | some other =>
      rw [single]

theorem argumentEdit_ok {tree : SyntaxTree} (grammatical : tree.Grammatical) {node list : Node}
    (under : node.Under tree.root) (arguments : node.child? .arguments = some list)
    (isList : list.kind = .argumentList) {call : Call} {rule : CallSiteRule}
    (listed : call.arguments = list.namedChildren.filterMap tree.argumentAt)
    (missing : carries call rule = false) (point : InjectionPoint) :
    ∃ edit, argumentEdit tree node point rule.keyword rule.mode = .ok edit := by
  simp only [argumentEdit, arguments, isList, bne_self_eq_false, Bool.false_eq_true, if_false]
  cases found : (contents list).find? fun argument => argument.kind == .keywordArgument
      && (argument.child? .name).map tree.textOf == some rule.keyword with
  | none => exact ⟨_, rfl⟩
  | some argument =>
      cases mode : rule.mode with
      | value =>
          rw [carries_of_existing listed found mode] at missing
          cases missing
      | list =>
          have matched := List.find?_some found
          simp only [Bool.and_eq_true, beq_iff_eq] at matched
          have named := (List.mem_filter.mp (List.mem_of_find?_eq_some found)).1
          have inside : argument.Under tree.root :=
            (under.child (Node.mem_children_of_child? arguments)).child
              (Node.mem_children_of_namedChildren named)
          obtain ⟨value, valued⟩ := grammatical.keyword_value inside matched.1
          exact ⟨mergeEdit tree point.id value point.payload.toList, by simp only [valued]⟩

/-! ### Plans and their edits -/

/-- Whether a point asks for an argument of a call that takes a bare generator expression. -/
def InjectionPoint.MeetsGenerator (tree : SyntaxTree) (point : InjectionPoint) : Prop :=
  ∃ keyword mode call list, point.kind = .argument keyword mode ∧
    tree.resolve point.anchor = some call ∧ call.child? .arguments = some list ∧
    list.kind = .generatorExpression

theorem InjectionPoint.edit_of_statement {tree : SyntaxTree} {point : InjectionPoint}
    (rooted : tree.root.kind.name = "module") (anchored : point.anchor = tree.importAnchor)
    (kind : point.kind = .insertImport ∨ point.kind = .insertAfter) :
    ∃ edit, point.edit tree = .ok edit := by
  obtain ⟨node, resolved⟩ := resolve_importAnchor rooted anchored
  rcases kind with kind | kind
  · refine ⟨statementEdit tree node point "\n".toList, ?_⟩
    simp only [edit, resolved, kind]
    rfl
  · refine ⟨statementEdit tree node point "\n\n".toList, ?_⟩
    simp only [edit, resolved, kind]
    rfl

/-- The edit of a planned point: it fails only at a bare generator expression, and always there. -/
theorem InjectionPoint.edit_of_planned {tree : SyntaxTree} (grammatical : tree.Grammatical)
    {point : InjectionPoint}
    (planned : point.IsForCall tree ∨ (point.anchor = tree.importAnchor ∧
      (point.kind = .insertImport ∨ point.kind = .insertAfter))) :
    (point.MeetsGenerator tree ∧
        point.edit tree = .error (.inapplicable point.id .bareGenerator)) ∨
      (¬ point.MeetsGenerator tree ∧ ∃ edit, point.edit tree = .ok edit) := by
  rcases planned with ⟨call, rule, member, missing, anchored, kind⟩ | ⟨anchored, kind⟩
  · obtain ⟨node, path, reached, read⟩ := SyntaxTree.mem_allCalls member
    obtain ⟨isCall, place, arguments⟩ := SyntaxTree.callAt_eq_some read
    have resolved := resolve_of_reached path reached (anchored.trans place)
    have found : tree.resolve point.anchor = some node := by
      rw [anchored, place]
      exact reached
    have under : node.Under tree.root := ⟨path, reached⟩
    obtain ⟨list, listAt, shape⟩ := grammatical.call_arguments under isCall
    have same : point.edit tree = argumentEdit tree node point rule.keyword rule.mode := by
      simp only [edit, resolved, kind]
      rfl
    rcases shape with isList | isGenerator
    · refine Or.inr ⟨?_, ?_⟩
      · rintro ⟨_, _, other, otherList, _, otherAt, otherListAt, generator⟩
        rw [found] at otherAt
        cases otherAt
        rw [listAt] at otherListAt
        cases otherListAt
        rw [isList] at generator
        cases generator
      · rw [same]
        rw [listAt] at arguments
        simp only [isList, beq_self_eq_true, if_true] at arguments
        exact argumentEdit_ok grammatical under listAt isList arguments missing point
    · refine Or.inl ⟨⟨rule.keyword, rule.mode, node, list, kind, found, listAt, isGenerator⟩, ?_⟩
      rw [same]
      simp only [argumentEdit, listAt, isGenerator]
      rfl
  · refine Or.inr ⟨?_, ?_⟩
    · rintro ⟨_, _, _, _, argument, _⟩
      rcases kind with kind | kind <;>
        · rw [kind] at argument
          cases argument
    · exact edit_of_statement grammatical.1 anchored kind

/-- The edits of a conflict-free plan can fail in one way only, at a bare generator expression, and
they exist exactly when no call-site point meets one. -/
theorem editsFor_planFile {targets : List Target} {path : String} {tree : SyntaxTree}
    {inputs : List PlanInput} (grammatical : tree.Grammatical)
    (clear : (planFile targets path tree inputs).conflict = none) :
    (∀ error, editsFor tree (planFile targets path tree inputs) = .error error →
        ∃ id, error = .inapplicable id .bareGenerator) ∧
      ((∃ edits, editsFor tree (planFile targets path tree inputs) = .ok edits) ↔
        ∀ point ∈ (planFile targets path tree inputs).points, ¬ point.MeetsGenerator tree) := by
  obtain ⟨distinct, planned⟩ := planFile_points clear
  have mapped : editsFor tree (planFile targets path tree inputs) =
      (planFile targets path tree inputs).points.mapM fun point => point.edit tree := by
    unfold editsFor
    rw [duplicate?_eq_none distinct fun _ _ => List.not_mem_nil]
  rw [mapped]
  refine ⟨?_, ?_, ?_⟩
  · intro error failed
    obtain ⟨point, member, stopped⟩ := Sequencing.exists_of_mapM_eq_error failed
    rcases InjectionPoint.edit_of_planned grammatical (planned point member) with
      ⟨_, bare⟩ | ⟨_, edit, made⟩
    · rw [bare] at stopped
      cases stopped
      exact ⟨point.id, rfl⟩
    · rw [made] at stopped
      cases stopped
  · rintro ⟨edits, finished⟩ point member meets
    obtain ⟨edit, _, made⟩ := Sequencing.ok_of_mapM_eq_ok finished member
    rcases InjectionPoint.edit_of_planned grammatical (planned point member) with
      ⟨_, bare⟩ | ⟨free, _⟩
    · rw [bare] at made
      cases made
    · exact free meets
  · intro free
    refine Sequencing.mapM_ok_of_forall ?_
    intro point member
    rcases InjectionPoint.edit_of_planned grammatical (planned point member) with
      ⟨meets, _⟩ | ⟨_, made⟩
    · exact absurd meets (free point member)
    · exact made

def tracingInput : PlanInput :=
  { framework := "agents", version := "*", platform := "acme"
    signature := { name := "agents", packages := [], modules := ["agents"], anchors := ["Agent"] }
    pattern :=
      { id := "acme/agents", imports := ["import acme"], initCode := some "acme.setup()"
        callSite := some { keyword := "hooks", value := "acme.hook" } } }

def generatorTree : SyntaxTree :=
  SyntaxTree.parse "from agents import Agent\nbot = Agent(t for t in tools)\n".toList

theorem editsFor_planFile_generator :
    generatorTree.Grammatical ∧
      (planFile [] "agent.py" generatorTree [tracingInput]).conflict = none ∧
      ∀ error, editsFor generatorTree (planFile [] "agent.py" generatorTree [tracingInput]) =
          .error error → ∃ id, error = .inapplicable id .bareGenerator := by
  have grammatical : generatorTree.Grammatical := by decide +kernel
  have clear : (planFile [] "agent.py" generatorTree [tracingInput]).conflict = none := by
    decide +kernel
  exact ⟨grammatical, clear, (editsFor_planFile grammatical clear).1⟩

end AgentProbe
