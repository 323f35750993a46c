import Mathlib.Data.List.Nodup
import AgentProbe.Proofs.Plan.Agreement
import AgentProbe.Proofs.Plan.Satisfaction

set_option autoImplicit false

/-!
Which inputs want an argument of a call, and when they get in each other's way.

A draft keeps the first point that it sees for a call and compares every later one with it.  Because
agreement is equality of what is asked for, this comes to the same as comparing all candidates in
pairs, so the order of the inputs does not matter.
-/

namespace AgentProbe

open Syntax (SyntaxTree Call NodeRef)

/-! ### Candidates -/

/-- An input whose rule is in scope and still has to be carried out at its anchor call. -/
structure PlanInput.IsCandidate (targets : List Target) (tree : SyntaxTree) (input : PlanInput)
    (anchor : Call) (rule : CallSiteRule) : Prop where
  anchored : input.anchor? tree = some anchor
  asked : input.rendered.callSite = some rule
  inScope : rule.appliesTo targets = true
  missing : carries anchor rule = false

def PlanInput.request (input : PlanInput) (anchor : Call) (rule : CallSiteRule) : InjectionPoint :=
  { anchor := anchor.node
    kind := .argument rule.keyword rule.mode
    payload := trimmed rule.value
    patternId := input.rendered.id
    line := anchor.line }

def IsRequested (targets : List Target) (tree : SyntaxTree) (inputs : List PlanInput)
    (point : InjectionPoint) : Prop :=
  ∃ input ∈ inputs, ∃ anchor rule, input.IsCandidate targets tree anchor rule ∧
    point = input.request anchor rule

/-- Two candidates that want different things of the same call. -/
def PlanInput.Clashes (targets : List Target) (tree : SyntaxTree) (left right : PlanInput) : Prop :=
  ∃ leftAnchor leftRule rightAnchor rightRule,
    left.IsCandidate targets tree leftAnchor leftRule ∧
    right.IsCandidate targets tree rightAnchor rightRule ∧
    leftAnchor.node = rightAnchor.node ∧
    (left.pattern.id ≠ right.pattern.id ∨ leftRule.keyword ≠ rightRule.keyword ∨
      leftRule.mode ≠ rightRule.mode ∨ trimmed leftRule.value ≠ trimmed rightRule.value)

variable {targets : List Target} {tree : SyntaxTree} {inputs done : List PlanInput}
  {input : PlanInput} {point other : InjectionPoint} {draft next : Draft}

theorem callPoint?_eq_request {anchor : Call} (anchored : input.anchor? tree = some anchor) :
    callPoint? targets input.rendered anchor = some point ↔
      ∃ rule, input.IsCandidate targets tree anchor rule ∧ point = input.request anchor rule := by
  constructor
  · intro made
    obtain ⟨rule, asked, inScope, missing, _⟩ := callPoint?_eq_some made
    have candidate : input.IsCandidate targets tree anchor rule := ⟨anchored, asked, inScope, missing⟩
    refine ⟨rule, candidate, ?_⟩
    simp only [callPoint?, asked, inScope, missing, Bool.not_false, Bool.and_self, if_true,
      Option.some.injEq] at made
    exact made.symm
  · rintro ⟨rule, candidate, rfl⟩
    simp only [callPoint?, candidate.asked, candidate.inScope, candidate.missing, Bool.not_false,
      Bool.and_self, if_true]
    rfl

theorem isRequested_append {more : List PlanInput} :
    IsRequested targets tree (done ++ more) point ↔
      IsRequested targets tree done point ∨ IsRequested targets tree more point := by
  simp only [IsRequested, List.mem_append, or_and_right, exists_or]

theorem isRequested_singleton {anchor : Call} (anchored : input.anchor? tree = some anchor) :
    IsRequested targets tree [input] point ↔
      callPoint? targets input.rendered anchor = some point := by
  rw [callPoint?_eq_request anchored]
  constructor
  · rintro ⟨same, member, found, rule, candidate, made⟩
    rw [List.mem_singleton.mp member] at candidate made
    have sameCall := candidate.anchored
    rw [anchored] at sameCall
    cases sameCall
    exact ⟨rule, candidate, made⟩
  · rintro ⟨rule, candidate, made⟩
    exact ⟨input, List.mem_singleton.mpr rfl, anchor, rule, candidate, made⟩

theorem not_isRequested_singleton (missing : input.anchor? tree = none) :
    ¬ IsRequested targets tree [input] point := by
  rintro ⟨same, member, found, rule, candidate, _⟩
  rw [List.mem_singleton.mp member] at candidate
  rw [candidate.anchored] at missing
  cases missing

/-! ### A call is determined by its node -/

theorem Syntax.SyntaxTree.eq_of_node_eq {left right : Call} (leftMember : left ∈ tree.allCalls)
    (rightMember : right ∈ tree.allCalls) (same : left.node = right.node) : left = right := by
  obtain ⟨leftNode, leftPath, leftReached, leftRead⟩ := mem_allCalls leftMember
  obtain ⟨rightNode, rightPath, rightReached, rightRead⟩ := mem_allCalls rightMember
  have samePath : leftPath = rightPath := by
    rw [(callAt_eq_some leftRead).2.1, (callAt_eq_some rightRead).2.1] at same
    exact congrArg NodeRef.path same
  subst samePath
  rw [leftReached] at rightReached
  cases rightReached
  rw [leftRead] at rightRead
  cases rightRead
  rfl

theorem PlanInput.anchor?_eq_of_node {left right : PlanInput} {leftCall rightCall : Call}
    (leftFound : left.anchor? tree = some leftCall) (rightFound : right.anchor? tree = some rightCall)
    (same : leftCall.node = rightCall.node) : leftCall = rightCall :=
  SyntaxTree.eq_of_node_eq (anchorCall?_mem leftFound) (anchorCall?_mem rightFound) same

theorem InjectionPoint.agrees_iff :
    point.agrees other = true ↔
      point.patternId = other.patternId ∧ point.kind = other.kind ∧
        point.payload = other.payload := by
  simp only [agrees, Bool.and_eq_true, beq_iff_eq, and_assoc]

/-- Requests for one call that agree are the same, the line included. -/
theorem IsRequested.eq_of_agrees (first : IsRequested targets tree inputs point)
    (second : IsRequested targets tree inputs other) (sameCall : point.anchor = other.anchor)
    (agreed : point.agrees other = true) : point = other := by
  obtain ⟨_, _, anchor, rule, candidate, rfl⟩ := first
  obtain ⟨_, _, otherAnchor, otherRule, otherCandidate, rfl⟩ := second
  have sameAnchor : anchor = otherAnchor :=
    PlanInput.anchor?_eq_of_node candidate.anchored otherCandidate.anchored sameCall
  subst sameAnchor
  obtain ⟨sameId, sameKind, samePayload⟩ := InjectionPoint.agrees_iff.mp agreed
  simp only [PlanInput.request] at sameId sameKind samePayload ⊢
  rw [sameId, sameKind, samePayload]

/-! ### What a draft has collected -/

/-- The call-site points of a draft are the requests of the inputs so far, one for a call. -/
structure Draft.Collects (targets : List Target) (tree : SyntaxTree) (done : List PlanInput)
    (draft : Draft) : Prop where
  requests : ∀ point, point ∈ draft.callPoints ↔ IsRequested targets tree done point
  distinct : (draft.callPoints.map InjectionPoint.anchor).Nodup

namespace Draft.Collects

theorem start : (Draft.start tree.imports).Collects targets tree [] := by
  refine ⟨?_, List.nodup_nil⟩
  intro point
  constructor
  · intro impossible
    cases impossible
  · rintro ⟨input, impossible, _⟩
    cases impossible

theorem addCallPoint (collects : draft.Collects targets tree done)
    (added : draft.addCallPoint point = .ok next)
    (requested : ∀ other, IsRequested targets tree [input] other ↔ other = point) :
    next.Collects targets tree (done ++ [input]) := by
  have new : IsRequested targets tree (done ++ [input]) point :=
    isRequested_append.mpr (Or.inr ((requested point).mpr rfl))
  rcases addCallPoint_eq_ok added with ⟨fresh, rfl⟩ | ⟨known, member, sameCall, agreed, rfl⟩
  · constructor
    · intro other
      rw [isRequested_append, requested, ← collects.requests, List.mem_append, List.mem_singleton]
    · rw [List.map_append, List.map_singleton, List.nodup_append]
      refine ⟨collects.distinct, List.nodup_singleton _, ?_⟩
      intro anchor present last isLast
      obtain ⟨known, member, rfl⟩ := List.mem_map.mp present
      rw [List.mem_singleton.mp isLast]
      exact fresh known member
  · -- The point is there already, so the input adds no request.
    have old : IsRequested targets tree (done ++ [input]) known :=
      isRequested_append.mpr (Or.inl ((collects.requests known).mp member))
    have same : known = point := old.eq_of_agrees new sameCall agreed
    refine ⟨?_, collects.distinct⟩
    intro other
    rw [isRequested_append, requested, ← collects.requests]
    constructor
    · exact Or.inl
    · rintro (present | rfl)
      · exact present
      · rw [← same]
        exact member

theorem addInput {source : Block} (collects : draft.Collects targets tree done)
    (added : draft.addInput tree tree.imports source targets input = .ok next) :
    next.Collects targets tree (done ++ [input]) := by
  have filled : (draft.addModule source input).Collects targets tree done :=
    ⟨by rw [addModule_callPoints]; exact collects.requests,
      by rw [addModule_callPoints]; exact collects.distinct⟩
  have unchanged {same : Draft} (before : same.Collects targets tree done)
      (none : ∀ point, ¬ IsRequested targets tree [input] point) :
      same.Collects targets tree (done ++ [input]) := by
    refine ⟨?_, before.distinct⟩
    intro point
    rw [before.requests, isRequested_append]
    exact ⟨Or.inl, fun both => both.resolve_right (none point)⟩
  rcases addInput_eq_ok added with
    ⟨missing, rfl⟩ | ⟨anchor, found, ⟨nothing, rfl⟩ | ⟨point, made, pushed⟩⟩
  · exact unchanged collects fun _ => not_isRequested_singleton missing
  · refine unchanged filled ?_
    intro point requested
    rw [isRequested_singleton found, nothing] at requested
    cases requested
  · refine filled.addCallPoint pushed ?_
    intro other
    rw [isRequested_singleton found, made, Option.some.injEq]
    exact eq_comm

theorem eq_of_same_anchor (collects : draft.Collects targets tree done)
    (first : IsRequested targets tree done point) (second : IsRequested targets tree done other)
    (sameCall : point.anchor = other.anchor) : point = other :=
  List.inj_on_of_nodup_map collects.distinct ((collects.requests point).mpr first)
    ((collects.requests other).mpr second) sameCall

end Draft.Collects

/-! ### Conflicts -/

def Harmonious (targets : List Target) (tree : SyntaxTree) (inputs : List PlanInput) : Prop :=
  ∀ point other, IsRequested targets tree inputs point → IsRequested targets tree inputs other →
    point.anchor = other.anchor → point.agrees other = true

theorem Draft.addCallPoint_ok (calm : ∀ known ∈ draft.callPoints, known.anchor = point.anchor →
      known.agrees point = true) : ∃ next, draft.addCallPoint point = .ok next := by
  unfold addCallPoint
  cases found : draft.callPoints.find? fun known => known.anchor == point.anchor with
  | none => exact ⟨_, rfl⟩
  | some known =>
      have matched := List.find?_some found
      have sameCall : known.anchor = point.anchor := eq_of_beq matched
      have agreed := calm known (List.mem_of_find?_eq_some found) sameCall
      exact ⟨draft, by simp only [agreed, if_true]⟩

/-- One input meets no conflict when its request agrees with those before it. -/
theorem Draft.Collects.addInput_ok (source : Block) (collects : draft.Collects targets tree done)
    (calm : Harmonious targets tree (done ++ [input])) :
    ∃ next, draft.addInput tree tree.imports source targets input = .ok next := by
  unfold Draft.addInput
  cases anchored : anchorCall? tree tree.imports input.signature input.callees with
  | none => exact ⟨draft, rfl⟩
  | some anchor =>
      cases made : callPoint? targets input.rendered anchor with
      | none =>
          refine ⟨draft.addModule source input, ?_⟩
          simp only [made]
          rfl
      | some point =>
          have new : IsRequested targets tree (done ++ [input]) point :=
            isRequested_append.mpr (Or.inr ((isRequested_singleton anchored).mpr made))
          simp only [made]
          refine (draft.addModule source input).addCallPoint_ok ?_
          intro known member sameCall
          rw [addModule_callPoints, collects.requests] at member
          exact calm known point (isRequested_append.mpr (Or.inl member)) new sameCall

/-- Inputs are gone through to the end exactly when no two requests differ.  The induction runs over
the inputs; `done` are those in front. -/
theorem Draft.Collects.foldlM_ok_iff (source : Block) (inputs : List PlanInput)
    (collects : draft.Collects targets tree done) :
    (∃ final, inputs.foldlM (Draft.addInput tree tree.imports source targets) draft = .ok final) ↔
      Harmonious targets tree (done ++ inputs) := by
  constructor
  · rintro ⟨final, folded⟩ point other first second sameCall
    have whole : final.Collects targets tree (done ++ inputs) :=
      Sequencing.foldlM_accounts (fun _ _ _ _ holds added => Collects.addInput holds added)
        inputs done draft final collects folded
    rw [whole.eq_of_same_anchor first second sameCall]
    exact InjectionPoint.agrees_iff.mpr ⟨rfl, rfl, rfl⟩
  · intro calm
    induction inputs generalizing done draft with
    | nil => exact ⟨draft, rfl⟩
    | cons input inputs ih =>
        have split : done ++ input :: inputs = (done ++ [input]) ++ inputs := by
          rw [List.append_assoc, List.singleton_append]
        rw [split] at calm
        have soFar : Harmonious targets tree (done ++ [input]) := by
          intro point other first second
          exact calm point other (isRequested_append.mpr (Or.inl first))
            (isRequested_append.mpr (Or.inl second))
        obtain ⟨next, added⟩ := collects.addInput_ok source soFar
        obtain ⟨final, rest⟩ := ih (collects.addInput added) calm
        refine ⟨final, ?_⟩
        rw [List.foldlM_cons, added]
        exact rest

theorem planFile_conflict_eq_none (targets : List Target) (path : String) (tree : SyntaxTree)
    (inputs : List PlanInput) :
    (planFile targets path tree inputs).conflict = none ↔ Harmonious targets tree inputs := by
  have opening : (Draft.start tree.imports).Collects targets tree [] := .start
  have calm := opening.foldlM_ok_iff (Block.ofText tree.source) inputs
  rw [List.nil_append] at calm
  rw [← calm]
  simp only [planFile]
  cases folded : inputs.foldlM
      (Draft.addInput tree tree.imports (Block.ofText tree.source) targets)
      (Draft.start tree.imports) with
  | error conflict => simp [EditPlan.conflicted]
  | ok draft => simp [EditPlan.ofPoints]

/-- Requests differ exactly when the candidates that make them clash. -/
theorem not_harmonious_iff :
    ¬ Harmonious targets tree inputs ↔
      ∃ left ∈ inputs, ∃ right ∈ inputs, left.Clashes targets tree right := by
  have differ (left right : PlanInput) (leftCall rightCall : Call) (leftRule rightRule : CallSiteRule) :
      ¬ (left.request leftCall leftRule).agrees (right.request rightCall rightRule) = true ↔
        (left.pattern.id ≠ right.pattern.id ∨ leftRule.keyword ≠ rightRule.keyword ∨
          leftRule.mode ≠ rightRule.mode ∨ trimmed leftRule.value ≠ trimmed rightRule.value) := by
    rw [InjectionPoint.agrees_iff]
    simp only [PlanInput.request, EditKind.argument.injEq, not_and_or, ne_eq, or_assoc]
    rfl
  constructor
  · intro loud
    by_contra quiet
    refine loud ?_
    rintro _ _ ⟨left, leftMember, leftCall, leftRule, leftCandidate, rfl⟩
      ⟨right, rightMember, rightCall, rightRule, rightCandidate, rfl⟩ sameCall
    by_contra disagreed
    exact quiet ⟨left, leftMember, right, rightMember, leftCall, leftRule, rightCall, rightRule,
      leftCandidate, rightCandidate, sameCall, (differ ..).mp disagreed⟩
  · rintro ⟨left, leftMember, right, rightMember, leftCall, leftRule, rightCall, rightRule,
      leftCandidate, rightCandidate, sameCall, different⟩ calm
    refine (differ left right leftCall rightCall leftRule rightRule).mpr different ?_
    exact calm _ _ ⟨left, leftMember, leftCall, leftRule, leftCandidate, rfl⟩
      ⟨right, rightMember, rightCall, rightRule, rightCandidate, rfl⟩ sameCall

def InjectionPoint.isCallSite (point : InjectionPoint) : Bool :=
  match point.kind with
  | .argument _ _ => true
  | _ => false

theorem InjectionPoint.tag_of_isCallSite (callSite : point.isCallSite = true) :
    point.kind.tag = "add_or_merge_argument" := by
  unfold isCallSite at callSite
  split at callSite
  · rename_i kind
    rw [kind]
    rfl
  · cases callSite

/-- Conflicts are detected exactly: a plan is refused if and only if two candidates want different
things of one call.  A refused plan has no points, an accepted one has at most one call-site point for
a node, and the order of the inputs does not decide between them. -/
theorem planFile_conflict_iff (targets : List Target) (path : String) (tree : SyntaxTree)
    (inputs : List PlanInput) :
    ((planFile targets path tree inputs).conflict.isSome = true ↔
        ∃ left ∈ inputs, ∃ right ∈ inputs, left.Clashes targets tree right) ∧
      ((planFile targets path tree inputs).conflict.isSome = true →
        (planFile targets path tree inputs).points = []) ∧
      ((planFile targets path tree inputs).conflict = none →
        (((planFile targets path tree inputs).points.filter InjectionPoint.isCallSite).map
          InjectionPoint.anchor).Nodup) ∧
      ∀ others, others.Perm inputs →
        (planFile targets path tree others).conflict.isSome =
          (planFile targets path tree inputs).conflict.isSome := by
  have refused (inputs : List PlanInput) :
      (planFile targets path tree inputs).conflict.isSome = true ↔
        ∃ left ∈ inputs, ∃ right ∈ inputs, left.Clashes targets tree right := by
    rw [← not_harmonious_iff, ← planFile_conflict_eq_none, Option.isSome_iff_ne_none]
  refine ⟨refused inputs, ?_, ?_, ?_⟩
  · intro conflict
    simp only [planFile] at conflict ⊢
    split at conflict
    · rfl
    · cases conflict
  · intro clear
    have distinct := (planFile_points clear).1
    rw [List.nodup_iff_pairwise_ne, List.pairwise_map] at distinct ⊢
    refine (distinct.filter _).imp_of_mem ?_
    intro left right leftMember rightMember unlike sameCall
    have leftTag := InjectionPoint.tag_of_isCallSite (List.mem_filter.mp leftMember).2
    have rightTag := InjectionPoint.tag_of_isCallSite (List.mem_filter.mp rightMember).2
    exact unlike (Prod.ext sameCall (leftTag.trans rightTag.symm))
  · intro others shuffled
    rw [Bool.eq_iff_iff, refused others, refused inputs]
    simp only [shuffled.mem_iff]

end AgentProbe
