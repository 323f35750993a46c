import AgentProbe.Plan.Planner
import AgentProbe.Proofs.Sequencing

set_option autoImplicit false

/-!
What a draft collects.

One input changes a draft in one of three ways: not at all, by imports and module-level code only, or
by a call-site point as well.  The lemmas here say which part of a draft each operation can change, so
that facts about a whole plan follow from one step.
-/

namespace AgentProbe

open Syntax (SyntaxTree Import Call NodeRef)

/-! ### Anchors -/

theorem anchorCall?_mem {tree : SyntaxTree} {imports : List Import} {signature : Signature}
    {callees : List String} {call : Call}
    (found : anchorCall? tree imports signature callees = some call) : call ∈ tree.allCalls := by
  simp only [anchorCall?] at found
  split at found
  · cases found
  · obtain ⟨callee, _, first⟩ := List.exists_of_findSome?_eq_some found
    have ranked := List.mem_of_mem_head? first
    have eligible := (List.mergeSort_perm _ _).mem_iff.mp ranked
    exact (List.mem_filter.mp (List.mem_filter.mp eligible).1).1

theorem callPoint?_eq_some {targets : List Target} {pattern : Pattern} {anchor : Call}
    {point : InjectionPoint} (made : callPoint? targets pattern anchor = some point) :
    ∃ rule, pattern.callSite = some rule ∧ rule.appliesTo targets = true ∧
      carries anchor rule = false ∧ point.anchor = anchor.node ∧
      point.kind = .argument rule.keyword rule.mode := by
  unfold callPoint? at made
  split at made
  · cases made
  · rename_i rule asked
    split at made
    · rename_i open_
      cases made
      simp only [Bool.and_eq_true, Bool.not_eq_true'] at open_
      exact ⟨rule, asked, open_.1, open_.2, rfl, rfl⟩
    · cases made

namespace Draft

/-! ### Parts that stay -/

theorem addImport_frame (id : String) (draft : Draft) (line : String) :
    (draft.addImport id line).initBlocks = draft.initBlocks ∧
      (draft.addImport id line).callPoints = draft.callPoints := by
  unfold addImport
  split
  split <;> exact ⟨rfl, rfl⟩

/-- Imports change neither the code nor the arguments of a draft. -/
theorem addImports_frame (draft : Draft) (pattern : Pattern) :
    (draft.addImports pattern).initBlocks = draft.initBlocks ∧
      (draft.addImports pattern).callPoints = draft.callPoints := by
  unfold addImports
  generalize (pattern.imports.map trimmed).filter (fun line => !line.isEmpty) = lines
  induction lines generalizing draft with
  | nil => exact ⟨rfl, rfl⟩
  | cons line lines ih =>
      obtain ⟨blocks, points⟩ := addImport_frame pattern.id draft line
      rw [List.foldl_cons, ← blocks, ← points]
      exact ih _

@[simp] theorem addImports_initBlocks (draft : Draft) (pattern : Pattern) :
    (draft.addImports pattern).initBlocks = draft.initBlocks :=
  (addImports_frame draft pattern).1

@[simp] theorem addImports_callPoints (draft : Draft) (pattern : Pattern) :
    (draft.addImports pattern).callPoints = draft.callPoints :=
  (addImports_frame draft pattern).2

@[simp] theorem addInit_callPoints (source : Block) (draft : Draft) (pattern : Pattern) :
    (draft.addInit source pattern).callPoints = draft.callPoints := by
  unfold addInit
  split
  · rfl
  · simp only
    split <;> rfl

/-! ### One input -/

def addModule (draft : Draft) (source : Block) (input : PlanInput) : Draft :=
  (draft.addImports input.rendered).addInit source input.rendered

@[simp] theorem addModule_callPoints (draft : Draft) (source : Block) (input : PlanInput) :
    (draft.addModule source input).callPoints = draft.callPoints := by
  simp only [addModule, addInit_callPoints, addImports_callPoints]

/-- All that one input can do to a draft. -/
theorem addInput_eq_ok {tree : SyntaxTree} {imports : List Import} {source : Block}
    {targets : List Target} {draft next : Draft} {input : PlanInput}
    (added : draft.addInput tree imports source targets input = .ok next) :
    (anchorCall? tree imports input.signature input.callees = none ∧ next = draft) ∨
      ∃ anchor, anchorCall? tree imports input.signature input.callees = some anchor ∧
        ((callPoint? targets input.rendered anchor = none ∧ next = draft.addModule source input) ∨
          ∃ point, callPoint? targets input.rendered anchor = some point ∧
            (draft.addModule source input).addCallPoint point = .ok next) := by
  unfold addInput at added
  cases anchored : anchorCall? tree imports input.signature input.callees with
  | none =>
      rw [anchored] at added
      cases added
      exact Or.inl ⟨rfl, rfl⟩
  | some anchor =>
      rw [anchored] at added
      refine Or.inr ⟨anchor, rfl, ?_⟩
      dsimp only at added
      cases made : callPoint? targets input.rendered anchor with
      | none =>
          rw [made] at added
          cases added
          exact Or.inl ⟨rfl, rfl⟩
      | some point =>
          rw [made] at added
          exact Or.inr ⟨point, rfl, added⟩

/-- A call-site point is added for a call that has none, or one that says the same is there. -/
theorem addCallPoint_eq_ok {draft next : Draft} {point : InjectionPoint}
    (added : draft.addCallPoint point = .ok next) :
    ((∀ known ∈ draft.callPoints, known.anchor ≠ point.anchor) ∧
        next = { draft with callPoints := draft.callPoints ++ [point] }) ∨
      ∃ known ∈ draft.callPoints, known.anchor = point.anchor ∧ known.agrees point = true ∧
        next = draft := by
  unfold addCallPoint at added
  cases found : draft.callPoints.find? fun known => known.anchor == point.anchor with
  | none =>
      rw [found] at added
      cases added
      refine Or.inl ⟨?_, rfl⟩
      intro known member same
      have missed := List.find?_eq_none.mp found known member
      rw [same, beq_self_eq_true] at missed
      exact missed rfl
  | some known =>
      rw [found] at added
      dsimp only at added
      split at added
      · rename_i agreed
        cases added
        have matched := List.find?_some found
        exact Or.inr ⟨known, List.mem_of_find?_eq_some found, eq_of_beq matched, agreed, rfl⟩
      · cases added

end Draft

/-! ### A whole plan -/

/-- What a plan without a conflict was made from. -/
theorem planFile_eq_ofPoints {targets : List Target} {path : String} {tree : SyntaxTree}
    {inputs : List PlanInput} (clear : (planFile targets path tree inputs).conflict = none) :
    ∃ draft,
      inputs.foldlM (Draft.addInput tree tree.imports (Block.ofText tree.source) targets)
          (Draft.start tree.imports) = .ok draft ∧
        planFile targets path tree inputs = EditPlan.ofPoints path (draft.points tree) := by
  simp only [planFile] at clear ⊢
  cases folded : inputs.foldlM
      (Draft.addInput tree tree.imports (Block.ofText tree.source) targets)
      (Draft.start tree.imports) with
  | error conflict =>
      rw [folded] at clear
      cases clear
  | ok draft => exact ⟨draft, rfl, rfl⟩

namespace EditPlan

theorem map_number {Key : Type} (key : InjectionPoint → Key)
    (blind : ∀ point id, key { point with id := id } = key point) (first : Nat)
    (points : List InjectionPoint) : (number first points).map key = points.map key := by
  induction points generalizing first with
  | nil => rfl
  | cons point points ih =>
      rw [number, List.map_cons, List.map_cons, blind, ih]

theorem mem_number {first : Nat} {points : List InjectionPoint} {point : InjectionPoint}
    (member : point ∈ number first points) :
    ∃ original ∈ points, point = { original with id := point.id } := by
  induction points generalizing first with
  | nil => cases member
  | cons head points ih =>
      rw [number] at member
      rcases List.mem_cons.mp member with rfl | later
      · exact ⟨head, List.mem_cons_self, rfl⟩
      · obtain ⟨original, present, same⟩ := ih later
        exact ⟨original, List.mem_cons_of_mem head present, same⟩

theorem map_id_number (first : Nat) (points : List InjectionPoint) :
    (number first points).map InjectionPoint.id = List.range' first points.length := by
  induction points generalizing first with
  | nil => rfl
  | cons point points ih =>
      rw [number, List.map_cons, ih, List.length_cons, List.range'_succ]

theorem length_number (first : Nat) (points : List InjectionPoint) :
    (number first points).length = points.length := by
  have same := congrArg List.length (map_id_number first points)
  rwa [List.length_map, List.length_range'] at same

theorem number_id_nodup (first : Nat) (points : List InjectionPoint) :
    ((number first points).map InjectionPoint.id).Nodup := by
  rw [map_id_number]
  exact List.nodup_range'

end EditPlan

end AgentProbe
