import AgentProbe.Proofs.Plan.Spans

set_option autoImplicit false

/-!
Whether module-level code stands before its first use.

A plan puts its code behind the leading statements of the module, wherever they are, and attaches an
argument to a call.  Nothing compares the two places: the code comes first exactly if the leading
statements do.
-/

namespace AgentProbe

open Syntax (SyntaxTree Node)

namespace Syntax.SyntaxTree

variable {tree : SyntaxTree}

theorem IsAnchor.stop_le {before after : List Node} {node statement : Node}
    (anchor : tree.IsAnchor before node after) (nested : tree.root.isNested = true)
    (member : statement ∈ tree.leading) : statement.stop ≤ node.stop := by
  have siblings := Node.areNested_children nested
  rw [anchor.split] at siblings
  obtain ⟨ahead, forward, _⟩ := Node.areNested_around siblings
  rcases anchor.last statement member with early | same
  · exact (ahead statement early).trans forward
  · rw [same]

theorem WellPlaced.call_filled (placed : tree.WellPlaced) (grammatical : tree.Grammatical)
    {call : Node} (under : call.Under tree.root) (isCall : call.kind = .call) :
    call.start < call.stop := by
  obtain ⟨list, listed, _⟩ := grammatical.call_arguments under isCall
  have member := Node.mem_children_of_child? listed
  have room := Node.isEnclosed_room (placed.nested_under (under.child member))
    (placed.enclosed under listed)
  obtain ⟨starts, _, stops⟩ := Node.isNested_child (placed.nested_under under) member
  omega

end Syntax.SyntaxTree

/-- Statements of a plan go in front of a call exactly if all leading statements end in front of it. -/
theorem InjectionPoint.start_le_call_iff {tree : SyntaxTree} {point : InjectionPoint}
    {edit : TextEdit} {call : Node} (placed : tree.WellPlaced) (grammatical : tree.Grammatical)
    (made : point.edit tree = .ok edit)
    (kind : point.kind = .insertImport ∨ point.kind = .insertAfter)
    (anchored : point.anchor = tree.importAnchor) (under : call.Under tree.root)
    (isCall : call.kind = .call) :
    edit.start ≤ call.start ↔ ∀ statement ∈ tree.leading, statement.stop ≤ call.start := by
  rcases place_of_statement made kind anchored with
    ⟨leads, place⟩ | ⟨before, node, after, anchor, place⟩
  · have first := placed.moduleStart_le grammatical.1 under isCall
    rw [place, leads]
    exact ⟨fun _ _ member => absurd member List.not_mem_nil, fun _ => first⟩
  · rw [place]
    constructor
    · intro ahead statement member
      have last := anchor.stop_le placed.nested member
      have onward := le_endOfLine tree.source node.stop
      omega
    · intro ended
      rcases placed.call_beside grammatical.1 under isCall anchor with early | late
      · -- A call that ends no later than the anchor cannot start behind it.
        have filled := placed.call_filled grammatical under isCall
        have behind := ended node anchor.leads
        omega
      · exact late

/-- Where a plan without a conflict has both code for the module and an argument for a call, the code
is inserted, in front of the call or behind it.  It is in front exactly if all leading statements end
in front of the call. -/
theorem planFile_code_precedes_iff {targets : List Target} {path : String} {tree : SyntaxTree}
    {inputs : List PlanInput} {code use : InjectionPoint} {keyword : String} {mode : MergeMode}
    (placed : tree.WellPlaced) (grammatical : tree.Grammatical)
    (clear : (planFile targets path tree inputs).conflict = none)
    (codePlanned : code ∈ (planFile targets path tree inputs).points)
    (isCode : code.kind = .insertAfter)
    (usePlanned : use ∈ (planFile targets path tree inputs).points)
    (isUse : use.kind = .argument keyword mode) :
    ∃ edit call, code.edit tree = .ok edit ∧ tree.resolve use.anchor = some call ∧
      edit.start = edit.stop ∧ edit.Outside call ∧
      (edit.start ≤ call.start ↔ ∀ statement ∈ tree.leading, statement.stop ≤ call.start) := by
  have places := (planFile_points clear).2
  have anchored : code.anchor = tree.importAnchor := by
    rcases places code codePlanned with forCall | ⟨anchored, _⟩
    · obtain ⟨_, _, _, _, _, argument⟩ := forCall
      rw [isCode] at argument
      cases argument
    · exact anchored
  have useFor : use.IsForCall tree := by
    rcases places use usePlanned with forCall | ⟨_, statement⟩
    · exact forCall
    · rw [isUse] at statement
      simp at statement
  rcases InjectionPoint.edit_of_planned grammatical (places code codePlanned) with
    ⟨⟨_, _, _, _, argument, _⟩, _⟩ | ⟨_, edit, made⟩
  · rw [isCode] at argument
    cases argument
  · obtain ⟨call, _, _, found, isCall, _, _⟩ := useFor.reached
    have under : call.Under tree.root := ⟨use.anchor.path, found⟩
    exact ⟨edit, call, made, found, code.insertion_of_statement made (Or.inr isCode),
      code.outside_of_statement made (Or.inr isCode) anchored placed grammatical.1 under isCall,
      code.start_le_call_iff placed grammatical made (Or.inr isCode) anchored under isCall⟩

/-- A file without imports or a docstring at the top level; a string stands behind a comment at its
end. -/
def closingString : SyntaxTree :=
  SyntaxTree.parse "if 1:\n  from a import A\nA(n=1)\n# c\n's'\n".toList

def hookInput : PlanInput :=
  { framework := "a", version := "*", platform := "langfuse"
    signature := { name := "a", packages := [], modules := ["a"], anchors := ["A"] }
    pattern := { id := "p", initCode := some "h = 1"
                 callSite := some { keyword := "t", value := "h" } } }

def hookCode : InjectionPoint :=
  { anchor := ⟨"expression_statement", [3]⟩, kind := .insertAfter, payload := "h = 1"
    patternId := "p", line := 5 }

def hookUse : InjectionPoint :=
  { id := 1, anchor := ⟨"call", [1, 0]⟩, kind := .argument "t" .list, payload := "h"
    patternId := "p", line := 3 }

theorem planFile_code_precedes_iff_closing :
    closingString.hasErrors = false ∧ closingString.WellPlaced ∧ closingString.Grammatical ∧
      (planFile [] "agent.py" closingString [hookInput]).conflict = none ∧
      (planFile [] "agent.py" closingString [hookInput]).points = [hookCode, hookUse] ∧
      ∃ edit call, hookCode.edit closingString = .ok edit ∧
        closingString.resolve hookUse.anchor = some call ∧ call.stop ≤ edit.start := by
  have placed : closingString.WellPlaced :=
    SyntaxTree.wellPlaced_of_adjacent (by decide +kernel) (by decide +kernel) (by decide +kernel)
  have grammatical : closingString.Grammatical := by decide +kernel
  have clear : (planFile [] "agent.py" closingString [hookInput]).conflict = none := by
    decide +kernel
  have points : (planFile [] "agent.py" closingString [hookInput]).points = [hookCode, hookUse] := by
    decide +kernel
  have late : ((closingString.resolve hookUse.anchor).all fun call =>
      closingString.leading.any fun statement => decide (call.start < statement.stop)) = true := by
    decide +kernel
  refine ⟨by decide +kernel, placed, grammatical, clear, points, ?_⟩
  obtain ⟨edit, call, made, found, inserts, outside, early⟩ :=
    planFile_code_precedes_iff placed grammatical clear (by rw [points]; exact List.mem_cons_self)
      (rfl : hookCode.kind = .insertAfter)
      (by rw [points]; exact List.mem_cons_of_mem _ List.mem_cons_self)
      (rfl : hookUse.kind = .argument "t" .list)
  refine ⟨edit, call, made, found, ?_⟩
  rw [found, Option.all_some, List.any_eq_true] at late
  obtain ⟨statement, member, behind⟩ := late
  have notEarly : ¬ edit.start ≤ call.start := by
    intro ahead
    exact absurd (early.mp ahead statement member) (Nat.not_le.mpr (of_decide_eq_true behind))
  rcases outside with before | after
  · exact absurd (inserts ▸ before) notEarly
  · exact after

end AgentProbe
