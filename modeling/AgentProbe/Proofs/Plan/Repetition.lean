import AgentProbe.Proofs.Plan.Insertion
import AgentProbe.Proofs.Plan.Satisfaction

set_option autoImplicit false

/-!
Planning a file again.

The second plan is empty exactly when the edited file has everything that the inputs ask for.  Whether
it has depends on how the edits were laid out: code that was put on lines of its own is found again,
but code that the rest of a line follows is not.
-/

namespace AgentProbe

open Syntax (SyntaxTree Call)

/-! ### Code that was inserted -/

namespace Draft

variable {tree : SyntaxTree} {draft next final : Draft} {source : Block} {targets : List Target}
  {input : PlanInput}

/-- The code of a draft is kept as its block and its text without trailing blanks. -/
def Sourced (draft : Draft) : Prop :=
  ∀ pair ∈ draft.initBlocks, ∃ code : String,
    pair.1.text = (Block.ofText code.toList).text ∧ pair.2.toList = Text.trimEnd code.toList

theorem Sourced.addInit (sourced : draft.Sourced) (pattern : Pattern) :
    (draft.addInit source pattern).Sourced := by
  unfold Sourced
  rcases draft.addInit_cases source pattern with ⟨same, _⟩ | ⟨code, _, _, same⟩
  · rw [same]
    exact sourced
  · rw [same]
    intro pair member
    rcases List.mem_append.mp member with known | last
    · exact sourced pair known
    · rw [List.mem_singleton.mp last]
      exact ⟨code, rfl, by rw [String.toList_ofList]⟩

theorem addInit_subset (pattern : Pattern) {pair : Block × String}
    (member : pair ∈ draft.initBlocks) : pair ∈ (draft.addInit source pattern).initBlocks := by
  rcases draft.addInit_cases source pattern with ⟨same, _⟩ | ⟨code, _, _, same⟩
  · rw [same]
    exact member
  · rw [same]
    exact List.mem_append_left _ member

theorem addInit_covers {pattern : Pattern} {code : String} (asked : pattern.initCode = some code) :
    (draft.addInit source pattern).Covers source (Block.ofText code.toList) := by
  unfold Covers
  rcases draft.addInit_cases source pattern with ⟨same, covers⟩ | ⟨other, found, _, same⟩
  · rw [same]
    exact covers code asked
  · rw [asked] at found
    cases found
    rw [same]
    exact Or.inr (Or.inr ⟨_, List.mem_append_right _ (List.mem_singleton.mpr rfl), rfl⟩)

/-- What an input does to the code of a draft. -/
theorem addInput_code
    (added : draft.addInput tree tree.imports source targets input = .ok next) :
    (input.anchor? tree = none ∧ next.initBlocks = draft.initBlocks) ∨
      next.initBlocks =
        ((draft.addImports input.rendered).addInit source input.rendered).initBlocks := by
  rcases addInput_eq_ok added with ⟨missing, rfl⟩ | ⟨_, _, ⟨_, rfl⟩ | ⟨_, _, pushed⟩⟩
  · exact Or.inl ⟨missing, rfl⟩
  · exact Or.inr rfl
  · rcases addCallPoint_eq_ok pushed with ⟨_, rfl⟩ | ⟨_, _, _, _, rfl⟩
    · exact Or.inr rfl
    · exact Or.inr rfl

theorem Sourced.addInput (sourced : draft.Sourced)
    (added : draft.addInput tree tree.imports source targets input = .ok next) : next.Sourced := by
  unfold Sourced
  rcases addInput_code added with ⟨_, same⟩ | same
  · rw [same]
    exact sourced
  · rw [same]
    refine Sourced.addInit ?_ input.rendered
    unfold Sourced
    rw [addImports_initBlocks]
    exact sourced

theorem addInput_subset
    (added : draft.addInput tree tree.imports source targets input = .ok next)
    {pair : Block × String} (member : pair ∈ draft.initBlocks) : pair ∈ next.initBlocks := by
  rcases addInput_code added with ⟨_, same⟩ | same
  · rw [same]
    exact member
  · rw [same]
    exact addInit_subset input.rendered (by rw [addImports_initBlocks]; exact member)

theorem addInput_covers {anchor : Call} {code : String}
    (added : draft.addInput tree tree.imports source targets input = .ok next)
    (anchored : input.anchor? tree = some anchor) (asked : input.rendered.initCode = some code) :
    next.Covers source (Block.ofText code.toList) := by
  rcases addInput_code added with ⟨missing, _⟩ | same
  · rw [missing] at anchored
    cases anchored
  · unfold Covers
    rw [same]
    exact addInit_covers asked

/-- At the end, the code of every input with an anchor is covered. -/
theorem foldlM_covers {inputs : List PlanInput} {anchor : Call} {code : String}
    (folded : inputs.foldlM (addInput tree tree.imports source targets) draft = .ok final)
    (member : input ∈ inputs) (anchored : input.anchor? tree = some anchor)
    (asked : input.rendered.initCode = some code) :
    final.Covers source (Block.ofText code.toList) := by
  induction inputs generalizing draft with
  | nil => cases member
  | cons head inputs ih =>
      rw [List.foldlM_cons] at folded
      obtain ⟨next, added, rest⟩ := Sequencing.bind_eq_ok.mp folded
      rcases List.mem_cons.mp member with rfl | later
      · rcases addInput_covers added anchored asked with empty | found | ⟨pair, known, same⟩
        · exact Or.inl empty
        · exact Or.inr (Or.inl found)
        · have kept := Sequencing.foldlM_preserves
            (fun _ _ _ (holds : pair ∈ _) step => addInput_subset step holds) inputs next final known
            rest
          exact Or.inr (Or.inr ⟨pair, kept, same⟩)
      · exact ih rest later

theorem payload_of_insertAfter {point : InjectionPoint} (consistent : draft.Consistent tree)
    (member : point ∈ draft.points tree) (kind : point.kind = .insertAfter) :
    point.payload = "\n\n".intercalate (draft.initBlocks.map Prod.snd) := by
  rcases List.mem_append.mp member with atModule | sorted
  · unfold modulePoints at atModule
    rcases List.mem_append.mp atModule with imports | code
    · split at imports
      · cases imports
      · rw [List.mem_singleton.mp imports] at kind
        cases kind
    · split at code
      · cases code
      · rw [List.mem_singleton.mp code]
  · obtain ⟨_, _, _, _, _, argument⟩ := consistent.forCalls point
      ((List.mergeSort_perm draft.callPoints _).mem_iff.mp sorted)
    rw [argument] at kind
    cases kind

end Draft

/-- Code that a plan put on lines of its own is found again. -/
theorem contains_of_onOwnLines {targets : List Target} {path : String} {tree : SyntaxTree}
    {inputs : List PlanInput} (clear : (planFile targets path tree inputs).conflict = none)
    {point : InjectionPoint} (planned : point ∈ (planFile targets path tree inputs).points)
    (kind : point.kind = .insertAfter) {text : Text}
    (stands : Text.OnOwnLines point.payload.toList text) {input : PlanInput}
    (member : input ∈ inputs) {anchor : Call} (anchored : input.anchor? tree = some anchor)
    {code : String} (asked : input.rendered.initCode = some code) :
    (Block.ofText code.toList).isEmpty = true ∨
      (Block.ofText tree.source).contains (Block.ofText code.toList) = true ∨
      (Block.ofText text).contains (Block.ofText code.toList) = true := by
  obtain ⟨draft, folded, same, consistent⟩ := planFile_consistent clear
  have sourced : draft.Sourced := Sequencing.foldlM_preserves
    (fun _ _ _ holds added => Draft.Sourced.addInput holds added) inputs _ draft
    (fun _ none => absurd none List.not_mem_nil) folded
  rw [same] at planned
  obtain ⟨original, present, renumbered⟩ := EditPlan.mem_number planned
  rw [renumbered] at kind stands
  have payload := Draft.payload_of_insertAfter consistent present kind
  rcases Draft.foldlM_covers folded member anchored asked with
    empty | found | ⟨pair, known, sameBlock⟩
  · exact Or.inl empty
  · exact Or.inr (Or.inl found)
  · cases filled : (Block.ofText code.toList).isEmpty with
    | true => exact Or.inl rfl
    | false =>
        obtain ⟨other, block, trimmed⟩ := sourced pair known
        have listed : pair.2 ∈ draft.initBlocks.map Prod.snd := List.mem_map.mpr ⟨pair, known, rfl⟩
        have inner : Text.OnOwnLines pair.2.toList
            ("\n\n".intercalate (draft.initBlocks.map Prod.snd)).toList :=
          onOwnLines_intercalate rfl rfl listed
        rw [← payload, trimmed] at inner
        exact Or.inr (Or.inr ((inner.trans stands).contains (sameBlock.symm.trans block) filled))

/-- Planning an edited file again gives an empty plan exactly when the file now has everything that
the inputs ask for.  It has the code that the first plan put at the top of the module or behind a
statement that ends its line; behind any other statement the code is followed by the rest of that
line and may not be recognised. -/
theorem planFile_again {targets : List Target} {path : String} {tree : SyntaxTree}
    {inputs : List PlanInput} {injection : Injection}
    (clear : (planFile targets path tree inputs).conflict = none)
    (injected : inject tree (planFile targets path tree inputs) = .ok injection) :
    (((planFile targets path (SyntaxTree.parse injection.text) inputs).conflict = none ∧
          (planFile targets path (SyntaxTree.parse injection.text) inputs).points = []) ↔
        Complete targets (SyntaxTree.parse injection.text) [] inputs) ∧
      ∀ point ∈ (planFile targets path tree inputs).points, point.kind = .insertAfter →
        ∀ edit, point.edit tree = .ok edit →
          point.anchor.path.isEmpty = true ∨ restOfLine tree.source edit.start = [] →
          (planFile targets path tree inputs).LeavesAlone tree edit.start →
          ∀ input ∈ inputs, ∀ anchor, input.anchor? tree = some anchor →
            ∀ code, input.rendered.initCode = some code →
              (Block.ofText code.toList).isEmpty = true ∨
                (Block.ofText tree.source).contains (Block.ofText code.toList) = true ∨
                (Block.ofText injection.text).contains (Block.ofText code.toList) = true := by
  refine ⟨planFile_eq_nil_iff, ?_⟩
  intro point planned kind edit made placed alone input member anchor anchored code asked
  have stands := planFile_onOwnLines clear injected planned (Or.inr kind) made placed alone
  exact contains_of_onOwnLines clear planned kind stands member anchored asked

/-- A file in which another statement follows the import of the framework on its line. -/
def semicolonTree : SyntaxTree :=
  SyntaxTree.parse "from agents import Agent; x = 1\na = Agent(name=1)\n".toList

def semicolonText : Text :=
  "from agents import Agent\n\nsetup(); x = 1\na = Agent(name=1)\n".toList

def setupInput : PlanInput :=
  { framework := "openai-agents", version := "*", platform := "langfuse"
    signature := { name := "openai-agents", packages := [], modules := ["agents"]
                   anchors := ["Agent"] }
    pattern := { id := "p", initCode := some "setup()" } }

theorem planFile_again_semicolon :
    (planFile [] "agent.py" semicolonTree [setupInput]).conflict = none ∧
      ∃ injection,
        inject semicolonTree (planFile [] "agent.py" semicolonTree [setupInput]) = .ok injection ∧
        injection.text = semicolonText ∧
        ¬ Complete [] (SyntaxTree.parse injection.text) [] [setupInput] := by
  have clear : (planFile [] "agent.py" semicolonTree [setupInput]).conflict = none := by
    decide +kernel
  have made : editsFor semicolonTree (planFile [] "agent.py" semicolonTree [setupInput]) =
      .ok [.insert 0 24 "\n\nsetup()".toList 1] :=
    Sequencing.eq_ok_of_toOption (by decide +kernel)
  have applied : applyEdits semicolonTree.source [.insert 0 24 "\n\nsetup()".toList 1] =
      .ok semicolonText :=
    Sequencing.eq_ok_of_toOption (by decide +kernel)
  have again :
      (planFile [] "agent.py" (SyntaxTree.parse semicolonText) [setupInput]).points ≠ [] := by
    decide +kernel
  obtain ⟨injection, injected, written⟩ := inject_of_applied made applied
  refine ⟨clear, injection, injected, written, ?_⟩
  intro complete
  obtain ⟨_, empty⟩ := (planFile_again clear injected).1.mpr complete
  rw [written] at empty
  exact again empty

end AgentProbe
