import AgentProbe.Proofs.Plan.Completeness

set_option autoImplicit false

/-!
Planning an edited file again, once its edits are read as they were meant.

The first plan leaves nothing out: every name that is asked for is imported by the file or by an added
line, and every argument in scope is carried by the anchor call or added to it.  An edited file that
has the imports of both and whose anchor calls show their arguments is therefore asked for code at
most.
-/

namespace AgentProbe

open Syntax (SyntaxTree Call)

/-! ### What the first plan adds -/

theorem EditPlan.exists_number (first : Nat) {points : List InjectionPoint} {point : InjectionPoint}
    (member : point ∈ points) :
    ∃ numbered ∈ number first points, numbered.anchor = point.anchor ∧ numbered.kind = point.kind ∧
      numbered.payload = point.payload := by
  have same := map_number (fun point => (point.anchor, point.kind, point.payload)) (fun _ _ => rfl)
    first points
  obtain ⟨numbered, present, fields⟩ :=
    List.mem_map.mp (same ▸ List.mem_map.mpr ⟨point, member, rfl⟩)
  simp only [Prod.mk.injEq] at fields
  exact ⟨numbered, present, fields⟩

/-- The names that a plan was asked to import are imported by the file or by the lines of its import
point.  These lines stand on lines of their own in the edited file, if the plan put them at the top of
the module or behind a statement that ends its line. -/
theorem planFile_importLines {targets : List Target} {path : String} {tree : SyntaxTree}
    {inputs : List PlanInput} (clear : (planFile targets path tree inputs).conflict = none) :
    ∃ lines, EditPlan.payloads .insertImport (planFile targets path tree inputs).points =
        (if lines.isEmpty then [] else ["\n".intercalate lines]) ∧
      (∀ asked ∈ wantedLines tree inputs, ∀ keys, lineKeys? asked = some keys →
        ∀ key ∈ keys, key ∈ tree.topKeys ∨ key ∈ boundKeys lines) ∧
      ∀ injection, inject tree (planFile targets path tree inputs) = .ok injection →
        ∀ point ∈ (planFile targets path tree inputs).points, point.kind = .insertImport →
        ∀ edit, point.edit tree = .ok edit →
        (point.anchor.path.isEmpty = true ∨ restOfLine tree.source edit.start = []) →
        (planFile targets path tree inputs).LeavesAlone tree edit.start →
        ∀ line ∈ lines, Text.OnOwnLines line.toList injection.text := by
  obtain ⟨draft, _, same, accounts⟩ := planFile_accounts clear
  have payloads : EditPlan.payloads .insertImport (planFile targets path tree inputs).points =
      (if draft.importLines.isEmpty then [] else ["\n".intercalate draft.importLines]) := by
    rw [same]
    exact (accounts.calls.payloads_ofPoints path).1
  refine ⟨draft.importLines, payloads,
    fun asked listed keys read key => accounts.imports.provides listed read, ?_⟩
  intro injection injected point planned kind edit made placed alone line member
  have stands := planFile_onOwnLines clear injected planned (Or.inl kind) made placed alone
  have inner : Text.OnOwnLines line.toList ("\n".intercalate draft.importLines).toList :=
    onOwnLines_intercalate rfl rfl member
  have payload := EditPlan.mem_payloads planned kind
  rw [payloads, if_neg (by rw [List.isEmpty_iff]; exact List.ne_nil_of_mem member)] at payload
  rw [List.mem_singleton.mp payload] at stands
  exact inner.trans stands

/-! ### What the edited file shows -/

/-- A call shows an argument as it is written into it: under its keyword, and in a list as one of the
elements. -/
def Syntax.Call.Shows (call : Call) (keyword : String) (mode : MergeMode) (value : String) : Prop :=
  ∃ argument, (call.arguments.find? fun argument => argument.keyword == some keyword) =
      some argument ∧
    (mode = .list → ∃ elements, argument.listElements = some elements ∧ value ∈ elements)

theorem carries_of_shows {call : Call} {rule : CallSiteRule}
    (shown : call.Shows rule.keyword rule.mode (trimmed rule.value)) :
    carries call rule = true := by
  obtain ⟨argument, found, listed⟩ := shown
  unfold carries
  rw [found]
  cases mode : rule.mode with
  | value => rfl
  | list =>
      obtain ⟨elements, read, member⟩ := listed mode
      dsimp only
      rw [read]
      refine List.any_eq_true.mpr ⟨_, member, beq_iff_eq.mpr ?_⟩
      exact compacted_trimmed rule.value

/-- An edited file is read as its edits were meant.  It has the imports of the file and of the added
lines; and an anchor call in it was one before, carries what it carried, and shows what was added. -/
structure ReadsBack (plan : EditPlan) (lines : List String) (inputs : List PlanInput)
    (tree again : SyntaxTree) : Prop where
  kept : ∀ key ∈ tree.topKeys, key ∈ again.topKeys
  added : ∀ key ∈ boundKeys lines, key ∈ again.topKeys
  calls : ∀ input ∈ inputs, ∀ call, input.anchor? again = some call →
    ∃ anchor, input.anchor? tree = some anchor ∧
      (∀ rule, carries anchor rule = true → carries call rule = true) ∧
      ∀ point ∈ plan.points, point.anchor = anchor.node → ∀ keyword mode,
        point.kind = .argument keyword mode → call.Shows keyword mode point.payload

namespace ReadsBack

variable {targets : List Target} {tree again : SyntaxTree} {inputs : List PlanInput}
  {plan : EditPlan} {draft : Draft} {input : PlanInput} {call : Call}

theorem hasImport (reads : ReadsBack plan draft.importLines inputs tree again)
    (imports : draft.Imports tree (wantedLines tree inputs)) {line : String}
    (asked : line ∈ wantedLines tree inputs) (clean : (lineKeys? line).isSome = true)
    (earlier : List String) : HasImport again earlier line := by
  obtain ⟨keys, read⟩ := Option.isSome_iff_exists.mp clean
  rw [HasImport, read]
  intro key among
  exact (imports.provides asked read among).elim (reads.kept key) (reads.added key)

/-- The anchor call carries what is asked for: it did before, or a point of the plan added it. -/
theorem carries_rule {path : String}
    (reads : ReadsBack (EditPlan.ofPoints path (draft.points tree)) draft.importLines inputs tree
      again)
    (collects : draft.Collects targets tree inputs) (member : input ∈ inputs)
    (anchored : input.anchor? again = some call) {rule : CallSiteRule}
    (asked : input.rendered.callSite = some rule) (inScope : rule.appliesTo targets = true) :
    carries call rule = true := by
  obtain ⟨anchor, found, carried, shown⟩ := reads.calls input member call anchored
  cases had : carries anchor rule with
  | true => exact carried rule had
  | false =>
      have requested : input.request anchor rule ∈ draft.callPoints :=
        (collects.requests _).mpr
          ⟨input, member, anchor, rule, ⟨found, asked, inScope, had⟩, rfl⟩
      have atCall : input.request anchor rule ∈ draft.points tree :=
        List.mem_append_right _ ((List.mergeSort_perm draft.callPoints _).mem_iff.mpr requested)
      obtain ⟨point, planned, place, kind, payload⟩ := EditPlan.exists_number 0 atCall
      have there := shown point planned place _ _ kind
      rw [payload] at there
      exact carries_of_shows there

end ReadsBack

/-- An edited file that is read as its edits were meant is asked for nothing but code: the second plan
is empty exactly when the code of every input with an anchor call is found. -/
theorem planFile_again_of_readsBack {targets : List Target} {path : String} {tree : SyntaxTree}
    {inputs : List PlanInput} (clear : (planFile targets path tree inputs).conflict = none)
    (clean : ∀ line ∈ wantedLines tree inputs, (lineKeys? line).isSome = true) :
    ∃ lines, EditPlan.payloads .insertImport (planFile targets path tree inputs).points =
        (if lines.isEmpty then [] else ["\n".intercalate lines]) ∧
      ∀ again, ReadsBack (planFile targets path tree inputs) lines inputs tree again →
        (((planFile targets path again inputs).conflict = none ∧
            (planFile targets path again inputs).points = []) ↔
          ∀ input ∈ inputs, ∀ call, input.anchor? again = some call →
            ∀ code, input.rendered.initCode = some code →
              (Block.ofText code.toList).isEmpty = true ∨
                (Block.ofText again.source).contains (Block.ofText code.toList) = true) := by
  obtain ⟨draft, _, same, accounts⟩ := planFile_accounts clear
  refine ⟨draft.importLines, ?_, ?_⟩
  · rw [same]
    exact (accounts.calls.payloads_ofPoints path).1
  · intro again reads
    rw [planFile_eq_nil_iff]
    constructor
    · intro complete input member call anchored
      obtain ⟨before, after, split⟩ := List.append_of_mem member
      exact (complete before input after call split anchored).code
    · intro code before input after call split anchored
      have member : input ∈ inputs := split ▸ List.mem_append_right before List.mem_cons_self
      refine ⟨?_, code input member call anchored, ?_⟩
      · intro front line back own
        have asked : line ∈ wantedLines tree inputs := by
          obtain ⟨anchor, found, _⟩ := reads.calls input member call anchored
          refine List.mem_flatMap.mpr ⟨input, member, ?_⟩
          rw [found, own]
          exact List.mem_append_right front List.mem_cons_self
        exact reads.hasImport accounts.imports asked (clean line asked) _
      · intro rule asked inScope
        rw [same] at reads
        exact reads.carries_rule accounts.calls member anchored asked inScope

end AgentProbe
