import AgentProbe.Proofs.Plan.Completeness
import AgentProbe.Proofs.Plan.LineRuns
import AgentProbe.Proofs.Plan.Targeting

set_option autoImplicit false

/-!
Code that is planned at once, and code that is planned one input at a time.

A plan looks for the code of an input in the file as a block of lines, but compares it with the blocks
of the same plan as a whole.  When the inputs are planned one after another, each against the file with
the code that was planned so far, every block is looked for in the same way.  Then blocks can only fall
away: those that the file and the blocks in front of them contain together.
-/

namespace AgentProbe

open Syntax (SyntaxTree)

/-! ### A text with code behind it -/

def Text.followedBy (text : Text) (pieces : List String) : Text :=
  pieces.foldl (fun text piece => text ++ '\n' :: piece.toList) text

theorem Text.followedBy_append (text : Text) (first second : List String) :
    followedBy text (first ++ second) = followedBy (followedBy text first) second :=
  List.foldl_append

namespace Block

theorem keptLines_followedBy (text : Text) (pieces : List String) :
    keptLines (text.followedBy pieces) =
      keptLines text ++ pieces.flatMap fun piece => keptLines piece.toList := by
  induction pieces generalizing text with
  | nil => exact (List.append_nil _).symm
  | cons piece pieces ih =>
      have later := ih (text ++ '\n' :: piece.toList)
      rw [keptLines_append, List.append_assoc] at later
      exact later

/-- What a text contains, it contains with code behind it. -/
theorem contains_followedBy {text : Text} {block : Block} (pieces : List String)
    (found : (ofText text).contains block = true) :
    (ofText (text.followedBy pieces)).contains block = true := by
  obtain ⟨filled, front, middle, back, split, same⟩ := contains_iff_keptLines.mp found
  refine contains_iff_keptLines.mpr
    ⟨filled, front, middle, back ++ pieces.flatMap fun piece => keptLines piece.toList, ?_, same⟩
  rw [keptLines_followedBy, split, List.append_assoc, List.append_assoc]

/-- A text contains what a piece of code behind it contains. -/
theorem contains_of_mem {text : Text} {pieces : List String} {piece : String} {block : Block}
    (member : piece ∈ pieces) (found : (ofText piece.toList).contains block = true) :
    (ofText (text.followedBy pieces)).contains block = true := by
  obtain ⟨filled, front, middle, back, split, same⟩ := contains_iff_keptLines.mp found
  obtain ⟨before, after, rfl⟩ := List.append_of_mem member
  refine contains_iff_keptLines.mpr
    ⟨filled, keptLines (text.followedBy before) ++ front, middle,
      back ++ after.flatMap fun piece => keptLines piece.toList, ?_, same⟩
  rw [Text.followedBy_append, keptLines_followedBy, List.flatMap_cons, split]
  simp only [List.append_assoc]

theorem contains_self {code : Text} (filled : (ofText code).isEmpty = false) :
    (ofText code).contains (ofText code) = true := by
  refine contains_iff_keptLines.mpr ⟨filled, [], keptLines code, [], ?_, (ofText_text code).symm⟩
  rw [List.nil_append, List.append_nil]

theorem ofText_trimmed (code : String) :
    ofText (String.ofList (Text.trimEnd code.toList)).toList = ofText code.toList := by
  rw [String.toList_ofList, ofText_trimEnd]

end Block

/-! ### The code of plans -/

def PlanInput.code? (tree : SyntaxTree) (input : PlanInput) : Option String :=
  (input.anchor? tree).bind fun _ => input.rendered.initCode

/-- The blocks of code that are planned for a file and some inputs, if code is looked for in a text. -/
def plannedCode (targets : List Target) (tree : SyntaxTree) (text : Text)
    (inputs : List PlanInput) : List String :=
  match inputs.foldlM (Draft.addInput tree tree.imports (Block.ofText text) targets)
      (Draft.start tree.imports) with
  | .error _ => []
  | .ok draft => draft.initBlocks.map Prod.snd

/-- The blocks of code that are planned when the inputs are planned one at a time, each against the
text with the code that was planned so far behind it. -/
def stepwiseCode (targets : List Target) (tree : SyntaxTree) (text : Text) :
    List PlanInput → List String
  | [] => []
  | input :: inputs =>
    let code := plannedCode targets tree text [input]
    code ++ stepwiseCode targets tree (text.followedBy code) inputs

/-- No block is contained in the text and the blocks in front of it. -/
def EachNew (text : Text) (blocks : List String) : Prop :=
  ∀ before code after, blocks = before ++ code :: after →
    (Block.ofText (text.followedBy before)).contains (Block.ofText code.toList) = false

theorem eachNew_concat {text : Text} {blocks : List String} {code : String} :
    EachNew text (blocks ++ [code]) ↔
      EachNew text blocks ∧
        (Block.ofText (text.followedBy blocks)).contains (Block.ofText code.toList) = false := by
  constructor
  · intro whole
    refine ⟨?_, whole blocks code [] rfl⟩
    intro before other after split
    exact whole before other (after ++ [code]) (by rw [split, List.append_assoc, List.cons_append])
  · rintro ⟨earlier, last⟩ before other after split
    rcases List.eq_nil_or_concat after with rfl | ⟨middle, final, rfl⟩
    · obtain ⟨same, sameCode⟩ := List.append_inj' split rfl
      cases sameCode
      rw [← same]
      exact last
    · rw [List.concat_eq_append, ← List.cons_append, ← List.append_assoc] at split
      exact earlier before other middle (List.append_inj' split rfl).1

theorem EachNew.pairwise {text : Text} {blocks : List String} (new : EachNew text blocks) :
    blocks.Pairwise fun earlier later =>
      (Block.ofText earlier.toList).contains (Block.ofText later.toList) = false := by
  refine List.pairwise_iff_forall_sublist.mpr ?_
  intro earlier later pair
  obtain ⟨front, back, rfl, here, there⟩ := List.cons_sublist_iff.mp pair
  obtain ⟨before, after, rfl⟩ := List.append_of_mem (List.singleton_sublist.mp there)
  have absent := new (front ++ before) later after (by rw [List.append_assoc])
  refine Bool.eq_false_iff.mpr ?_
  intro inside
  rw [Block.contains_of_mem (List.mem_append_left before here) inside] at absent
  cases absent

/-! ### One input -/

namespace Draft

variable {targets : List Target} {tree : SyntaxTree} {source : Block} {draft next : Draft}
  {input : PlanInput} {steps : List String} {text : Text}

/-- All that an input can do to the code of a draft. -/
theorem addInput_initBlocks
    (added : draft.addInput tree tree.imports source targets input = .ok next) :
    (next.initBlocks = draft.initBlocks ∧ ∀ code, input.code? tree = some code →
        draft.Covers source (Block.ofText code.toList)) ∨
      ∃ code, input.code? tree = some code ∧ ¬ draft.Covers source (Block.ofText code.toList) ∧
        next.initBlocks = draft.initBlocks ++
          [(Block.ofText code.toList, String.ofList (Text.trimEnd code.toList))] := by
  unfold PlanInput.code?
  cases anchored : input.anchor? tree with
  | none =>
      rcases addInput_eq_ok added with ⟨_, rfl⟩ | ⟨anchor, found, _⟩
      · exact Or.inl ⟨rfl, fun code impossible => by cases impossible⟩
      · rw [PlanInput.anchor?, found] at anchored
        cases anchored
  | some anchor =>
      rcases addInput_code added with ⟨nowhere, _⟩ | blocks
      · rw [anchored] at nowhere
        cases nowhere
      · rw [blocks]
        simpa only [Option.bind_some, Covers, addImports_initBlocks] using
          (draft.addImports input.rendered).addInit_cases source input.rendered

theorem addInput_start_ok (targets : List Target) (tree : SyntaxTree) (source : Block)
    (input : PlanInput) :
    ∃ next, (start tree.imports).addInput tree tree.imports source targets input = .ok next := by
  unfold addInput
  cases anchorCall? tree tree.imports input.signature input.callees with
  | none => exact ⟨_, rfl⟩
  | some anchor =>
      dsimp only
      cases callPoint? targets input.rendered anchor with
      | none => exact ⟨_, rfl⟩
      | some point =>
          exact ⟨_, addCallPoint_of_nil ((start tree.imports).addModule_callPoints source input) point⟩

end Draft

/-- A single input gets its code planned unless the text contains it. -/
theorem plannedCode_singleton (targets : List Target) (tree : SyntaxTree) (text : Text)
    (input : PlanInput) :
    (plannedCode targets tree text [input] = [] ∧ ∀ code, input.code? tree = some code →
        (Block.ofText code.toList).isEmpty = true ∨
          (Block.ofText text).contains (Block.ofText code.toList) = true) ∨
      ∃ code, input.code? tree = some code ∧ (Block.ofText code.toList).isEmpty = false ∧
        (Block.ofText text).contains (Block.ofText code.toList) = false ∧
        plannedCode targets tree text [input] = [String.ofList (Text.trimEnd code.toList)] := by
  obtain ⟨next, added⟩ := Draft.addInput_start_ok targets tree (Block.ofText text) input
  have planned : plannedCode targets tree text [input] = next.initBlocks.map Prod.snd := by
    unfold plannedCode
    rw [List.foldlM_cons, added]
    rfl
  have covers (block : Block) : (Draft.start tree.imports).Covers (Block.ofText text) block ↔
      block.isEmpty = true ∨ (Block.ofText text).contains block = true := by
    simp [Draft.Covers, Draft.start]
  rw [planned]
  rcases Draft.addInput_initBlocks added with ⟨same, covered⟩ | ⟨code, asked, uncovered, longer⟩
  · exact Or.inl ⟨by rw [same]; rfl, fun code asked => (covers _).mp (covered code asked)⟩
  · rw [covers, not_or, Bool.not_eq_true, Bool.not_eq_true] at uncovered
    exact Or.inr ⟨code, asked, uncovered.1, uncovered.2, by rw [longer]; rfl⟩

theorem stepwiseCode_concat (targets : List Target) (tree : SyntaxTree) (text : Text)
    (inputs : List PlanInput) (input : PlanInput) :
    stepwiseCode targets tree text (inputs ++ [input]) =
      stepwiseCode targets tree text inputs ++
        plannedCode targets tree (text.followedBy (stepwiseCode targets tree text inputs))
          [input] := by
  induction inputs generalizing text with
  | nil => exact List.append_nil _
  | cons head inputs ih =>
      simp only [List.cons_append, stepwiseCode, ih, Text.followedBy_append, List.append_assoc]

/-! ### Both ways side by side -/

namespace Draft

variable {targets : List Target} {tree : SyntaxTree} {draft next : Draft} {input : PlanInput}
  {steps : List String} {text : Text}

structure Matches (text : Text) (steps : List String) (draft : Draft) : Prop where
  sublist : steps.Sublist (draft.initBlocks.map Prod.snd)
  found : ∀ pair ∈ draft.initBlocks,
    (Block.ofText (text.followedBy steps)).contains pair.1 = true
  agrees : steps = draft.initBlocks.map Prod.snd ↔ EachNew text (draft.initBlocks.map Prod.snd)

theorem Matches.start : (Draft.start tree.imports).Matches text [] := by
  refine ⟨List.Sublist.refl [], ?_, iff_of_true rfl ?_⟩
  · intro pair impossible
    cases impossible
  · intro before code after split
    exact absurd split.symm (List.append_ne_nil_of_right_ne_nil before (List.cons_ne_nil code after))

theorem Matches.covered (matched : draft.Matches text steps) {block : Block}
    (covers : draft.Covers (Block.ofText text) block) :
    block.isEmpty = true ∨ (Block.ofText (text.followedBy steps)).contains block = true := by
  rcases covers with empty | inText | ⟨pair, member, same⟩
  · exact Or.inl empty
  · exact Or.inr (Block.contains_followedBy steps inText)
  · rw [← Block.contains_congr same]
    exact Or.inr (matched.found pair member)

/-- The draft gets a block that the steps leave out. -/
theorem Matches.leaveOut (matched : draft.Matches text steps) {code : String}
    (present : (Block.ofText (text.followedBy steps)).contains (Block.ofText code.toList) = true)
    (longer : next.initBlocks = draft.initBlocks ++
      [(Block.ofText code.toList, String.ofList (Text.trimEnd code.toList))]) :
    next.Matches text steps := by
  refine ⟨?_, ?_, ?_⟩
  · rw [longer, List.map_append]
    exact matched.sublist.trans (List.sublist_append_left _ _)
  · rw [longer]
    refine List.forall_mem_append.mpr ⟨matched.found, ?_⟩
    rintro pair (_ | ⟨_, ⟨⟩⟩)
    exact present
  · rw [longer, List.map_append, List.map_singleton, eachNew_concat,
      Block.ofText_trimmed]
    -- The steps have fewer blocks, and the last block of the draft is not new.
    refine iff_of_false ?_ ?_
    · intro same
      have shorter := matched.sublist.length_le
      rw [same, List.length_append, List.length_singleton] at shorter
      omega
    · rintro ⟨new, absent⟩
      rw [← matched.agrees.mpr new, present] at absent
      cases absent

/-- The draft and the steps get the same block. -/
theorem Matches.addBoth (matched : draft.Matches text steps) {code : String}
    (filled : (Block.ofText code.toList).isEmpty = false)
    (absent : (Block.ofText (text.followedBy steps)).contains (Block.ofText code.toList) = false)
    (longer : next.initBlocks = draft.initBlocks ++
      [(Block.ofText code.toList, String.ofList (Text.trimEnd code.toList))]) :
    next.Matches text (steps ++ [String.ofList (Text.trimEnd code.toList)]) := by
  refine ⟨?_, ?_, ?_⟩
  · rw [longer, List.map_append]
    exact matched.sublist.append (List.Sublist.refl _)
  · rw [longer]
    refine List.forall_mem_append.mpr ⟨?_, ?_⟩
    · intro pair member
      rw [Text.followedBy_append]
      exact Block.contains_followedBy _ (matched.found pair member)
    · rintro pair (_ | ⟨_, ⟨⟩⟩)
      refine Block.contains_of_mem (List.mem_append_right steps (List.mem_singleton.mpr rfl)) ?_
      rw [Block.ofText_trimmed]
      exact Block.contains_self filled
  · rw [longer, List.map_append, List.map_singleton, eachNew_concat,
      Block.ofText_trimmed, List.append_cancel_right_eq]
    constructor
    · intro same
      refine ⟨matched.agrees.mp same, ?_⟩
      rw [← same]
      exact absent
    · rintro ⟨new, _⟩
      exact matched.agrees.mpr new

theorem Matches.congr (matched : draft.Matches text steps)
    (same : next.initBlocks = draft.initBlocks) : next.Matches text steps := by
  obtain ⟨sublist, found, agrees⟩ := matched
  exact ⟨by rwa [same], by rwa [same], by rwa [same]⟩

/-- One input, planned with the others and planned alone. -/
theorem Matches.addInput (matched : draft.Matches text steps)
    (added : draft.addInput tree tree.imports (Block.ofText text) targets input = .ok next) :
    next.Matches text
      (steps ++ plannedCode targets tree (text.followedBy steps) [input]) := by
  rcases addInput_initBlocks added with ⟨same, covered⟩ | ⟨code, asked, uncovered, longer⟩
  · rcases plannedCode_singleton targets tree (text.followedBy steps) input with
      ⟨none, _⟩ | ⟨code, asked, filled, absent, _⟩
    · rw [none, List.append_nil]
      exact matched.congr same
    · rcases matched.covered (covered code asked) with empty | present
      · rw [filled] at empty
        cases empty
      · rw [absent] at present
        cases present
  · rcases plannedCode_singleton targets tree (text.followedBy steps) input with
      ⟨none, present⟩ | ⟨other, again, filled, absent, one⟩
    · rw [none, List.append_nil]
      rcases present code asked with empty | inside
      · exact absurd (Or.inl empty) uncovered
      · exact matched.leaveOut inside longer
    · rw [asked] at again
      cases again
      rw [one]
      exact matched.addBoth filled absent longer

end Draft

/-! ### Plans -/

/-- The code point of a plan joins the blocks that are planned against the text of the file. -/
theorem payloads_plannedCode {targets : List Target} {path : String} {tree : SyntaxTree}
    {inputs : List PlanInput} (clear : (planFile targets path tree inputs).conflict = none) :
    EditPlan.payloads .insertAfter (planFile targets path tree inputs).points =
      if (plannedCode targets tree tree.source inputs).isEmpty then []
      else ["\n\n".intercalate (plannedCode targets tree tree.source inputs)] := by
  obtain ⟨draft, folded, same, consistent⟩ := planFile_consistent clear
  have calls : EditPlan.payloads .insertAfter
      (draft.callPoints.mergeSort fun left right => left.line ≤ right.line) = [] := by
    refine EditPlan.payloads_eq_nil ?_
    intro point member kind
    obtain ⟨_, _, _, _, _, argument⟩ := consistent.forCalls point
      ((List.mergeSort_perm draft.callPoints _).mem_iff.mp member)
    rw [argument] at kind
    cases kind
  have planned : plannedCode targets tree tree.source inputs = draft.initBlocks.map Prod.snd := by
    unfold plannedCode
    rw [folded]
  rw [same, planned, EditPlan.ofPoints, EditPlan.payloads_number, Draft.points,
    EditPlan.payloads_append, calls, List.append_nil, (draft.payloads_modulePoints _ _).2,
    List.isEmpty_map]

/-- Planning at once keeps every block of code that planning one input at a time keeps, in the same
order.  The two agree exactly when no block is contained in the file and the blocks in front of it; then
no block is contained in an earlier one.  Either way the file gets all that is asked for: with the code
of the single steps behind it, it contains every block of the plan. -/
theorem planFile_stepwise {targets : List Target} {path : String} {tree : SyntaxTree}
    {inputs : List PlanInput} (clear : (planFile targets path tree inputs).conflict = none) :
    EditPlan.payloads .insertAfter (planFile targets path tree inputs).points =
        (if (plannedCode targets tree tree.source inputs).isEmpty then []
          else ["\n\n".intercalate (plannedCode targets tree tree.source inputs)]) ∧
      (stepwiseCode targets tree tree.source inputs).Sublist
        (plannedCode targets tree tree.source inputs) ∧
      (stepwiseCode targets tree tree.source inputs = plannedCode targets tree tree.source inputs ↔
        EachNew tree.source (plannedCode targets tree tree.source inputs)) ∧
      (stepwiseCode targets tree tree.source inputs = plannedCode targets tree tree.source inputs →
        (plannedCode targets tree tree.source inputs).Pairwise fun earlier later =>
          (Block.ofText earlier.toList).contains (Block.ofText later.toList) = false) ∧
      ∀ code ∈ plannedCode targets tree tree.source inputs,
        (Block.ofText (tree.source.followedBy
          (stepwiseCode targets tree tree.source inputs))).contains
            (Block.ofText code.toList) = true := by
  obtain ⟨draft, folded, _⟩ := planFile_eq_ofPoints clear
  have planned : plannedCode targets tree tree.source inputs = draft.initBlocks.map Prod.snd := by
    unfold plannedCode
    rw [folded]
  have step : ∀ done draft input next,
      Draft.Matches tree.source (stepwiseCode targets tree tree.source done) draft →
      draft.addInput tree tree.imports (Block.ofText tree.source) targets input = .ok next →
        next.Matches tree.source (stepwiseCode targets tree tree.source (done ++ [input])) := by
    intro done draft input next holds added
    rw [stepwiseCode_concat]
    exact holds.addInput added
  have matched := Sequencing.foldlM_accounts step inputs [] _ draft .start folded
  have sourced : draft.Sourced := Sequencing.foldlM_preserves
    (fun _ _ _ holds added => Draft.Sourced.addInput holds added) inputs _ draft
    (fun _ none => absurd none List.not_mem_nil) folded
  rw [planned]
  refine ⟨?_, matched.sublist, matched.agrees, fun same => (matched.agrees.mp same).pairwise, ?_⟩
  · rw [← planned]
    exact payloads_plannedCode clear
  · intro code member
    obtain ⟨pair, present, rfl⟩ := List.mem_map.mp member
    obtain ⟨whole, block, trimmed⟩ := sourced pair present
    rw [trimmed, Block.ofText_trimEnd, ← Block.contains_congr block]
    exact matched.found pair present

def codeInput (id code : String) : PlanInput :=
  { setupInput with pattern := { id, initCode := some code } }

/-- Two patterns that share a first line: one plan opens twice, plans for one at a time open once. -/
theorem planFile_stepwise_shared :
    (planFile [] "agent.py" agentTree
        [codeInput "p" "open()\nuse()", codeInput "q" "open()"]).conflict = none ∧
      stepwiseCode [] agentTree agentTree.source
          [codeInput "p" "open()\nuse()", codeInput "q" "open()"] ≠
        plannedCode [] agentTree agentTree.source
          [codeInput "p" "open()\nuse()", codeInput "q" "open()"] := by
  have clear : (planFile [] "agent.py" agentTree
      [codeInput "p" "open()\nuse()", codeInput "q" "open()"]).conflict = none := by
    decide +kernel
  have contained : ¬ (plannedCode [] agentTree agentTree.source
      [codeInput "p" "open()\nuse()", codeInput "q" "open()"]).Pairwise fun earlier later =>
      (Block.ofText earlier.toList).contains (Block.ofText later.toList) = false := by
    decide +kernel
  refine ⟨clear, ?_⟩
  intro same
  exact contained ((planFile_stepwise clear).2.2.2.1 same)

end AgentProbe
