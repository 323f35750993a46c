import AgentProbe.Proofs.Plan.Draft

set_option autoImplicit false

/-!
When a file has everything that it is asked for.

A plan without points means that every input with an anchor call found all that it asks for: its
imports, its code and its argument.  That is also enough: inputs that find everything cannot get into
each other's way.
-/

namespace AgentProbe

open Syntax (SyntaxTree Call)

/-! ### What an input asks for -/

def PlanInput.anchor? (tree : SyntaxTree) (input : PlanInput) : Option Call :=
  anchorCall? tree tree.imports input.signature input.callees

def PlanInput.lines (input : PlanInput) : List String :=
  (input.rendered.imports.map trimmed).filter fun line => !line.isEmpty

def wantedLines (tree : SyntaxTree) (inputs : List PlanInput) : List String :=
  inputs.flatMap fun input =>
    match input.anchor? tree with
    | some _ => input.lines
    | none => []

/-- A file has an import line: every name that the line imports is imported at the top level, or, if
it is no clean import, its text stands there or is that of an earlier line. -/
def HasImport (tree : SyntaxTree) (earlier : List String) (line : String) : Prop :=
  match lineKeys? line with
  | some keys => ∀ key ∈ keys, key ∈ (Draft.start tree.imports).keys
  | none =>
    compacted line ∈ (Draft.start tree.imports).texts ∨ compacted line ∈ earlier.map compacted

structure PlanInput.Finds (targets : List Target) (tree : SyntaxTree) (earlier : List String)
    (input : PlanInput) (anchor : Call) : Prop where
  imports : ∀ before line after, input.lines = before ++ line :: after →
    HasImport tree (earlier ++ before) line
  code : ∀ code, input.rendered.initCode = some code →
    (Block.ofText code.toList).isEmpty = true ∨
      (Block.ofText tree.source).contains (Block.ofText code.toList) = true
  argument : ∀ rule, input.rendered.callSite = some rule → rule.appliesTo targets = true →
    carries anchor rule = true

/-- A file has everything that some inputs, one after another, ask for. -/
def Complete (targets : List Target) (tree : SyntaxTree) (earlier : List String)
    (inputs : List PlanInput) : Prop :=
  ∀ before input after anchor, inputs = before ++ input :: after →
    input.anchor? tree = some anchor →
      input.Finds targets tree (earlier ++ wantedLines tree before) anchor

namespace Draft

structure Quiet (draft : Draft) : Prop where
  imports : draft.importLines = []
  code : draft.initBlocks = []
  calls : draft.callPoints = []

structure Knows (tree : SyntaxTree) (earlier : List String) (draft : Draft) : Prop where
  keys : ∀ key, key ∈ draft.keys ↔ key ∈ (start tree.imports).keys
  texts : ∀ text, text ∈ draft.texts ↔
    text ∈ (start tree.imports).texts ∨ text ∈ earlier.map compacted

/-! ### Imports -/

variable {tree : SyntaxTree} {earlier : List String} {draft : Draft} {id line : String}

def lacks (draft : Draft) (line : String) : Bool :=
  match lineKeys? line with
  | some keys => keys.any fun key => !draft.keys.contains key
  | none => !draft.texts.contains (compacted line)

theorem addImport_importLines (draft : Draft) (id line : String) :
    (draft.addImport id line).importLines =
      if draft.lacks line then draft.importLines ++ [line] else draft.importLines := by
  unfold addImport lacks
  cases lineKeys? line <;> (dsimp only; split <;> rfl)

theorem lacks_eq_false (knows : draft.Knows tree earlier) :
    draft.lacks line = false ↔ HasImport tree earlier line := by
  unfold lacks HasImport
  cases lineKeys? line with
  | some keys => simp [List.any_eq_false, knows.keys]
  | none =>
      dsimp only
      rw [Bool.not_eq_false', List.contains_iff_mem, knows.texts]

theorem addImport_quiet (knows : draft.Knows tree earlier) :
    (draft.addImport id line).importLines = [] ↔
      draft.importLines = [] ∧ HasImport tree earlier line := by
  rw [addImport_importLines, ← lacks_eq_false knows]
  cases draft.lacks line <;> simp

theorem Knows.addImport (knows : draft.Knows tree earlier) (has : HasImport tree earlier line) :
    (draft.addImport id line).Knows tree (earlier ++ [line]) := by
  have parts : (draft.addImport id line).keys =
        (match lineKeys? line with
          | some keys => draft.keys ++ keys
          | none => draft.keys) ∧
      (draft.addImport id line).texts = draft.texts ++ [compacted line] := by
    unfold Draft.addImport
    cases lineKeys? line <;> (dsimp only; split <;> exact ⟨rfl, rfl⟩)
  constructor
  · intro key
    rw [parts.1]
    unfold HasImport at has
    cases read : lineKeys? line with
    | some keys =>
        rw [read] at has
        dsimp only
        rw [List.mem_append, knows.keys]
        constructor
        · rintro (known | new)
          · exact known
          · exact has key new
        · exact Or.inl
    | none => exact knows.keys key
  · intro text
    rw [parts.2, List.mem_append, knows.texts, List.map_append, List.mem_append, or_assoc]
    rfl

theorem foldl_importLines_ne_nil (id : String) (lines : List String) (added : draft.importLines ≠ []) :
    (lines.foldl (addImport id) draft).importLines ≠ [] := by
  induction lines generalizing draft with
  | nil => exact added
  | cons line lines ih =>
      refine ih ?_
      rw [addImport_importLines]
      split
      · simp
      · exact added

/-- The lines of a pattern are all there exactly when none of them is added. -/
theorem foldl_addImport (id : String) (lines : List String) (knows : draft.Knows tree earlier) :
    ((lines.foldl (addImport id) draft).importLines = [] ↔
        draft.importLines = [] ∧ ∀ before line after, lines = before ++ line :: after →
          HasImport tree (earlier ++ before) line) ∧
      ((lines.foldl (addImport id) draft).importLines = [] →
        (lines.foldl (addImport id) draft).Knows tree (earlier ++ lines)) := by
  induction lines generalizing draft earlier with
  | nil =>
      refine ⟨⟨fun none => ⟨none, ?_⟩, And.left⟩, ?_⟩
      · intro before line after split
        simp at split
      · intro _
        rw [List.append_nil]
        exact knows
  | cons line lines ih =>
      rw [List.foldl_cons]
      by_cases added : (draft.addImport id line).importLines = []
      · obtain ⟨none, has⟩ := (addImport_quiet knows).mp added
        obtain ⟨whole, knowing⟩ := ih (knows.addImport has)
        rw [List.append_assoc, List.singleton_append] at knowing
        refine ⟨?_, knowing⟩
        rw [whole]
        constructor
        · rintro ⟨_, rest⟩
          refine ⟨none, ?_⟩
          intro before other after split
          cases before with
          | nil =>
              cases split
              rw [List.append_nil]
              exact has
          | cons head before =>
              cases split
              have later := rest before other after rfl
              rwa [List.append_assoc, List.singleton_append] at later
        · rintro ⟨_, every⟩
          refine ⟨added, ?_⟩
          intro before other after split
          rw [List.append_assoc, List.singleton_append]
          exact every (line :: before) other after (by rw [split]; rfl)
      · -- A line that was added stays, so the draft cannot end without lines.
        have stays := foldl_importLines_ne_nil id lines added
        refine ⟨⟨fun none => absurd none stays, ?_⟩, fun none => absurd none stays⟩
        rintro ⟨none, every⟩
        have has := every [] line lines rfl
        rw [List.append_nil] at has
        exact absurd ((addImport_quiet knows).mpr ⟨none, has⟩) added

/-! ### Code and arguments -/

variable {source : Block} {targets : List Target} {input : PlanInput} {next : Draft}

@[simp] theorem addInit_importLines (draft : Draft) (source : Block) (pattern : Pattern) :
    (draft.addInit source pattern).importLines = draft.importLines := by
  unfold addInit
  split
  · rfl
  · simp only
    split <;> rfl

/-- A block is empty, in the file, or in the draft. -/
def Covers (draft : Draft) (source block : Block) : Prop :=
  block.isEmpty = true ∨ source.contains block = true ∨
    ∃ pair ∈ draft.initBlocks, pair.1.text = block.text

theorem addInit_cases (draft : Draft) (source : Block) (pattern : Pattern) :
    ((draft.addInit source pattern).initBlocks = draft.initBlocks ∧
        ∀ code, pattern.initCode = some code → draft.Covers source (Block.ofText code.toList)) ∨
      ∃ code, pattern.initCode = some code ∧ ¬ draft.Covers source (Block.ofText code.toList) ∧
        (draft.addInit source pattern).initBlocks = draft.initBlocks ++
          [(Block.ofText code.toList, String.ofList (Text.trimEnd code.toList))] := by
  unfold addInit
  cases asked : pattern.initCode with
  | none => exact Or.inl ⟨rfl, fun code impossible => by cases impossible⟩
  | some code =>
      have test : ((Block.ofText code.toList).isEmpty || source.contains (Block.ofText code.toList)
            || draft.initBlocks.any fun known => known.1.text == (Block.ofText code.toList).text) =
          true ↔ draft.Covers source (Block.ofText code.toList) := by
        simp [Covers, or_assoc]
      dsimp only
      split
      · rename_i present
        refine Or.inl ⟨rfl, ?_⟩
        intro other same
        cases same
        exact test.mp present
      · rename_i absent
        exact Or.inr ⟨code, rfl, fun covers => absent (test.mpr covers), rfl⟩

theorem addInit_initBlocks (draft : Draft) (source : Block) (pattern : Pattern) :
    (draft.addInit source pattern).initBlocks = [] ↔
      draft.initBlocks = [] ∧ ∀ code, pattern.initCode = some code →
        (Block.ofText code.toList).isEmpty = true ∨
          source.contains (Block.ofText code.toList) = true := by
  rcases draft.addInit_cases source pattern with ⟨same, covers⟩ | ⟨code, asked, missing, same⟩
  · rw [same]
    refine ⟨fun none => ⟨none, ?_⟩, And.left⟩
    intro code asked
    rcases covers code asked with empty | found | ⟨pair, member, _⟩
    · exact Or.inl empty
    · exact Or.inr found
    · rw [none] at member
      cases member
  · rw [same]
    constructor
    · intro none
      simp at none
    · rintro ⟨_, every⟩
      rcases every code asked with empty | found
      · exact absurd (Or.inl empty) missing
      · exact absurd (Or.inr (Or.inl found)) missing

theorem Knows.addInit (knows : draft.Knows tree earlier) (pattern : Pattern) :
    (draft.addInit source pattern).Knows tree earlier := by
  unfold Draft.addInit
  split
  · exact knows
  · simp only
    split
    · exact knows
    · exact ⟨knows.keys, knows.texts⟩

theorem callPoint?_eq_none {pattern : Pattern} {anchor : Call} :
    callPoint? targets pattern anchor = none ↔
      ∀ rule, pattern.callSite = some rule → rule.appliesTo targets = true →
        carries anchor rule = true := by
  unfold callPoint?
  cases asked : pattern.callSite with
  | none => simp
  | some rule => cases applies : rule.appliesTo targets <;> simp [applies]

/-! ### One input -/

/-- The module-level part of an input is quiet exactly when its imports and its code are there. -/
theorem addModule_quiet (knows : draft.Knows tree earlier) :
    (draft.addModule source input).Quiet ↔
      draft.Quiet ∧
        (∀ before line after, input.lines = before ++ line :: after →
          HasImport tree (earlier ++ before) line) ∧
        ∀ code, input.rendered.initCode = some code →
          (Block.ofText code.toList).isEmpty = true ∨
            source.contains (Block.ofText code.toList) = true := by
  have imports := (foldl_addImport input.rendered.id input.lines knows).1
  have same : (draft.addModule source input).importLines =
      (input.lines.foldl (addImport input.rendered.id) draft).importLines :=
    addInit_importLines _ source input.rendered
  rw [← same] at imports
  have blocks := addInit_initBlocks (draft.addImports input.rendered) source input.rendered
  rw [addImports_initBlocks] at blocks
  constructor
  · rintro ⟨noImports, noCode, noCalls⟩
    obtain ⟨noneBefore, lines⟩ := imports.mp noImports
    obtain ⟨noBlocks, code⟩ := blocks.mp noCode
    rw [addModule_callPoints] at noCalls
    exact ⟨⟨noneBefore, noBlocks, noCalls⟩, lines, code⟩
  · rintro ⟨quiet, lines, code⟩
    refine ⟨imports.mpr ⟨quiet.imports, lines⟩, blocks.mpr ⟨quiet.code, code⟩, ?_⟩
    rw [addModule_callPoints]
    exact quiet.calls

theorem Knows.addModule (knows : draft.Knows tree earlier)
    (quiet : (draft.addModule source input).Quiet) :
    (draft.addModule source input).Knows tree (earlier ++ input.lines) := by
  have noImports := quiet.imports
  rw [Draft.addModule, addInit_importLines] at noImports
  exact ((foldl_addImport input.rendered.id input.lines knows).2 noImports).addInit input.rendered

/-- A point that is added leaves no draft quiet. -/
theorem addCallPoint_not_quiet {point : InjectionPoint} (added : draft.addCallPoint point = .ok next) :
    ¬ next.Quiet := by
  intro quiet
  have none := quiet.calls
  rcases addCallPoint_eq_ok added with ⟨_, rfl⟩ | ⟨known, member, _, _, rfl⟩
  · simp at none
  · rw [none] at member
    cases member

theorem quiet_of_addInput
    (added : draft.addInput tree tree.imports source targets input = .ok next)
    (quiet : next.Quiet) : draft.Quiet := by
  rcases addInput_eq_ok added with ⟨_, rfl⟩ | ⟨_, _, ⟨_, rfl⟩ | ⟨_, _, pushed⟩⟩
  · exact quiet
  · obtain ⟨noImports, noCode, noCalls⟩ := quiet
    rw [addModule, addInit_importLines] at noImports
    have noBlocks := ((addInit_initBlocks _ source input.rendered).mp noCode).1
    rw [addImports_initBlocks] at noBlocks
    rw [addModule_callPoints] at noCalls
    refine ⟨?_, noBlocks, noCalls⟩
    by_cases none : draft.importLines = []
    · exact none
    · exact absurd noImports (foldl_importLines_ne_nil input.rendered.id input.lines none)
  · exact absurd quiet (addCallPoint_not_quiet pushed)

theorem quiet_of_foldlM {final : Draft} (inputs : List PlanInput)
    (folded : inputs.foldlM (addInput tree tree.imports source targets) draft = .ok final)
    (quiet : final.Quiet) : draft.Quiet := by
  induction inputs generalizing draft with
  | nil =>
      cases folded
      exact quiet
  | cons input inputs ih =>
      rw [List.foldlM_cons] at folded
      obtain ⟨next, added, rest⟩ := Sequencing.bind_eq_ok.mp folded
      exact quiet_of_addInput added (ih rest)

theorem addInput_of_finds (knows : draft.Knows tree earlier) (quiet : draft.Quiet)
    (finds : ∀ anchor, input.anchor? tree = some anchor →
      input.Finds targets tree earlier anchor) :
    ∃ next, draft.addInput tree tree.imports (Block.ofText tree.source) targets input = .ok next ∧
      next.Quiet := by
  unfold addInput
  cases anchored : anchorCall? tree tree.imports input.signature input.callees with
  | none => exact ⟨draft, rfl, quiet⟩
  | some anchor =>
      have found := finds anchor anchored
      have satisfied := callPoint?_eq_none.mpr found.argument
      refine ⟨draft.addModule (Block.ofText tree.source) input, ?_, ?_⟩
      · dsimp only
        rw [satisfied]
        rfl
      · exact (addModule_quiet knows).mpr ⟨quiet, found.imports, found.code⟩

theorem addInput_quiet (knows : draft.Knows tree earlier)
    (added : draft.addInput tree tree.imports (Block.ofText tree.source) targets input = .ok next)
    (quiet : next.Quiet) :
    (∀ anchor, input.anchor? tree = some anchor → input.Finds targets tree earlier anchor) ∧
      next.Knows tree (earlier ++ wantedLines tree [input]) := by
  rcases addInput_eq_ok added with ⟨missing, rfl⟩ | ⟨anchor, found, shape⟩
  · have none : wantedLines tree [input] = [] := by
      simp only [wantedLines, PlanInput.anchor?, missing, List.flatMap_singleton]
    refine ⟨?_, by rw [none, List.append_nil]; exact knows⟩
    intro anchor found
    rw [PlanInput.anchor?, missing] at found
    cases found
  · have lines : wantedLines tree [input] = input.lines := by
      simp only [wantedLines, PlanInput.anchor?, found, List.flatMap_singleton]
    rcases shape with ⟨satisfied, rfl⟩ | ⟨point, _, pushed⟩
    · obtain ⟨_, imports, code⟩ := (addModule_quiet knows).mp quiet
      refine ⟨?_, by rw [lines]; exact knows.addModule quiet⟩
      intro other same
      rw [PlanInput.anchor?, found] at same
      cases same
      exact ⟨imports, code, callPoint?_eq_none.mp satisfied⟩
    · exact absurd quiet (addCallPoint_not_quiet pushed)

/-! ### All inputs -/

/-- Inputs add nothing to a draft exactly when the file has everything they ask for.  The induction
runs over the inputs; `earlier` are the lines that the inputs in front asked for. -/
theorem foldlM_quiet_iff (inputs : List PlanInput) (knows : draft.Knows tree earlier)
    (quiet : draft.Quiet) :
    (∃ final, inputs.foldlM (addInput tree tree.imports (Block.ofText tree.source) targets) draft =
        .ok final ∧ final.Quiet) ↔ Complete targets tree earlier inputs := by
  induction inputs generalizing draft earlier with
  | nil =>
      refine ⟨fun _ => ?_, fun _ => ⟨draft, rfl, quiet⟩⟩
      intro before input after anchor split
      simp at split
  | cons input inputs ih =>
      have wanted (before : List PlanInput) :
          earlier ++ wantedLines tree (input :: before) =
            (earlier ++ wantedLines tree [input]) ++ wantedLines tree before := by
        simp only [wantedLines, List.flatMap_cons, List.flatMap_nil, List.append_nil,
          List.append_assoc]
      rw [List.foldlM_cons]
      constructor
      · rintro ⟨final, folded, quietEnd⟩
        obtain ⟨next, added, rest⟩ := Sequencing.bind_eq_ok.mp folded
        have between := quiet_of_foldlM inputs rest quietEnd
        obtain ⟨finds, knowing⟩ := addInput_quiet knows added between
        have complete := (ih knowing between).mp ⟨final, rest, quietEnd⟩
        intro before other after anchor split anchored
        cases before with
        | nil =>
            cases split
            have here := finds anchor anchored
            rwa [show earlier ++ wantedLines tree [] = earlier from List.append_nil earlier]
        | cons head before =>
            cases split
            rw [wanted]
            exact complete before other after anchor rfl anchored
      · intro complete
        obtain ⟨next, added, between⟩ := addInput_of_finds knows quiet fun anchor anchored => by
          have here := complete [] input inputs anchor rfl anchored
          rwa [show earlier ++ wantedLines tree [] = earlier from List.append_nil earlier] at here
        obtain ⟨_, knowing⟩ := addInput_quiet knows added between
        obtain ⟨final, rest, quietEnd⟩ := (ih knowing between).mpr fun before other after anchor
            split anchored => by
          rw [← wanted]
          exact complete (input :: before) other after anchor (by rw [split]; rfl) anchored
        exact ⟨final, Sequencing.bind_eq_ok.mpr ⟨next, added, rest⟩, quietEnd⟩

theorem points_eq_nil (tree : SyntaxTree) : draft.points tree = [] ↔ draft.Quiet := by
  have sorted : (draft.callPoints.mergeSort fun left right => left.line ≤ right.line) = [] ↔
      draft.callPoints = [] := by
    rw [← List.length_eq_zero_iff, List.length_mergeSort, List.length_eq_zero_iff]
  constructor
  · intro none
    simp only [points, modulePoints, List.append_eq_nil_iff, sorted] at none
    obtain ⟨⟨imports, code⟩, calls⟩ := none
    refine ⟨?_, ?_, calls⟩
    · by_cases empty : draft.importLines.isEmpty = true
      · exact List.isEmpty_iff.mp empty
      · rw [if_neg empty] at imports
        cases imports
    · by_cases empty : draft.initBlocks.isEmpty = true
      · exact List.isEmpty_iff.mp empty
      · rw [if_neg empty] at code
        cases code
  · rintro ⟨imports, code, calls⟩
    simp only [points, modulePoints, imports, code, List.isEmpty_nil, if_true, List.append_nil,
      List.nil_append, sorted]
    exact calls

end Draft

/-- A plan is free of conflicts and points exactly when the file has everything it is asked for. -/
theorem planFile_eq_nil_iff {targets : List Target} {path : String} {tree : SyntaxTree}
    {inputs : List PlanInput} :
    ((planFile targets path tree inputs).conflict = none ∧
        (planFile targets path tree inputs).points = []) ↔
      Complete targets tree [] inputs := by
  have knows : (Draft.start tree.imports).Knows tree [] :=
    ⟨fun _ => Iff.rfl, fun text => by simp⟩
  rw [← Draft.foldlM_quiet_iff inputs knows ⟨rfl, rfl, rfl⟩]
  simp only [planFile]
  cases folded : inputs.foldlM
      (Draft.addInput tree tree.imports (Block.ofText tree.source) targets)
      (Draft.start tree.imports) with
  | error conflict => simp [EditPlan.conflicted]
  | ok draft =>
      have numbered : EditPlan.number 0 (draft.points tree) = [] ↔ draft.points tree = [] := by
        cases draft.points tree <;> simp [EditPlan.number]
      simp only [EditPlan.ofPoints, numbered, true_and, Except.ok.injEq, exists_eq_left',
        Draft.points_eq_nil]

end AgentProbe
