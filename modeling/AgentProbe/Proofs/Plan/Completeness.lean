import AgentProbe.Proofs.Plan.Candidates
import AgentProbe.Proofs.Plan.Repetition

set_option autoImplicit false

/-!
A plan without a conflict adds what is missing, all of it and nothing else.

The draft carries imports, code and call-site points from one input to the next.  For each of the three
there is an account of the inputs gone through so far: the imports it knows are those of the file and
of the lines it adds, every line adds a key, no block is added twice, and the call-site points are the
requests.  The accounts at the end of the inputs are then read off the points of the plan.
-/

namespace AgentProbe

open Syntax (SyntaxTree Call)

/-! ### Imports -/

def Syntax.SyntaxTree.topKeys (tree : SyntaxTree) : List ImportKey :=
  (tree.imports.filter fun entry => entry.topLevel).flatMap importKeys

def boundKeys (lines : List String) : List ImportKey :=
  lines.flatMap fun line => (lineKeys? line).getD []

theorem boundKeys_append (before after : List String) :
    boundKeys (before ++ after) = boundKeys before ++ boundKeys after :=
  List.flatMap_append

theorem boundKeys_singleton (line : String) : boundKeys [line] = (lineKeys? line).getD [] :=
  List.flatMap_singleton _ line

/-- Every clean import among some lines has a key that neither the file nor a line before it has. -/
def EachAdds (tree : SyntaxTree) (lines : List String) : Prop :=
  ∀ before line after keys, lines = before ++ line :: after → lineKeys? line = some keys →
    ∃ key ∈ keys, key ∉ tree.topKeys ∧ key ∉ boundKeys before

theorem EachAdds.concat {tree : SyntaxTree} {lines : List String} {line : String}
    (earlier : EachAdds tree lines)
    (adds : ∀ keys, lineKeys? line = some keys →
      ∃ key ∈ keys, key ∉ tree.topKeys ∧ key ∉ boundKeys lines) :
    EachAdds tree (lines ++ [line]) := by
  intro before other after keys split read
  rcases List.eq_nil_or_concat after with rfl | ⟨middle, last, rfl⟩
  · obtain ⟨same, sameLine⟩ := List.append_inj' split rfl
    cases sameLine
    rw [← same]
    exact adds keys read
  · rw [List.concat_eq_append, ← List.cons_append, ← List.append_assoc] at split
    exact earlier before other middle keys (List.append_inj' split rfl).1 read

namespace Draft

variable {targets : List Target} {tree : SyntaxTree} {source : Block} {done : List PlanInput}
  {seen : List String} {draft next : Draft} {input : PlanInput}

structure Imports (tree : SyntaxTree) (seen : List String) (draft : Draft) : Prop where
  keys : ∀ key, key ∈ draft.keys ↔ key ∈ tree.topKeys ∨ key ∈ boundKeys draft.importLines
  known : ∀ key ∈ boundKeys seen, key ∈ draft.keys
  sublist : draft.importLines.Sublist seen
  adds : EachAdds tree draft.importLines

/-- Every name that is asked for is imported by the file or by an added line. -/
theorem Imports.provides (imports : draft.Imports tree seen) {line : String} {keys : List ImportKey}
    (asked : line ∈ seen) (read : lineKeys? line = some keys) {key : ImportKey} (among : key ∈ keys) :
    key ∈ tree.topKeys ∨ key ∈ boundKeys draft.importLines := by
  refine (imports.keys key).mp (imports.known key (List.mem_flatMap.mpr ⟨line, asked, ?_⟩))
  rw [read]
  exact among

theorem Imports.start : (Draft.start tree.imports).Imports tree [] := by
  refine ⟨?_, ?_, List.Sublist.refl [], ?_⟩
  · intro key
    exact ⟨Or.inl, fun both => both.resolve_right List.not_mem_nil⟩
  · intro key impossible
    cases impossible
  · intro before line after keys split
    exact absurd split.symm (List.append_ne_nil_of_right_ne_nil before (List.cons_ne_nil line after))

theorem addImport_keys (draft : Draft) (id line : String) :
    (draft.addImport id line).keys = draft.keys ++ boundKeys [line] := by
  rw [boundKeys_singleton]
  unfold addImport
  cases lineKeys? line with
  | none =>
      rw [Option.getD_none, List.append_nil]
      dsimp only
      split <;> rfl
  | some keys =>
      dsimp only
      split <;> rfl

/-- A line that is not new has no key that the draft does not know. -/
theorem known_of_not_lacks {line : String} (present : draft.lacks line = false) :
    ∀ key ∈ boundKeys [line], key ∈ draft.keys := by
  intro key member
  rw [boundKeys_singleton] at member
  unfold lacks at present
  cases read : lineKeys? line with
  | none =>
      rw [read] at member
      cases member
  | some keys =>
      rw [read] at member present
      have known := List.any_eq_false.mp present key member
      simpa using known

theorem Imports.addImport (imports : draft.Imports tree seen) (id line : String) :
    (draft.addImport id line).Imports tree (seen ++ [line]) := by
  have lines := draft.addImport_importLines id line
  have known : ∀ key ∈ boundKeys (seen ++ [line]), key ∈ (draft.addImport id line).keys := by
    intro key member
    rw [addImport_keys, List.mem_append]
    rw [boundKeys_append, List.mem_append] at member
    exact member.imp_left (imports.known key)
  cases lacking : draft.lacks line with
  | true =>
      rw [lacking, if_pos rfl] at lines
      refine ⟨?_, known, ?_, ?_⟩
      · intro key
        rw [addImport_keys, lines, boundKeys_append, List.mem_append, List.mem_append, imports.keys,
          or_assoc]
      · rw [lines]
        exact imports.sublist.append (List.Sublist.refl [line])
      · rw [lines]
        refine imports.adds.concat ?_
        intro keys read
        unfold lacks at lacking
        rw [read] at lacking
        obtain ⟨key, member, unknown⟩ := List.any_eq_true.mp lacking
        have absent : key ∉ draft.keys := by simpa using unknown
        rw [imports.keys, not_or] at absent
        exact ⟨key, member, absent⟩
  | false =>
      rw [lacking, if_neg Bool.false_ne_true] at lines
      refine ⟨?_, known, ?_, ?_⟩
      · intro key
        rw [addImport_keys, lines, List.mem_append, ← imports.keys]
        constructor
        · rintro (old | new)
          · exact old
          · exact known_of_not_lacks lacking key new
        · exact Or.inl
      · rw [lines]
        exact imports.sublist.trans (List.sublist_append_left seen [line])
      · rw [lines]
        exact imports.adds

theorem Imports.foldl_addImport (imports : draft.Imports tree seen) (id : String)
    (lines : List String) :
    (lines.foldl (Draft.addImport id) draft).Imports tree (seen ++ lines) := by
  induction lines generalizing draft seen with
  | nil =>
      rw [List.append_nil]
      exact imports
  | cons line lines ih =>
      have later := ih (imports.addImport id line)
      rwa [List.append_assoc, List.singleton_append] at later

theorem addInit_keys (source : Block) (draft : Draft) (pattern : Pattern) :
    (draft.addInit source pattern).keys = draft.keys := by
  unfold addInit
  split
  · rfl
  · dsimp only
    split <;> rfl

theorem Imports.congr (imports : draft.Imports tree seen) (keys : next.keys = draft.keys)
    (lines : next.importLines = draft.importLines) : next.Imports tree seen := by
  obtain ⟨all, known, sublist, adds⟩ := imports
  constructor
  · rw [keys, lines]
    exact all
  · rw [keys]
    exact known
  · rw [lines]
    exact sublist
  · rw [lines]
    exact adds

theorem wantedLines_concat (tree : SyntaxTree) (done : List PlanInput) (input : PlanInput) :
    wantedLines tree (done ++ [input]) = wantedLines tree done ++ wantedLines tree [input] := by
  simp only [wantedLines, List.flatMap_append]

theorem Imports.addInput (imports : draft.Imports tree (wantedLines tree done))
    (added : draft.addInput tree tree.imports source targets input = .ok next) :
    next.Imports tree (wantedLines tree (done ++ [input])) := by
  rw [wantedLines_concat]
  rcases addInput_eq_ok added with ⟨missing, rfl⟩ | ⟨anchor, found, shape⟩
  · have none : wantedLines tree [input] = [] := by
      simp only [wantedLines, PlanInput.anchor?, missing, List.flatMap_singleton]
    rw [none, List.append_nil]
    exact imports
  · have lines : wantedLines tree [input] = input.lines := by
      simp only [wantedLines, PlanInput.anchor?, found, List.flatMap_singleton]
    have filled : (draft.addModule source input).Imports tree (wantedLines tree done ++ input.lines) :=
      (imports.foldl_addImport input.rendered.id input.lines).congr (addInit_keys _ _ _)
        (addInit_importLines _ _ _)
    rw [lines]
    rcases shape with ⟨_, rfl⟩ | ⟨point, _, pushed⟩
    · exact filled
    · rcases addCallPoint_eq_ok pushed with ⟨_, rfl⟩ | ⟨_, _, _, _, rfl⟩
      · exact filled.congr rfl rfl
      · exact filled

/-! ### Code -/

/-- A block that an input with an anchor call asks for and the file does not have. -/
def IsMissingCode (tree : SyntaxTree) (inputs : List PlanInput) (pair : Block × String) : Prop :=
  ∃ input ∈ inputs, ∃ anchor code, input.anchor? tree = some anchor ∧
    input.rendered.initCode = some code ∧
    pair = (Block.ofText code.toList, String.ofList (Text.trimEnd code.toList)) ∧
    (Block.ofText code.toList).isEmpty = false ∧
    (Block.ofText tree.source).contains (Block.ofText code.toList) = false

structure Codes (tree : SyntaxTree) (done : List PlanInput) (draft : Draft) : Prop where
  missing : ∀ pair ∈ draft.initBlocks, IsMissingCode tree done pair
  distinct : (draft.initBlocks.map fun pair => pair.1.text).Nodup

theorem IsMissingCode.mono {more : List PlanInput} {pair : Block × String}
    (missing : IsMissingCode tree done pair) : IsMissingCode tree (done ++ more) pair := by
  obtain ⟨input, member, rest⟩ := missing
  exact ⟨input, List.mem_append_left more member, rest⟩

theorem Codes.addInput (codes : draft.Codes tree done)
    (added : draft.addInput tree tree.imports (Block.ofText tree.source) targets input = .ok next) :
    next.Codes tree (done ++ [input]) := by
  have kept : draft.Codes tree (done ++ [input]) :=
    ⟨fun pair member => (codes.missing pair member).mono, codes.distinct⟩
  cases anchored : input.anchor? tree with
  | none =>
      rcases addInput_eq_ok added with ⟨_, rfl⟩ | ⟨anchor, found, _⟩
      · exact kept
      · rw [PlanInput.anchor?, found] at anchored
        cases anchored
  | some anchor =>
      rcases addInput_code added with ⟨nowhere, _⟩ | blocks
      · rw [anchored] at nowhere
        cases nowhere
      rcases (draft.addImports input.rendered).addInit_cases (Block.ofText tree.source)
        input.rendered with ⟨same, _⟩ | ⟨code, asked, uncovered, longer⟩
      · rw [same, addImports_initBlocks] at blocks
        exact ⟨by rw [blocks]; exact kept.missing, by rw [blocks]; exact kept.distinct⟩
      · rw [longer, addImports_initBlocks] at blocks
        simp only [Covers, addImports_initBlocks, not_or, not_exists, not_and] at uncovered
        obtain ⟨filled, absent, new⟩ := uncovered
        rw [Bool.not_eq_true] at filled absent
        constructor
        · rw [blocks]
          intro pair member
          rcases List.mem_append.mp member with old | last
          · exact kept.missing pair old
          · exact ⟨input, List.mem_append_right done (List.mem_singleton.mpr rfl), anchor, code,
              anchored, asked, List.mem_singleton.mp last, filled, absent⟩
        · rw [blocks, List.map_append, List.map_singleton, List.nodup_append]
          refine ⟨kept.distinct, List.nodup_singleton _, ?_⟩
          intro text present last isLast
          obtain ⟨pair, member, rfl⟩ := List.mem_map.mp present
          rw [List.mem_singleton.mp isLast]
          exact new pair member

/-! ### All three accounts -/

structure Accounts (targets : List Target) (tree : SyntaxTree) (done : List PlanInput)
    (draft : Draft) : Prop where
  calls : draft.Collects targets tree done
  imports : draft.Imports tree (wantedLines tree done)
  codes : draft.Codes tree done

theorem Accounts.start : (Draft.start tree.imports).Accounts targets tree [] :=
  ⟨.start, .start, fun _ none => absurd none List.not_mem_nil, List.nodup_nil⟩

theorem Accounts.addInput (accounts : draft.Accounts targets tree done)
    (added : draft.addInput tree tree.imports (Block.ofText tree.source) targets input = .ok next) :
    next.Accounts targets tree (done ++ [input]) :=
  ⟨accounts.calls.addInput added, accounts.imports.addInput added, accounts.codes.addInput added⟩

end Draft

/-- A plan without a conflict comes from a draft that accounts for all inputs. -/
theorem planFile_accounts {targets : List Target} {path : String} {tree : SyntaxTree}
    {inputs : List PlanInput} (clear : (planFile targets path tree inputs).conflict = none) :
    ∃ draft, inputs.foldlM (Draft.addInput tree tree.imports (Block.ofText tree.source) targets)
        (Draft.start tree.imports) = .ok draft ∧
      planFile targets path tree inputs = EditPlan.ofPoints path (draft.points tree) ∧
      draft.Accounts targets tree inputs := by
  obtain ⟨draft, folded, same⟩ := planFile_eq_ofPoints clear
  have accounts : draft.Accounts targets tree inputs :=
    Sequencing.foldlM_accounts (fun _ _ _ _ holds added => Draft.Accounts.addInput holds added)
      inputs [] _ draft .start folded
  exact ⟨draft, folded, same, accounts⟩

/-! ### Counting -/

/-- Where at most one item can satisfy a test, one does exactly when some item does. -/
theorem countP_eq_one_iff {Item Key : Type} {items : List Item} {key : Item → Key}
    {test : Item → Bool} (distinct : (items.map key).Nodup)
    (same : ∀ left right, test left = true → test right = true → key left = key right) :
    items.countP test = 1 ↔ ∃ item ∈ items, test item = true := by
  induction items with
  | nil => simp
  | cons head items ih =>
      rw [List.map_cons, List.nodup_cons] at distinct
      cases holds : test head with
      | false =>
          rw [List.countP_cons_of_neg (by rw [holds]; exact Bool.false_ne_true), ih distinct.2]
          simp [holds]
      | true =>
          have none : items.countP test = 0 := by
            refine List.countP_eq_zero.mpr ?_
            intro item member also
            exact distinct.1 (List.mem_map.mpr ⟨item, member, same item head also holds⟩)
          rw [List.countP_cons_of_pos holds, none]
          exact ⟨fun _ => ⟨head, List.mem_cons_self, holds⟩, fun _ => rfl⟩

namespace Block

theorem contains_congr {left right : Block} (same : left.text = right.text) (block : Block) :
    block.contains left = block.contains right := by
  simp only [contains, isEmpty, same]

theorem ofText_trimEnd (code : Text) : ofText (Text.trimEnd code) = ofText code := by
  rw [ofText, keptLines_trimEnd]
  rfl

end Block

/-! ### The points of a plan -/

namespace EditPlan

def payloads (kind : EditKind) (points : List InjectionPoint) : List String :=
  (points.filter fun point => point.kind == kind).map InjectionPoint.payload

theorem payloads_number (kind : EditKind) (first : Nat) (points : List InjectionPoint) :
    payloads kind (number first points) = payloads kind points := by
  induction points generalizing first with
  | nil => rfl
  | cons point points ih =>
      have later := ih (first + 1)
      unfold payloads at later ⊢
      rw [number, List.filter_cons, List.filter_cons]
      dsimp only
      split
      · rw [List.map_cons, List.map_cons, later]
      · exact later

theorem countP_number {test : InjectionPoint → Bool}
    (blind : ∀ point id, test { point with id := id } = test point) (first : Nat)
    (points : List InjectionPoint) : (number first points).countP test = points.countP test := by
  have same := congrArg (List.countP id) (map_number test blind first points)
  rwa [List.countP_map, List.countP_map] at same

theorem payloads_append (kind : EditKind) (before after : List InjectionPoint) :
    payloads kind (before ++ after) = payloads kind before ++ payloads kind after := by
  simp only [payloads, List.filter_append, List.map_append]

theorem mem_payloads {kind : EditKind} {points : List InjectionPoint} {point : InjectionPoint}
    (member : point ∈ points) (same : point.kind = kind) : point.payload ∈ payloads kind points :=
  List.mem_map.mpr ⟨point, List.mem_filter.mpr ⟨member, beq_iff_eq.mpr same⟩, rfl⟩

theorem payloads_eq_nil {kind : EditKind} {points : List InjectionPoint}
    (other : ∀ point ∈ points, point.kind ≠ kind) : payloads kind points = [] := by
  rw [payloads, List.map_eq_nil_iff, List.filter_eq_nil_iff]
  intro point member same
  exact other point member (eq_of_beq same)

end EditPlan

namespace Draft

variable {targets : List Target} {tree : SyntaxTree} {inputs : List PlanInput} {draft : Draft}

theorem payloads_modulePoints (draft : Draft) (anchor : Syntax.NodeRef) (line : Nat) :
    EditPlan.payloads .insertImport (draft.modulePoints anchor line) =
        (if draft.importLines.isEmpty then [] else ["\n".intercalate draft.importLines]) ∧
      EditPlan.payloads .insertAfter (draft.modulePoints anchor line) =
        (if draft.initBlocks.isEmpty then []
          else ["\n\n".intercalate (draft.initBlocks.map Prod.snd)]) := by
  unfold modulePoints
  by_cases noLines : draft.importLines.isEmpty = true <;>
    by_cases noBlocks : draft.initBlocks.isEmpty = true <;>
      simp [EditPlan.payloads, noLines, noBlocks]

theorem Collects.payloads_callPoints (collects : draft.Collects targets tree inputs)
    {kind : EditKind} (other : ∀ keyword mode, kind ≠ .argument keyword mode) :
    EditPlan.payloads kind (draft.callPoints.mergeSort fun left right => left.line ≤ right.line) =
      [] := by
  refine EditPlan.payloads_eq_nil ?_
  intro point member same
  have present := (List.mergeSort_perm draft.callPoints _).mem_iff.mp member
  obtain ⟨input, _, anchor, rule, _, rfl⟩ := (collects.requests point).mp present
  exact other rule.keyword rule.mode same.symm

theorem Collects.payloads_ofPoints (collects : draft.Collects targets tree inputs) (path : String) :
    EditPlan.payloads .insertImport (EditPlan.ofPoints path (draft.points tree)).points =
        (if draft.importLines.isEmpty then [] else ["\n".intercalate draft.importLines]) ∧
      EditPlan.payloads .insertAfter (EditPlan.ofPoints path (draft.points tree)).points =
        (if draft.initBlocks.isEmpty then []
          else ["\n\n".intercalate (draft.initBlocks.map Prod.snd)]) := by
  obtain ⟨imports, code⟩ := draft.payloads_modulePoints tree.importAnchor
    (((tree.resolve tree.importAnchor).map tree.line).getD 1)
  dsimp only [EditPlan.ofPoints]
  rw [EditPlan.payloads_number, EditPlan.payloads_number, Draft.points, EditPlan.payloads_append,
    EditPlan.payloads_append, imports, code,
    collects.payloads_callPoints (fun _ _ => by rintro ⟨⟩),
    collects.payloads_callPoints (fun _ _ => by rintro ⟨⟩), List.append_nil, List.append_nil]
  exact ⟨rfl, rfl⟩

end Draft

/-! ### Call sites -/

def InjectionPoint.serves (anchor : Call) (rule : CallSiteRule) (point : InjectionPoint) : Bool :=
  point.anchor == anchor.node && point.kind == .argument rule.keyword rule.mode
    && point.payload == trimmed rule.value

def IsBacked (targets : List Target) (tree : SyntaxTree) (inputs : List PlanInput) (anchor : Call)
    (rule : CallSiteRule) : Prop :=
  ∃ input ∈ inputs, ∃ backing, input.anchor? tree = some anchor ∧
    input.rendered.callSite = some backing ∧ backing.keyword = rule.keyword ∧
    backing.mode = rule.mode ∧ trimmed backing.value = trimmed rule.value ∧
    backing.appliesTo targets = true

section

variable {targets : List Target} {tree : SyntaxTree} {inputs : List PlanInput} {draft : Draft}
  {anchor : Call} {rule : CallSiteRule} {point : InjectionPoint}

theorem InjectionPoint.serves_iff :
    point.serves anchor rule = true ↔
      point.anchor = anchor.node ∧ point.kind = .argument rule.keyword rule.mode ∧
        point.payload = trimmed rule.value := by
  simp only [serves, Bool.and_eq_true, beq_iff_eq, and_assoc]

theorem carries_congr {left right : CallSiteRule} (keyword : left.keyword = right.keyword)
    (mode : left.mode = right.mode) (value : trimmed left.value = trimmed right.value) :
    carries anchor left = carries anchor right := by
  simp only [carries, keyword, mode, compacted_eq_of_trimmed value]

theorem exists_serving_iff (isCall : anchor ∈ tree.allCalls) :
    (∃ point, IsRequested targets tree inputs point ∧ point.serves anchor rule = true) ↔
      carries anchor rule = false ∧ IsBacked targets tree inputs anchor rule := by
  constructor
  · rintro ⟨_, ⟨input, member, call, backing, candidate, rfl⟩, serving⟩
    obtain ⟨sameNode, sameKind, value⟩ := InjectionPoint.serves_iff.mp serving
    have sameCall : call = anchor :=
      SyntaxTree.eq_of_node_eq (anchorCall?_mem candidate.anchored) isCall sameNode
    subst sameCall
    obtain ⟨keyword, mode⟩ := EditKind.argument.inj sameKind
    refine ⟨?_, input, member, backing, candidate.anchored, candidate.asked, keyword, mode, value,
      candidate.inScope⟩
    rw [← carries_congr keyword mode value]
    exact candidate.missing
  · rintro ⟨missing, input, member, backing, anchored, asked, keyword, mode, value, inScope⟩
    rw [← carries_congr keyword mode value] at missing
    refine ⟨input.request anchor backing,
      ⟨input, member, anchor, backing, ⟨anchored, asked, inScope, missing⟩, rfl⟩, ?_⟩
    refine InjectionPoint.serves_iff.mpr ⟨rfl, ?_, value⟩
    rw [PlanInput.request, keyword, mode]

/-- A call has one point for a rule exactly when some input asks for it and the call lacks it. -/
theorem Draft.Collects.countP_serves (collects : draft.Collects targets tree inputs)
    (isCall : anchor ∈ tree.allCalls) :
    (EditPlan.number 0 (draft.points tree)).countP (InjectionPoint.serves anchor rule) = 1 ↔
      carries anchor rule = false ∧ IsBacked targets tree inputs anchor rule := by
  have atModule (place : Syntax.NodeRef) (line : Nat) :
      (draft.modulePoints place line).countP (InjectionPoint.serves anchor rule) = 0 := by
    refine List.countP_eq_zero.mpr ?_
    intro point member serving
    have callSite := (InjectionPoint.serves_iff.mp serving).2.1
    rcases (mem_modulePoints member).2 with kind | kind <;>
      · rw [kind] at callSite
        cases callSite
  rw [EditPlan.countP_number (fun _ _ => rfl), Draft.points, List.countP_append, atModule,
    Nat.zero_add, (List.mergeSort_perm draft.callPoints _).countP_eq,
    countP_eq_one_iff collects.distinct, ← exists_serving_iff isCall]
  · simp only [collects.requests]
  · intro left right leftServes rightServes
    exact (InjectionPoint.serves_iff.mp leftServes).1.trans
      (InjectionPoint.serves_iff.mp rightServes).1.symm

end

/-! ### What a plan provides -/

def blocksLike (code : String) (blocks : List String) : Nat :=
  blocks.countP fun block => (Block.ofText block.toList).text == (Block.ofText code.toList).text

/-- What an input gets from a plan that adds import lines, blocks of code and other points. -/
structure PlanInput.IsProvided (targets : List Target) (tree : SyntaxTree) (inputs : List PlanInput)
    (lines blocks : List String) (points : List InjectionPoint) (input : PlanInput) (anchor : Call) :
    Prop where
  imports : ∀ line ∈ input.lines, ∀ keys, lineKeys? line = some keys →
    ∀ key ∈ keys, key ∈ tree.topKeys ∨ key ∈ boundKeys lines
  code : ∀ code, input.rendered.initCode = some code → (Block.ofText code.toList).isEmpty = false →
    blocksLike code blocks =
      if (Block.ofText tree.source).contains (Block.ofText code.toList) then 0 else 1
  callSite : ∀ rule, input.rendered.callSite = some rule →
    (points.countP (InjectionPoint.serves anchor rule) = 1 ↔
      carries anchor rule = false ∧ IsBacked targets tree inputs anchor rule)

theorem Draft.Codes.blocksLike {tree : SyntaxTree} {inputs : List PlanInput} {draft : Draft}
    (codes : draft.Codes tree inputs) {code : String}
    (filled : (Block.ofText code.toList).isEmpty = false)
    (covers : draft.Covers (Block.ofText tree.source) (Block.ofText code.toList)) :
    blocksLike code (draft.initBlocks.map Prod.snd) =
      if (Block.ofText tree.source).contains (Block.ofText code.toList) then 0 else 1 := by
  have counted : AgentProbe.blocksLike code (draft.initBlocks.map Prod.snd) =
      draft.initBlocks.countP fun pair => pair.1.text == (Block.ofText code.toList).text := by
    rw [AgentProbe.blocksLike, List.countP_map]
    refine List.countP_congr ?_
    intro pair member
    obtain ⟨_, _, _, other, _, _, rfl, _, _⟩ := codes.missing pair member
    simp only [Function.comp_apply, String.toList_ofList, Block.ofText_trimEnd]
  rw [counted]
  split
  · rename_i present
    refine List.countP_eq_zero.mpr ?_
    intro pair member same
    obtain ⟨_, _, _, other, _, _, rfl, _, absent⟩ := codes.missing pair member
    rw [Block.contains_congr (eq_of_beq same), present] at absent
    cases absent
  · rename_i absent
    refine (countP_eq_one_iff codes.distinct ?_).mpr ?_
    · intro left right leftSame rightSame
      exact (eq_of_beq leftSame).trans (eq_of_beq rightSame).symm
    · rcases covers with empty | present | ⟨pair, member, same⟩
      · rw [filled] at empty
        cases empty
      · exact absurd present absent
      · exact ⟨pair, member, beq_iff_eq.mpr same⟩

/-- A conflict-free plan is complete and minimal.  It adds import lines and blocks of code, each kind
in one point at most: every key and every block that an input asks for is in the file or added, every
clean import that is added brings a new key, and no block is added twice or without need.  A call gets
one point for a rule exactly when it does not carry the value and a rule in scope asks for it.  All
other points are requests of inputs, and the points are numbered by their positions. -/
theorem planFile_complete {targets : List Target} {path : String} {tree : SyntaxTree}
    {inputs : List PlanInput} (clear : (planFile targets path tree inputs).conflict = none) :
    ∃ lines blocks : List String,
      EditPlan.payloads .insertImport (planFile targets path tree inputs).points =
          (if lines.isEmpty then [] else ["\n".intercalate lines]) ∧
        EditPlan.payloads .insertAfter (planFile targets path tree inputs).points =
          (if blocks.isEmpty then [] else ["\n\n".intercalate blocks]) ∧
        lines.Sublist (wantedLines tree inputs) ∧
        EachAdds tree lines ∧
        (∀ block ∈ blocks, ∃ pair, pair.2 = block ∧ Draft.IsMissingCode tree inputs pair) ∧
        (∀ input ∈ inputs, ∀ anchor, input.anchor? tree = some anchor →
          input.IsProvided targets tree inputs lines blocks
            (planFile targets path tree inputs).points anchor) ∧
        (∀ point ∈ (planFile targets path tree inputs).points,
          point.kind = .insertImport ∨ point.kind = .insertAfter ∨
            IsRequested targets tree inputs { point with id := 0 }) ∧
        (planFile targets path tree inputs).points.map InjectionPoint.id =
          List.range (planFile targets path tree inputs).points.length := by
  obtain ⟨draft, folded, same, collects, imports, codes⟩ := planFile_accounts clear
  obtain ⟨linesAdded, blocksAdded⟩ := collects.payloads_ofPoints path
  rw [same]
  refine ⟨draft.importLines, draft.initBlocks.map Prod.snd, linesAdded, ?_, imports.sublist,
    imports.adds, ?_, ?_, ?_, ?_⟩
  · rw [List.isEmpty_map]
    exact blocksAdded
  · intro block member
    obtain ⟨pair, present, rfl⟩ := List.mem_map.mp member
    exact ⟨pair, rfl, codes.missing pair present⟩
  · intro input member anchor anchored
    refine ⟨?_, ?_, ?_⟩
    · intro line asked keys read key among
      refine imports.provides ?_ read among
      refine List.mem_flatMap.mpr ⟨input, member, ?_⟩
      rw [anchored]
      exact asked
    · intro code asked filled
      exact codes.blocksLike filled (Draft.foldlM_covers folded member anchored asked)
    · intro rule _
      exact collects.countP_serves (anchorCall?_mem anchored)
  · intro point member
    obtain ⟨original, present, renumbered⟩ := EditPlan.mem_number member
    rw [renumbered]
    rcases List.mem_append.mp present with atModule | sorted
    · rcases (Draft.mem_modulePoints atModule).2 with kind | kind
      · exact Or.inl kind
      · exact Or.inr (Or.inl kind)
    · have requested := (collects.requests original).mp
        ((List.mergeSort_perm draft.callPoints _).mem_iff.mp sorted)
      have unnumbered : original.id = 0 := by
        obtain ⟨_, _, _, _, _, rfl⟩ := requested
        rfl
      refine Or.inr (Or.inr ?_)
      rw [← unnumbered]
      exact requested
  · dsimp only [EditPlan.ofPoints]
    rw [EditPlan.map_id_number, EditPlan.length_number, List.range_eq_range']

def importedTree : SyntaxTree :=
  SyntaxTree.parse "import acme\nfrom agents import Agent\nbot = Agent(name=1)\n".toList

theorem planFile_complete_repeated :
    (planFile [] "agent.py" importedTree [tracingInput, tracingInput]).conflict = none ∧
      ∃ lines blocks anchor, tracingInput.anchor? importedTree = some anchor ∧
        tracingInput.IsProvided [] importedTree [tracingInput, tracingInput] lines blocks
          (planFile [] "agent.py" importedTree [tracingInput, tracingInput]).points anchor := by
  have clear : (planFile [] "agent.py" importedTree [tracingInput, tracingInput]).conflict = none := by
    decide +kernel
  have found : (tracingInput.anchor? importedTree).isSome = true := by decide +kernel
  obtain ⟨anchor, anchored⟩ := Option.isSome_iff_exists.mp found
  obtain ⟨lines, blocks, _, _, _, _, _, provided, _⟩ := planFile_complete clear
  exact ⟨clear, lines, blocks, anchor, anchored,
    provided tracingInput List.mem_cons_self anchor anchored⟩

def scopedInput (scope : List Target) : PlanInput :=
  { framework := "openai-agents", version := "*", platform := "langfuse"
    signature := { name := "openai-agents", packages := [], modules := ["agents"]
                   anchors := ["Agent"] }
    pattern := { id := "p", callSite := some { keyword := "hooks", value := "h()"
                                               targets := scope } } }

def agentTree : SyntaxTree :=
  SyntaxTree.parse "from agents import Agent\na = Agent(name=1)\n".toList

/-- A call can have the point that a rule asks for although the rule is out of scope: another input
asks for the same. -/
theorem planFile_serves_out_of_scope :
    (planFile [.llmCalls] "agent.py" agentTree [scopedInput [.tools], scopedInput []]).conflict =
        none ∧
      ∃ anchor rule, (scopedInput [.tools]).anchor? agentTree = some anchor ∧
        (scopedInput [.tools]).rendered.callSite = some rule ∧
        ¬ ((planFile [.llmCalls] "agent.py" agentTree
                [scopedInput [.tools], scopedInput []]).points.countP
              (InjectionPoint.serves anchor rule) = 1 ↔
            rule.appliesTo [.llmCalls] = true ∧ carries anchor rule = false) := by
  have clear : (planFile [.llmCalls] "agent.py" agentTree
      [scopedInput [.tools], scopedInput []]).conflict = none := by
    decide +kernel
  have counted : ((scopedInput [.tools]).anchor? agentTree).map (fun anchor =>
      (planFile [.llmCalls] "agent.py" agentTree
        [scopedInput [.tools], scopedInput []]).points.countP
          (InjectionPoint.serves anchor
            { keyword := "hooks", value := "h()", targets := [.tools] })) = some 1 := by
    decide +kernel
  obtain ⟨anchor, anchored, once⟩ := Option.map_eq_some_iff.mp counted
  refine ⟨clear, anchor, _, anchored, rfl, ?_⟩
  intro exactly
  exact absurd (exactly.mp once).1 (by decide)

end AgentProbe
