import AgentProbe.Proofs.Edit.Selection
import AgentProbe.Proofs.Plan.Acceptance
import AgentProbe.Proofs.Plan.Precedence

set_option autoImplicit false

/-!
Where the imports and the code of a plan go in a module, and in which order.

Both are inserted at one offset, behind all imports of the module and never inside one of its
statements.  The imports come first there, because their edit has the lower rank, and nothing can come
between: every other edit of the plan is inside a call, and a call is inside a statement.
-/

namespace AgentProbe

open Syntax (SyntaxTree Node NodeRef)

/-! ### Edits at one offset -/

/-- Around one of its edits, a woven text is woven from what is in front of the edit and from what is
behind it. -/
theorem Woven.split {rest output : Text} {offset : Nat} {earlier later : List TextEdit}
    {edit : TextEdit} (woven : Woven rest offset (earlier ++ edit :: later) output) :
    ∃ before old after front back, rest = before ++ (old ++ after) ∧
      edit.start = offset + Text.bytes before ∧ edit.stop = edit.start + Text.bytes old ∧
      output = front ++ (edit.replacement ++ back) ∧ Woven before offset earlier front ∧
      Woven after edit.stop later back := by
  induction earlier generalizing rest offset output with
  | nil =>
      cases woven with
      | cons kept old rest output offset edit edits starts stops tail =>
          exact ⟨kept, old, rest, kept, output, rfl, starts, stops, rfl, .nil kept offset, tail⟩
  | cons first earlier ih =>
      cases woven with
      | cons kept gone rest output offset edit edits starts stops tail =>
          obtain ⟨before, old, after, front, back, split, startAt, stopAt, written, left, right⟩ :=
            ih tail
          refine ⟨kept ++ (gone ++ before), old, after, kept ++ (first.replacement ++ front), back,
            ?_, ?_, stopAt, ?_, .cons kept gone before front offset first earlier starts stops left,
            right⟩
          · rw [split]
            simp only [List.append_assoc]
          · rw [startAt, stops, starts, Text.bytes_append, Text.bytes_append]
            omega
          · rw [written]
            simp only [List.append_assoc]

/-- Two insertions that follow one another at one offset leave nothing of the text between them. -/
theorem Woven.split_pair {rest output : Text} {offset : Nat} {earlier later : List TextEdit}
    {upper lower : TextEdit} (woven : Woven rest offset (earlier ++ upper :: lower :: later) output)
    (upperInserts : upper.start = upper.stop) (lowerInserts : lower.start = lower.stop)
    (level : upper.start = lower.start) :
    ∃ before after front back, rest = before ++ after ∧ upper.start = offset + Text.bytes before ∧
      output = front ++ (upper.replacement ++ (lower.replacement ++ back)) ∧
      Woven before offset earlier front ∧ Woven after upper.start later back := by
  obtain ⟨before, old, tail, front, output, rfl, startAt, stopAt, rfl, left, right⟩ := woven.split
  obtain ⟨kept, gone, after, filling, back, rfl, lowerStart, lowerStop, rfl, between, behind⟩ :=
    Woven.split (show Woven _ _ ([] ++ lower :: later) _ from right)
  cases between
  have oldNone : old = [] := Text.eq_nil_of_bytes_eq_zero (by omega)
  have keptNone : kept = [] := Text.eq_nil_of_bytes_eq_zero (by omega)
  have goneNone : gone = [] := Text.eq_nil_of_bytes_eq_zero (by omega)
  subst oldNone keptNone goneNone
  rw [← lowerInserts, ← level] at behind
  exact ⟨before, after, front, back, rfl, startAt, rfl, left, behind⟩

/-- Where all edits at an offset have different ranks, two of consecutive ranks follow one another. -/
theorem TextEdit.ordered_consecutive {edits : List TextEdit} {upper lower : TextEdit}
    (upperMember : upper ∈ edits) (lowerMember : lower ∈ edits) (level : upper.start = lower.start)
    (next : upper.rank + 1 = lower.rank)
    (unlike : edits.Pairwise fun left right =>
      left.start = upper.start → right.start = upper.start → left.rank ≠ right.rank) :
    ∃ earlier later, ordered edits = earlier ++ upper :: lower :: later := by
  have sorted : (ordered edits).Pairwise fun left right => left.precedes right = true :=
    List.pairwise_mergeSort precedes_trans precedes_total edits
  have apart : (ordered edits).Pairwise fun left right =>
      left.start = upper.start → right.start = upper.start → left.rank ≠ right.rank := by
    apply ((List.mergeSort_perm edits precedes).pairwise_iff _).mpr unlike
    intro left right different here there
    exact (different there here).symm
  obtain ⟨front, later, split⟩ := List.append_of_mem (mem_ordered.mpr lowerMember)
  have present := mem_ordered.mpr upperMember
  rw [split] at sorted apart present
  have early : upper ∈ front := by
    rcases List.mem_append.mp present with early | rest
    · exact early
    exfalso
    rcases List.mem_cons.mp rest with same | late
    · rw [same] at next
      omega
    · have behind := List.rel_of_pairwise_cons (List.pairwise_append.mp sorted).2.1 late
      rw [precedes_iff] at behind
      omega
  obtain ⟨earlier, between, rfl⟩ := List.append_of_mem early
  have none : between = [] := by
    rw [List.eq_nil_iff_forall_not_mem]
    intro other member
    -- Whatever stands between them is at their offset and has the rank of one of them.
    have inFront := List.mem_append_right earlier (List.mem_cons_of_mem upper member)
    have after := List.rel_of_pairwise_cons
      (List.pairwise_append.mp (List.pairwise_append.mp sorted).1).2.1 member
    have before := (List.pairwise_append.mp sorted).2.2 other inFront lower List.mem_cons_self
    have notUpper := List.rel_of_pairwise_cons
      (List.pairwise_append.mp (List.pairwise_append.mp apart).1).2.1 member
    have notLower := (List.pairwise_append.mp apart).2.2 other inFront lower List.mem_cons_self
    rw [precedes_iff] at after before
    have here : other.start = upper.start := by omega
    have fromUpper := notUpper rfl here
    have fromLower := notLower here level.symm
    omega
  rw [none, List.append_assoc] at split
  exact ⟨earlier, later, split⟩

/-! ### The offset -/

namespace Syntax.SyntaxTree

variable {tree : SyntaxTree}

/-- An offset respects a module: the imports and the import anchor end in front of it, and no statement
goes over it. -/
structure Respects (tree : SyntaxTree) (offset : Nat) : Prop where
  imports : ∀ child ∈ tree.root.children, child.kind.isImport = true → child.stop ≤ offset
  anchor : tree.importAnchor ≠ NodeRef.root →
    ∃ node, tree.resolve tree.importAnchor = some node ∧ node.stop ≤ offset
  statements : ∀ child ∈ tree.root.children, child.kind ≠ .comment →
    offset ≤ child.start ∨ child.stop ≤ offset

theorem mem_leading_of_isImport {node : Node} (member : node ∈ tree.root.children)
    (isImport : node.kind.isImport = true) : node ∈ tree.leading := by
  have listed : node ∈ tree.root.children.filter fun node => node.kind.isImport :=
    List.mem_filter.mpr ⟨member, isImport⟩
  unfold leading
  split
  · rename_i empty
    rw [empty] at listed
    cases listed
  · exact listed

namespace WellPlaced

variable (placed : tree.WellPlaced)

include placed

theorem respects_moduleStart (atRoot : tree.importAnchor = NodeRef.root) (leads : tree.leading = []) :
    tree.Respects tree.moduleStart := by
  have siblings := Node.areNested_children placed.nested
  constructor
  case imports =>
    intro child member isImport
    have listed := mem_leading_of_isImport member isImport
    rw [leads] at listed
    cases listed
  case anchor => exact fun other => absurd atRoot other
  case statements =>
    intro child member _
    unfold moduleStart
    cases found : tree.root.namedChildren.find? fun child => child.kind != .comment with
    | none =>
        have under := (Node.Under.refl tree.root).child member
        exact Or.inr (Text.le_bytes_of_isBoundary (placed.delimited_under under).2)
    | some first =>
        obtain ⟨front, back, split⟩ := List.append_of_mem
          (Node.mem_children_of_namedChildren (List.mem_of_find?_eq_some found))
        rw [split] at member siblings
        obtain ⟨ahead, forward, behind⟩ := Node.areNested_around siblings
        rcases List.mem_append.mp member with early | rest
        · exact Or.inr (ahead child early)
        · rcases List.mem_cons.mp rest with rfl | late
          · exact Or.inl (Nat.le_refl _)
          · exact Or.inl (forward.trans (behind child late))

theorem respects_endOfLine {before after : List Node} {node : Node}
    (anchor : tree.IsAnchor before node after) :
    tree.Respects (endOfLine tree.source node.stop) := by
  have onward := le_endOfLine tree.source node.stop
  constructor
  case imports =>
    intro child member isImport
    have last := anchor.stop_le placed.nested (mem_leading_of_isImport member isImport)
    omega
  case anchor =>
    intro _
    refine ⟨node, ?_, onward⟩
    rw [anchor.anchored]
    exact resolve_child anchor.split
  case statements =>
    intro child member visible
    have siblings := Node.areNested_children placed.nested
    rw [anchor.split] at member siblings
    obtain ⟨ahead, forward, _⟩ := Node.areNested_around siblings
    rcases List.mem_append.mp member with early | rest
    · have bound := ahead child early
      exact Or.inr (by omega)
    · rcases List.mem_cons.mp rest with rfl | late
      · exact Or.inr onward
      · exact Or.inl (placed.endOfLine_le anchor.split anchor.plain late visible)

/-- All statements of a plan go to one offset, and it respects the module. -/
theorem exists_respected :
    ∃ offset, tree.Respects offset ∧ ∀ point edit, InjectionPoint.edit point tree = .ok edit →
      (point.kind = .insertImport ∨ point.kind = .insertAfter) →
        point.anchor = tree.importAnchor → edit.start = offset := by
  rcases tree.importAnchor_cases with ⟨atRoot, leads⟩ | ⟨before, node, after, anchor⟩
  · refine ⟨tree.moduleStart, placed.respects_moduleStart atRoot leads, ?_⟩
    intro point edit made kind anchored
    obtain ⟨_, _, place⟩ := InjectionPoint.start_of_statement made kind
    rw [anchored, atRoot] at place
    exact place
  · refine ⟨endOfLine tree.source node.stop, placed.respects_endOfLine anchor, ?_⟩
    intro point edit made kind anchored
    obtain ⟨other, found, place⟩ := InjectionPoint.start_of_statement made kind
    rw [anchored, anchor.anchored] at found place
    rw [resolve_child anchor.split] at found
    cases found
    exact place

end WellPlaced

theorem Respects.start_ne {point : InjectionPoint} {edit : TextEdit} {offset : Nat}
    (respects : tree.Respects offset) (placed : tree.WellPlaced)
    (rooted : tree.root.kind.name = "module") (forCall : point.IsForCall tree)
    (made : point.edit tree = .ok edit) : edit.start ≠ offset := by
  obtain ⟨call, _, _, found, isCall, _, argument⟩ := forCall.reached
  obtain ⟨low, forward, high⟩ := point.inside_of_argument placed made argument found
  obtain ⟨statement, member, _, starts, stops, _, visible⟩ :=
    placed.statement_of_call rooted ⟨point.anchor.path, found⟩ isCall
  rcases respects.statements statement member visible with before | after <;> omega

end Syntax.SyntaxTree

/-! ### What is inserted -/

/-- Statements are inserted with line ends around them: behind them at the top of a module, in front of
them behind a statement. -/
theorem statementEdit_written (tree : SyntaxTree) (node : Node) (point : InjectionPoint)
    {separator : Text} (listed : separator ∈ ["\n".toList, "\n\n".toList]) :
    (statementEdit tree node point separator).rank = point.kind.rank ∧
      ∃ opening closing, (statementEdit tree node point separator).replacement =
          opening ++ (point.payload.toList ++ closing) ∧
        (∀ c ∈ opening ++ closing, c = '\n') ∧
        (if point.anchor.path.isEmpty then closing else opening) ≠ [] := by
  have newlines : separator ≠ [] ∧ ∀ c ∈ separator, c = '\n' := by
    simp only [List.mem_cons, List.not_mem_nil, or_false] at listed
    rcases listed with rfl | rfl <;> simp
  cases top : point.anchor.path.isEmpty with
  | true =>
      obtain ⟨lead, written, shape⟩ := @statementEdit_lead tree node point separator top
      refine ⟨by simp only [statementEdit, top, if_true, TextEdit.insert], lead, separator, ?_, ?_, ?_⟩
      · rw [written, List.append_assoc]
      · intro c member
        rcases List.mem_append.mp member with front | back
        · rcases shape with rfl | ⟨rfl, _⟩
          · exact List.mem_singleton.mp front
          · cases front
        · exact newlines.2 c back
      · rw [if_pos rfl]
        exact newlines.1
  | false =>
      have edit : statementEdit tree node point separator =
          .insert point.id (endOfLine tree.source node.stop) (separator ++ point.payload.toList)
            point.kind.rank := by
        simp only [statementEdit, top, Bool.false_eq_true, if_false]
      rw [edit]
      refine ⟨rfl, separator, [], ?_, ?_, ?_⟩
      · rw [List.append_nil]
        rfl
      · rw [List.append_nil]
        exact newlines.2
      · rw [if_neg Bool.false_ne_true]
        exact newlines.1

theorem InjectionPoint.edit_written {tree : SyntaxTree} {point : InjectionPoint} {edit : TextEdit}
    (made : point.edit tree = .ok edit)
    (kind : point.kind = .insertImport ∨ point.kind = .insertAfter) :
    edit.rank = point.kind.rank ∧
      ∃ opening closing, edit.replacement = opening ++ (point.payload.toList ++ closing) ∧
        (∀ c ∈ opening ++ closing, c = '\n') ∧
        (if point.anchor.path.isEmpty then closing else opening) ≠ [] := by
  obtain ⟨node, _, shaped⟩ := Sequencing.bind_eq_ok.mp made
  rcases kind with kind | kind <;>
    · rw [kind] at shaped
      cases shaped
      exact statementEdit_written tree node point (by decide)

/-- Two payloads stand one behind the other at an offset of a source.  Only line ends are around them
and between them; the rest is what some of the edits make of the source in front of the offset, and of
the source behind it. -/
def StandTogether (source : Text) (edits : List TextEdit) (offset : Nat)
    (upper lower output : Text) : Prop :=
  ∃ before after earlier later front back opening gap closing,
    source = before ++ after ∧ Text.bytes before = offset ∧
    (∀ edit ∈ earlier ++ later, edit ∈ edits) ∧
    Woven before 0 earlier front ∧ Woven after offset later back ∧
    output = front ++ (opening ++ (upper ++ (gap ++ (lower ++ (closing ++ back))))) ∧
    gap ≠ [] ∧ ∀ c ∈ opening ++ (gap ++ closing), c = '\n'

section Plan

variable {targets : List Target} {path : String} {tree : SyntaxTree} {inputs : List PlanInput}
  {offset : Nat} (placed : tree.WellPlaced) (rooted : tree.root.kind.name = "module")
  (clear : (planFile targets path tree inputs).conflict = none) (respects : tree.Respects offset)

include placed rooted clear respects

/-- The edits of a plan at an offset that respects the module have different ranks. -/
theorem planFile_ranks {edits : List TextEdit}
    (made : editsFor tree (planFile targets path tree inputs) = .ok edits) :
    edits.Pairwise fun left right =>
      left.start = offset → right.start = offset → left.rank ≠ right.rank := by
  obtain ⟨distinct, places⟩ := planFile_points clear
  refine Sequencing.pairwise_of_mapM_eq_ok (editsFor_eq_ok made)
    ((List.pairwise_map.mp distinct).imp_of_mem ?_)
  intro left right here there different leftEdit rightEdit leftMade rightMade leftAt rightAt same
  rcases places left here with forCall | ⟨leftAnchored, leftKind⟩
  · exact respects.start_ne placed rooted forCall leftMade leftAt
  rcases places right there with forCall | ⟨rightAnchored, rightKind⟩
  · exact respects.start_ne placed rooted forCall rightMade rightAt
  apply different
  rw [(left.edit_written leftMade leftKind).1, (right.edit_written rightMade rightKind).1] at same
  have sameKind : left.kind = right.kind := by
    rcases leftKind with leftKind | leftKind
    · rcases rightKind with rightKind | rightKind
      · rw [leftKind, rightKind]
      · rw [leftKind, rightKind] at same
        cases same
    · rcases rightKind with rightKind | rightKind
      · rw [leftKind, rightKind] at same
        cases same
      · rw [leftKind, rightKind]
  exact Prod.ext (leftAnchored.trans rightAnchored.symm) (congrArg EditKind.tag sameKind)

theorem planFile_standTogether {injection : Injection} {imports code : InjectionPoint}
    {upper lower : TextEdit}
    (injected : inject tree (planFile targets path tree inputs) = .ok injection)
    (importsPlanned : imports ∈ (planFile targets path tree inputs).points)
    (codePlanned : code ∈ (planFile targets path tree inputs).points)
    (isImports : imports.kind = .insertImport) (isCode : code.kind = .insertAfter)
    (sameAnchor : imports.anchor = code.anchor) (upperMade : imports.edit tree = .ok upper)
    (lowerMade : code.edit tree = .ok lower) (upperAt : upper.start = offset)
    (lowerAt : lower.start = offset) :
    StandTogether tree.source injection.edits offset imports.payload.toList code.payload.toList
      injection.text := by
  obtain ⟨listed, applied, _⟩ := inject_eq_ok injected
  have upperMember := mem_of_editsFor listed importsPlanned upperMade
  have lowerMember := mem_of_editsFor listed codePlanned lowerMade
  obtain ⟨upperRank, opening, upperClosing, upperWritten, upperLines, upperGap⟩ :=
    imports.edit_written upperMade (Or.inl isImports)
  obtain ⟨lowerRank, lowerOpening, closing, lowerWritten, lowerLines, lowerGap⟩ :=
    code.edit_written lowerMade (Or.inr isCode)
  have next : upper.rank + 1 = lower.rank := by
    rw [upperRank, lowerRank, isImports, isCode]
    rfl
  have unlike := planFile_ranks placed rooted clear respects listed
  rw [← upperAt] at unlike
  obtain ⟨earlier, later, split⟩ := TextEdit.ordered_consecutive upperMember lowerMember
    (upperAt.trans lowerAt.symm) next unlike
  have woven := applyEdits_woven applied
  rw [split] at woven
  obtain ⟨before, after, front, back, cut, startAt, written, left, right⟩ :=
    woven.split_pair (imports.insertion_of_statement upperMade (Or.inl isImports))
      (code.insertion_of_statement lowerMade (Or.inr isCode)) (upperAt.trans lowerAt.symm)
  rw [upperAt] at startAt right
  refine ⟨before, after, earlier, later, front, back, opening, upperClosing ++ lowerOpening, closing,
    cut, by omega, ?_, left, right, ?_, ?_, ?_⟩
  · intro edit member
    apply TextEdit.mem_ordered.mp
    rw [split]
    rcases List.mem_append.mp member with early | late
    · exact List.mem_append_left _ early
    · exact List.mem_append_right _ (List.mem_cons_of_mem upper (List.mem_cons_of_mem lower late))
  · rw [written, upperWritten, lowerWritten]
    simp only [List.append_assoc]
  · -- At the top of a module the imports end a line; behind a statement the code starts one.
    rw [sameAnchor] at upperGap
    intro none
    obtain ⟨closes, opens⟩ := List.append_eq_nil_iff.mp none
    split at upperGap
    · exact upperGap closes
    · rename_i below
      rw [if_neg below] at lowerGap
      exact lowerGap opens
  · intro c member
    simp only [List.mem_append] at member upperLines lowerLines
    rcases member with first | (second | third) | last
    · exact upperLines c (Or.inl first)
    · exact upperLines c (Or.inr second)
    · exact lowerLines c (Or.inl third)
    · exact lowerLines c (Or.inr last)

end Plan

/-- All imports and all code of a plan without a conflict are inserted at one offset, which respects the
module.  Where the plan is applied, the imports stand there in front of the code, with nothing of the
file between them. -/
theorem planFile_module_offset {targets : List Target} {path : String} {tree : SyntaxTree}
    {inputs : List PlanInput} (placed : tree.WellPlaced) (rooted : tree.root.kind.name = "module")
    (clear : (planFile targets path tree inputs).conflict = none) :
    ∃ offset, tree.Respects offset ∧
      (∀ point ∈ (planFile targets path tree inputs).points,
        point.kind = .insertImport ∨ point.kind = .insertAfter →
          ∃ edit, point.edit tree = .ok edit ∧ edit.start = offset ∧ edit.stop = offset) ∧
      ∀ injection, inject tree (planFile targets path tree inputs) = .ok injection →
        ∀ imports ∈ (planFile targets path tree inputs).points,
          ∀ code ∈ (planFile targets path tree inputs).points,
            imports.kind = .insertImport → code.kind = .insertAfter →
              StandTogether tree.source injection.edits offset imports.payload.toList
                code.payload.toList injection.text := by
  obtain ⟨offset, respects, shared⟩ := placed.exists_respected
  have made {point : InjectionPoint}
      (planned : point ∈ (planFile targets path tree inputs).points)
      (kind : point.kind = .insertImport ∨ point.kind = .insertAfter) :
      ∃ edit, point.edit tree = .ok edit ∧ edit.start = offset ∧ edit.stop = offset := by
    have anchored := planFile_anchored clear planned kind
    obtain ⟨edit, made⟩ := point.edit_of_statement rooted anchored kind
    have start := shared point edit made kind anchored
    exact ⟨edit, made, start, (point.insertion_of_statement made kind).symm.trans start⟩
  refine ⟨offset, respects, fun point planned kind => made planned kind, ?_⟩
  intro injection injected imports importsPlanned code codePlanned isImports isCode
  obtain ⟨upper, upperMade, upperAt, _⟩ := made importsPlanned (Or.inl isImports)
  obtain ⟨lower, lowerMade, lowerAt, _⟩ := made codePlanned (Or.inr isCode)
  have sameAnchor := (planFile_anchored clear importsPlanned (Or.inl isImports)).trans
    (planFile_anchored clear codePlanned (Or.inr isCode)).symm
  exact planFile_standTogether placed rooted clear respects injected importsPlanned codePlanned
    isImports isCode sameAnchor upperMade lowerMade upperAt lowerAt

/-- A file with an import that only other imports may stand in front of, and a comment behind the last
one. -/
def futureModule : SyntaxTree :=
  SyntaxTree.parse "from __future__ import b\nfrom a import A # c\nA(n=1)\n".toList

def importInput : PlanInput :=
  { hookInput with pattern := { hookInput.pattern with imports := ["import b"] } }

def importPoints : List InjectionPoint :=
  [{ anchor := ⟨"import_from_statement", [1]⟩, kind := .insertImport, payload := "import b"
     patternId := "p", line := 2 },
   { id := 1, anchor := ⟨"import_from_statement", [1]⟩, kind := .insertAfter, payload := "h = 1"
     patternId := "p", line := 2 },
   { id := 2, anchor := ⟨"call", [3, 0]⟩, kind := .argument "t" .list, payload := "h"
     patternId := "p", line := 3 }]

def importEdits : List TextEdit :=
  [.insert 0 44 "\nimport b".toList 0, .insert 1 44 "\n\nh = 1".toList 1,
   .insert 2 50 ", t=[h]".toList 2]

theorem planFile_module_offset_future :
    futureModule.hasErrors = false ∧ futureModule.WellPlaced ∧
      futureModule.root.kind.name = "module" ∧
      (planFile [] "agent.py" futureModule [importInput]).conflict = none ∧
      (planFile [] "agent.py" futureModule [importInput]).points = importPoints ∧
      ∃ injection,
        inject futureModule (planFile [] "agent.py" futureModule [importInput]) = .ok injection ∧
        ∃ offset, futureModule.Respects offset ∧
          StandTogether futureModule.source injection.edits offset "import b".toList
            "h = 1".toList injection.text := by
  have placed : futureModule.WellPlaced :=
    SyntaxTree.wellPlaced_of_adjacent (by decide +kernel) (by decide +kernel) (by decide +kernel)
  have read : futureModule.hasErrors = false ∧ futureModule.root.kind.name = "module" := by
    decide +kernel
  have planned : (planFile [] "agent.py" futureModule [importInput]).conflict = none ∧
      (planFile [] "agent.py" futureModule [importInput]).points = importPoints := by
    decide +kernel
  have made : editsFor futureModule (planFile [] "agent.py" futureModule [importInput]) =
      .ok importEdits :=
    Sequencing.eq_ok_of_toOption (by decide +kernel)
  have fit : ∀ edit ∈ importEdits, edit.fits futureModule.source = true := by decide +kernel
  have beside : importEdits.Pairwise TextEdit.Beside := by
    simp [importEdits, TextEdit.Beside, TextEdit.insert]
  obtain ⟨text, applied⟩ := applyEdits_of_beside fit beside
  obtain ⟨injection, done, _⟩ := inject_of_applied made applied
  refine ⟨read.1, placed, read.2, planned.1, planned.2, injection, done, ?_⟩
  obtain ⟨offset, respects, _, together⟩ := planFile_module_offset placed read.2 planned.1
  refine ⟨offset, respects, ?_⟩
  rw [planned.2] at together
  exact together injection done importPoints[0] (List.getElem_mem _) importPoints[1]
    (List.getElem_mem _) rfl rfl

end AgentProbe
