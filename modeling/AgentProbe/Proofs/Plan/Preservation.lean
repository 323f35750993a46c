import AgentProbe.Proofs.Edit.Addition
import AgentProbe.Proofs.Edit.Preservation
import AgentProbe.Proofs.Plan.Repetition

set_option autoImplicit false

/-!
Lines that a plan leaves whole.

A plan edits calls and adds statements.  The lines on which none of its calls stands are kept, except
that statements are added where the anchor statement ends: if something follows it on its line, the
line is cut there.
-/

namespace AgentProbe

open Syntax (SyntaxTree Node)
open Text (Line placedLines)

/-! ### Edits and the lines of a file -/

theorem start_le_of_le_endOfLine {source : Text} {line : Line} {offset : Nat}
    (member : line ∈ placedLines source) (reached : line.start ≤ endOfLine source offset) :
    line.start ≤ offset := by
  rcases endOfLine_cases source offset with same | ⟨moved, _⟩
  · rw [← same]
    exact reached
  rw [moved] at reached
  cases opened : Text.cut source offset with
  | none =>
      have empty : restOfLine source offset = [] := by
        rw [restOfLine, Text.since, opened]
        rfl
      rw [empty] at reached
      exact reached
  | some halves =>
      obtain ⟨before, after⟩ := halves
      obtain ⟨rfl, rfl⟩ := Text.cut_eq_some opened
      rw [restOfLine, Text.since_append] at reached
      exact Text.start_le_of_le_firstLine member reached

/-- Whether a node and a line have a byte in common, the line end included. -/
def Syntax.Node.overlaps (node : Node) (line : Line) : Bool :=
  decide (node.start ≤ line.stop) && decide (line.start < node.stop)

/-- How the spans of nodes lie in a file without errors. -/
structure Syntax.SyntaxTree.WellSpanned (tree : SyntaxTree) : Prop where
  nested : tree.root.isNested = true
  bracketed : tree.Bracketed
  parenthesized : ∀ node ∈ tree.nodes,
    (node.child? .arguments).all (fun list => list.isEnclosed "(" ")") = true

theorem appendEdit_overlaps {tree : SyntaxTree} {id : Nat} {list : Node} {entry : Text} {line : Line}
    (nested : list.isNested = true) (enclosed : list.isEnclosed "(" ")" = true)
    (member : line ∈ placedLines tree.source)
    (meets : (appendEdit tree id list entry).start ≤ line.stop ∧
      line.start ≤ (appendEdit tree id list entry).stop) :
    list.start ≤ line.stop ∧ line.start < list.stop := by
  have room := Node.isEnclosed_room nested enclosed
  simp only [appendEdit] at meets
  cases ends : (contents list).getLast? with
  | none =>
      simp only [ends, TextEdit.insert] at meets
      omega
  | some last =>
      obtain ⟨after, forward, before⟩ :=
        contents_between nested enclosed (List.mem_of_getLast? ends)
      simp only [ends] at meets
      split at meets
      · simp only [TextEdit.insert] at meets
        omega
      · split at meets
        · rename_i comma found
          have matched := List.find?_some found
          simp only [Bool.and_eq_true, beq_iff_eq, decide_eq_true_eq] at matched
          have inside := List.mem_of_find?_eq_some found
          obtain ⟨_, within⟩ := Node.isEnclosed_between nested enclosed inside
            (by rw [matched.1]; decide) (by rw [matched.1]; decide)
          have wide := Node.start_le_stop (Node.isNested_child nested inside).2.1
          simp only [TextEdit.insert] at meets
          have onLine := start_le_of_le_endOfLine member meets.2
          have onward := le_endOfLine tree.source comma.stop
          omega
        · simp only [TextEdit.replace] at meets
          have onLine := start_le_of_le_endOfLine member meets.2
          omega

/-- Statements that are put at the end of a line, at the top of a module, start a new line. -/
theorem TextEdit.IsStatement.opens {tree : SyntaxTree} {edit : TextEdit} {line : Line}
    (statement : edit.IsStatement tree true) (member : line ∈ placedLines tree.source)
    (filled : line.start < line.stop) (atEnd : edit.start = line.stop) :
    edit.replacement.head? = some '\n' := by
  obtain ⟨node, point, separator, _, top, rfl⟩ := statement
  obtain ⟨lead, shape, opens⟩ := @statementEdit_lead tree node point separator top
  rcases opens with rfl | ⟨_, newline⟩
  · rw [shape]
    rfl
  · obtain ⟨front, after, split, startAt, _, clean⟩ := Text.mem_placedLines member
    have stopAt : line.stop = Text.bytes (front ++ line.text) := by
      rw [Text.bytes_append, startAt]
      rfl
    rw [atEnd, stopAt, split, ← List.append_assoc, Text.upTo_append, List.getLast?_append] at newline
    cases ending : line.text.getLast? with
    | none =>
        rw [Line.stop, List.getLast?_eq_none_iff.mp ending] at filled
        exact absurd filled (Nat.lt_irrefl _)
    | some c =>
        -- A line has no line end of its own.
        rw [ending] at newline
        rw [newline c rfl] at ending
        exact absurd (List.mem_of_getLast? ending) clean

namespace InjectionPoint

variable {tree : SyntaxTree} {point : InjectionPoint} {edit : TextEdit} {line : Line}

/-- An argument edit changes only lines on which a part of its call stands. -/
theorem overlaps_of_alters {keyword : String} {mode : MergeMode} (spans : tree.WellSpanned)
    (made : point.edit tree = .ok edit) (kind : point.kind = .argument keyword mode)
    (member : line ∈ placedLines tree.source) (altered : edit.alters line = true) :
    ∃ call, tree.resolve point.anchor = some call ∧ call.overlaps line = true := by
  obtain ⟨nested, bracketed, parenthesized⟩ := spans
  rcases edit_eq_ok made with ⟨_, other⟩ | ⟨keyword, mode, list, _, ⟨call, found, listed⟩, shape⟩
  · exact absurd kind (other keyword mode)
  refine ⟨call, found, ?_⟩
  have callUnder : call.Under tree.root := ⟨point.anchor.path, found⟩
  have enclosed := parenthesized call (Syntax.SyntaxTree.mem_nodes_of_under callUnder)
  rw [listed, Option.all_some] at enclosed
  have listUnder := callUnder.child (Node.mem_children_of_child? listed)
  have listNested := Node.isNested_under nested listUnder
  obtain ⟨callStart, _, callStop⟩ := Node.isNested_child (Node.isNested_under nested callUnder)
    (Node.mem_children_of_child? listed)
  have meets := TextEdit.meets_of_alters altered
  have inside : list.start ≤ line.stop ∧ line.start < list.stop := by
    rcases shape with ⟨value, ⟨argument, present, _, _, valued⟩, _, rfl⟩ | ⟨entry, rfl⟩
    · have argumentUnder := listUnder.child (mem_contents present).1
      have valueUnder := argumentUnder.child (Node.mem_children_of_child? valued)
      obtain ⟨after, _, before⟩ := contents_between listNested enclosed present
      obtain ⟨valueAfter, valueNested, valueBefore⟩ := Node.isNested_child
        (Node.isNested_under nested argumentUnder) (Node.mem_children_of_child? valued)
      obtain ⟨low, middle, high⟩ := mergeEdit_within tree point.id point.payload.toList valueNested
        (bracketed value (Syntax.SyntaxTree.mem_nodes_of_under valueUnder))
      omega
    · exact appendEdit_overlaps listNested enclosed member meets
  simp only [Node.overlaps, Bool.and_eq_true, decide_eq_true_eq]
  omega

def isOn (tree : SyntaxTree) (point : InjectionPoint) (line : Line) : Bool :=
  match point.kind with
  | .argument _ _ => (tree.resolve point.anchor).any fun call => call.overlaps line
  | _ => false

/-- Whether the statements that a point adds go into a line: a part of it follows them, and it is
not that they stand at the top of the module and all of it follows. -/
def cuts (tree : SyntaxTree) (point : InjectionPoint) (line : Line) : Bool :=
  match point.kind, point.edit tree with
  | .argument _ _, _ => false
  | _, .error _ => false
  | _, .ok edit =>
    decide (line.start ≤ edit.start) && decide (edit.start < line.stop)
      && !(point.anchor.path.isEmpty && edit.start == line.start)

theorem cuts_iff :
    point.cuts tree line = true ↔
      ∃ edit, point.edit tree = .ok edit ∧ (point.kind = .insertImport ∨ point.kind = .insertAfter) ∧
        line.start ≤ edit.start ∧ edit.start < line.stop ∧
        ¬ (point.anchor.path.isEmpty = true ∧ edit.start = line.start) := by
  unfold cuts
  cases made : point.edit tree with
  | error fault => cases kind : point.kind <;> simp
  | ok edit => cases kind : point.kind <;> simp [and_assoc, Decidable.imp_iff_not_or]

theorem alters_of_statement (made : point.edit tree = .ok edit)
    (kind : point.kind = .insertImport ∨ point.kind = .insertAfter)
    (member : line ∈ placedLines tree.source) (whole : point.cuts tree line = false) :
    edit.alters line = false := by
  by_cases meets : edit.start ≤ line.stop ∧ line.start ≤ edit.stop
  · have inserts : edit.start = edit.stop := by
      rcases edit_eq_ok made with ⟨inserts, _⟩ | ⟨_, _, _, argument, _⟩
      · exact inserts
      · rw [argument] at kind
        simp at kind
    have uncut : ¬ (line.start ≤ edit.start ∧ edit.start < line.stop ∧
        ¬ (point.anchor.path.isEmpty = true ∧ edit.start = line.start)) := by
      intro cut
      exact Bool.eq_false_iff.mp whole (cuts_iff.mpr ⟨edit, made, kind, cut⟩)
    have statement := edit_isStatement made kind
    rw [TextEdit.alters_eq_false meets]
    refine ⟨inserts, ?_⟩
    cases top : point.anchor.path.isEmpty with
    | false =>
        rw [top] at statement uncut
        have atEnd : edit.start = line.stop := by
          simp only [Bool.false_eq_true, false_and, not_false_eq_true, and_true, not_and] at uncut
          omega
        exact Or.inl ⟨atEnd, statement.starts⟩
    | true =>
        rw [top] at statement uncut
        by_cases atStart : edit.start = line.start
        · exact Or.inr ⟨atStart, statement.ends⟩
        · have atEnd : edit.start = line.stop := by
            simp only [true_and, not_and, Decidable.not_not] at uncut
            omega
          exact Or.inl ⟨atEnd, statement.opens member (by omega) atEnd⟩
  · cases altered : edit.alters line with
    | false => rfl
    | true => exact absurd (TextEdit.meets_of_alters altered) meets

theorem start_of_statement (made : point.edit tree = .ok edit)
    (kind : point.kind = .insertImport ∨ point.kind = .insertAfter) :
    ∃ node, tree.resolve point.anchor = some node ∧
      edit.start = if point.anchor.path.isEmpty then tree.moduleStart
        else endOfLine tree.source node.stop := by
  obtain ⟨node, resolved, shaped⟩ := Sequencing.bind_eq_ok.mp made
  have place (separator : Text) : (statementEdit tree node point separator).start =
      if point.anchor.path.isEmpty then tree.moduleStart else endOfLine tree.source node.stop := by
    unfold statementEdit
    dsimp only
    split <;> rfl
  refine ⟨node, resolve_eq_ok resolved, ?_⟩
  rcases kind with kind | kind <;>
    · rw [kind] at shaped
      cases shaped
      exact place _

theorem edit_spares (spans : tree.WellSpanned) (made : point.edit tree = .ok edit)
    (member : line ∈ placedLines tree.source) (off : point.isOn tree line = false)
    (whole : point.cuts tree line = false) : edit.alters line = false := by
  cases kind : point.kind with
  | insertImport => exact alters_of_statement made (Or.inl kind) member whole
  | insertAfter => exact alters_of_statement made (Or.inr kind) member whole
  | argument keyword mode =>
      cases altered : edit.alters line with
      | false => rfl
      | true =>
          obtain ⟨call, found, overlaps⟩ := overlaps_of_alters spans made kind member altered
          rw [isOn, kind, found] at off
          dsimp only at off
          rw [Option.any_some, overlaps] at off
          cases off

end InjectionPoint

/-! ### Plans -/

namespace EditPlan

def isOn (tree : SyntaxTree) (plan : EditPlan) (line : Line) : Bool :=
  plan.points.any fun point => point.isOn tree line

def cuts (tree : SyntaxTree) (plan : EditPlan) (line : Line) : Bool :=
  plan.points.any fun point => point.cuts tree line

end EditPlan

theorem inject_keepsLines {tree : SyntaxTree} {plan : EditPlan} {injection : Injection}
    (spans : tree.WellSpanned) (injected : inject tree plan = .ok injection) :
    (((placedLines tree.source).filter fun line => !plan.isOn tree line && !plan.cuts tree line).map
      Line.text).Sublist (Text.splitOn '\n' injection.text) := by
  obtain ⟨made, applied, _⟩ := inject_eq_ok injected
  have mapped := editsFor_eq_ok made
  have spared : ∀ line ∈ placedLines tree.source,
      (!plan.isOn tree line && !plan.cuts tree line) = true →
        (injection.edits.all fun edit => !edit.alters line) = true := by
    intro line member free
    simp only [EditPlan.isOn, EditPlan.cuts, Bool.and_eq_true, Bool.not_eq_true',
      List.any_eq_false, Bool.not_eq_true] at free
    rw [List.all_eq_true]
    intro edit present
    obtain ⟨point, asked, same⟩ := Sequencing.mem_of_mapM_eq_ok mapped present
    rw [point.edit_spares spans same member (free.1 point asked) (free.2 point asked)]
    rfl
  refine List.Sublist.trans (List.Sublist.map _ ?_) (applyEdits_keepsLines applied)
  apply List.sublist_filter_iff.mpr
  refine ⟨_, List.filter_sublist (p := fun line => !plan.isOn tree line && !plan.cuts tree line),
    Eq.symm (List.filter_eq_self.mpr ?_)⟩
  intro line chosen
  obtain ⟨member, free⟩ := List.mem_filter.mp chosen
  exact spared line member free

/-- A line that a plan cuts goes on behind the place where the statements of the plan go. -/
theorem planFile_cuts {targets : List Target} {path : String} {tree : SyntaxTree}
    {inputs : List PlanInput} {line : Line}
    (clear : (planFile targets path tree inputs).conflict = none)
    (cut : (planFile targets path tree inputs).cuts tree line = true) :
    ∃ node offset, tree.resolve tree.importAnchor = some node ∧
      (offset = if tree.importAnchor.path.isEmpty then tree.moduleStart
        else endOfLine tree.source node.stop) ∧
      line.start ≤ offset ∧ offset < line.stop := by
  obtain ⟨point, planned, cut⟩ := List.any_eq_true.mp cut
  obtain ⟨edit, made, kind, low, high, _⟩ := InjectionPoint.cuts_iff.mp cut
  obtain ⟨node, found, place⟩ := InjectionPoint.start_of_statement made kind
  rw [planFile_anchored clear planned kind] at found place
  exact ⟨node, edit.start, found, place, low, high⟩

/-- Where a plan is applied, every line on which none of its calls stands is a line of the result, and
these lines keep their order.  The exception is a line that is cut: it goes on behind the place where
the statements of the plan go, and there is at most one such line. -/
theorem planFile_keepsLines {targets : List Target} {path : String} {tree : SyntaxTree}
    {inputs : List PlanInput} {injection : Injection} (spans : tree.WellSpanned)
    (clear : (planFile targets path tree inputs).conflict = none)
    (injected : inject tree (planFile targets path tree inputs) = .ok injection) :
    (((placedLines tree.source).filter fun line =>
        !(planFile targets path tree inputs).isOn tree line &&
          !(planFile targets path tree inputs).cuts tree line).map Line.text).Sublist
      (Text.splitOn '\n' injection.text) ∧
    (∀ line, (planFile targets path tree inputs).cuts tree line = true →
      ∃ node offset, tree.resolve tree.importAnchor = some node ∧
        (offset = if tree.importAnchor.path.isEmpty then tree.moduleStart
          else endOfLine tree.source node.stop) ∧
        line.start ≤ offset ∧ offset < line.stop) ∧
    ∀ first ∈ placedLines tree.source, ∀ second ∈ placedLines tree.source,
      (planFile targets path tree inputs).cuts tree first = true →
        (planFile targets path tree inputs).cuts tree second = true → first = second := by
  refine ⟨inject_keepsLines spans injected, ?_, ?_⟩
  · intro line cut
    exact planFile_cuts clear cut
  · intro first here second there cutHere cutThere
    obtain ⟨node, offset, found, place, low, high⟩ := planFile_cuts clear cutHere
    obtain ⟨twin, other, again, same, above, below⟩ := planFile_cuts clear cutThere
    -- Both lines have the one offset at which statements are added.
    rw [found] at again
    cases again
    rw [← place] at same
    subst same
    exact Text.linesFrom_unique here there ⟨low, Nat.le_of_lt high⟩ ⟨above, Nat.le_of_lt below⟩

theorem planFile_keepsLines_semicolon :
    semicolonTree.WellSpanned ∧
      (planFile [] "agent.py" semicolonTree [setupInput]).conflict = none ∧
      ∃ injection,
        inject semicolonTree (planFile [] "agent.py" semicolonTree [setupInput]) = .ok injection ∧
        ["a = Agent(name=1)".toList, []].Sublist (Text.splitOn '\n' injection.text) ∧
        "from agents import Agent; x = 1".toList ∉ Text.splitOn '\n' injection.text := by
  have spans : semicolonTree.WellSpanned :=
    ⟨by decide +kernel, by unfold SyntaxTree.Bracketed; decide +kernel, by decide +kernel⟩
  have clear : (planFile [] "agent.py" semicolonTree [setupInput]).conflict = none := by
    decide +kernel
  have made : editsFor semicolonTree (planFile [] "agent.py" semicolonTree [setupInput]) =
      .ok [.insert 0 24 "\n\nsetup()".toList 1] :=
    Sequencing.eq_ok_of_toOption (by decide +kernel)
  have applied : applyEdits semicolonTree.source [.insert 0 24 "\n\nsetup()".toList 1] =
      .ok semicolonText :=
    Sequencing.eq_ok_of_toOption (by decide +kernel)
  have chosen : ((placedLines semicolonTree.source).filter fun line =>
      !(planFile [] "agent.py" semicolonTree [setupInput]).isOn semicolonTree line &&
        !(planFile [] "agent.py" semicolonTree [setupInput]).cuts semicolonTree line).map Line.text =
      ["a = Agent(name=1)".toList, []] := by
    decide +kernel
  obtain ⟨injection, injected, written⟩ := inject_of_applied made applied
  obtain ⟨kept, _⟩ := planFile_keepsLines spans clear injected
  rw [chosen] at kept
  refine ⟨spans, clear, injection, injected, kept, ?_⟩
  rw [written]
  decide +kernel

end AgentProbe
