import AgentProbe.Proofs.Edit.Filler
import AgentProbe.Proofs.Edit.Realisation
import AgentProbe.Proofs.Edit.Weaving
import AgentProbe.Proofs.Plan.Agreement
import AgentProbe.Proofs.Plan.Containment

set_option autoImplicit false

/-!
Where the code of a plan ends up.

Code goes to the top of the module or behind a statement.  At the top it always gets lines of its own.
Behind a statement it starts a line, but the line ends with it only if the statement ends its own:
what follows the statement on its line is pushed behind the code.
-/

namespace AgentProbe

open Syntax (SyntaxTree Node)

/-- A text whose line has no rest is at its end or at the end of a line. -/
theorem restOfLine_eq_nil {before after : Text}
    (ended : restOfLine (before ++ after) (Text.bytes before) = []) :
    after = [] ∨ after.head? = some '\n' := by
  rw [restOfLine, Text.since_append] at ended
  cases after with
  | nil => exact Or.inl rfl
  | cons c rest =>
      rw [List.takeWhile_cons] at ended
      split at ended
      · cases ended
      · rename_i stays
        refine Or.inr ?_
        simpa using stays

/-! ### Statement edits -/

def statementSeparators : List Text := ["\n".toList, "\n\n".toList]

theorem head?_of_separator {separator : Text} (listed : separator ∈ statementSeparators) :
    separator.head? = some '\n' ∧ separator.getLast? = some '\n' := by
  simp only [statementSeparators, List.mem_cons, List.not_mem_nil, or_false] at listed
  rcases listed with rfl | rfl <;> exact ⟨rfl, rfl⟩

def TextEdit.IsStatement (tree : SyntaxTree) (top : Bool) (edit : TextEdit) : Prop :=
  ∃ node point, ∃ separator ∈ statementSeparators,
    point.anchor.path.isEmpty = top ∧ edit = statementEdit tree node point separator

theorem TextEdit.IsStatement.ends {tree : SyntaxTree} {edit : TextEdit}
    (statement : edit.IsStatement tree true) : edit.replacement.getLast? = some '\n' := by
  obtain ⟨node, point, separator, listed, top, rfl⟩ := statement
  simp only [statementEdit, top, if_true, TextEdit.insert]
  rw [List.getLast?_append, (head?_of_separator listed).2]
  rfl

theorem TextEdit.IsStatement.starts {tree : SyntaxTree} {edit : TextEdit}
    (statement : edit.IsStatement tree false) : edit.replacement.head? = some '\n' := by
  obtain ⟨node, point, separator, listed, behind, rfl⟩ := statement
  simp only [statementEdit, behind, TextEdit.insert]
  rw [if_neg (by decide), List.head?_append, (head?_of_separator listed).1]
  rfl

/-- What is put in front of statements at the top of a module, so that they start a line. -/
theorem statementEdit_lead {tree : SyntaxTree} {node : Node} {point : InjectionPoint}
    {separator : Text} (top : point.anchor.path.isEmpty = true) :
    ∃ lead, (statementEdit tree node point separator).replacement =
        lead ++ point.payload.toList ++ separator ∧
      (lead = ['\n'] ∨
        lead = [] ∧ ∀ c, (Text.upTo tree.source
          (statementEdit tree node point separator).start).getLast? = some c → c = '\n') := by
  simp only [statementEdit, top, if_true, TextEdit.insert]
  refine ⟨_, rfl, ?_⟩
  split
  · rename_i newline
    refine Or.inr ⟨rfl, ?_⟩
    intro c last
    rw [newline] at last
    cases last
    rfl
  · exact Or.inl rfl
  · rename_i none
    refine Or.inr ⟨rfl, ?_⟩
    intro c last
    rw [none] at last
    cases last

/-- Added statements get lines of their own at the top of a module, and behind a statement that ends
its line, if the only edits that touch them add statements there too. -/
theorem statementEdit_onOwnLines {tree : SyntaxTree} {node : Node} {point : InjectionPoint}
    {separator : Text} {edits : List TextEdit} {edit : TextEdit} {text : Text}
    (listed : separator ∈ statementSeparators) (made : edit = statementEdit tree node point separator)
    (applied : applyEdits tree.source edits = .ok text) (member : edit ∈ edits)
    (alone : ∀ other ∈ edits, other.stop = edit.start ∨ other.start = edit.start →
      other.IsStatement tree point.anchor.path.isEmpty)
    (placed : point.anchor.path.isEmpty = true ∨ restOfLine tree.source edit.start = []) :
    Text.OnOwnLines point.payload.toList text := by
  obtain ⟨before, old, after, front, back, split, startAt, stopAt, written, left, right⟩ :=
    (applyEdits_woven applied).around (TextEdit.mem_ordered.mpr member)
  rw [Nat.zero_add] at startAt
  rw [written]
  cases top : point.anchor.path.isEmpty with
  | true =>
      obtain ⟨lead, shape, opens⟩ :=
        @statementEdit_lead tree node point separator top
      rw [← made] at shape opens
      rw [startAt, split, Text.upTo_append] at opens
      refine ⟨front ++ lead, separator ++ back, by rw [shape]; simp only [List.append_assoc], ?_,
        Or.inr (by rw [List.head?_append, (head?_of_separator listed).1]; rfl)⟩
      rcases opens with rfl | ⟨rfl, newline⟩
      · exact Or.inr List.getLast?_concat
      · -- Nothing was put in front, because a line ended there; an edit that came between ends one too.
        rw [List.append_nil]
        rcases left with same | ⟨other, present, touches, ⟨lines, rfl⟩⟩
        · cases ending : front.getLast? with
          | none => exact Or.inl (List.getLast?_eq_none_iff.mp ending)
          | some c =>
              rw [newline c (same.symm.trans ending)]
              exact Or.inr rfl
        · have statement := alone other (TextEdit.mem_ordered.mp present) (Or.inl touches)
          rw [top] at statement
          rw [List.getLast?_append, statement.ends]
          exact Or.inr rfl
  | false =>
      have shape : edit.replacement = separator ++ point.payload.toList ∧
          edit.stop = edit.start := by
        rw [made]
        simp only [statementEdit, top, TextEdit.insert]
        exact ⟨rfl, rfl⟩
      refine ⟨front ++ separator, back, by rw [shape.1]; simp only [List.append_assoc],
        Or.inr (by rw [List.getLast?_append, (head?_of_separator listed).2]; rfl), ?_⟩
      have none : old = [] := Text.eq_nil_of_bytes_eq_zero (by omega)
      rw [none, List.nil_append] at split
      rcases right with same | ⟨other, present, touches, ⟨lines, rfl⟩⟩
      · rcases placed with atTop | ended
        · rw [top] at atTop
          cases atTop
        · rw [split, startAt] at ended
          rcases restOfLine_eq_nil ended with rfl | newline
          · exact Or.inl (List.head?_eq_none_iff.mp same)
          · exact Or.inr (same.trans newline)
      · have statement := alone other (TextEdit.mem_ordered.mp present)
          (Or.inr (touches.trans shape.2))
        rw [top] at statement
        rw [List.head?_append, statement.starts]
        exact Or.inr rfl

/-! ### The statements of a plan -/

/-- The argument edits of a plan do not touch an offset. -/
def EditPlan.LeavesAlone (plan : EditPlan) (tree : SyntaxTree) (offset : Nat) : Prop :=
  ∀ point ∈ plan.points, ∀ keyword mode, point.kind = .argument keyword mode →
    ∀ edit, point.edit tree = .ok edit → edit.stop < offset ∨ offset < edit.start

theorem InjectionPoint.edit_isStatement {tree : SyntaxTree} {point : InjectionPoint}
    {edit : TextEdit} (made : point.edit tree = .ok edit)
    (kind : point.kind = .insertImport ∨ point.kind = .insertAfter) :
    edit.IsStatement tree point.anchor.path.isEmpty := by
  obtain ⟨node, _, shaped⟩ := Sequencing.bind_eq_ok.mp made
  rcases kind with kind | kind <;>
    · rw [kind] at shaped
      cases shaped
      exact ⟨node, point, _, by decide, rfl, rfl⟩

/-- The imports and the code of a plan get lines of their own at the top of the module and behind a
statement that ends its line, unless an argument edit touches them. -/
theorem planFile_onOwnLines {targets : List Target} {path : String} {tree : SyntaxTree}
    {inputs : List PlanInput} {injection : Injection} {point : InjectionPoint} {edit : TextEdit}
    (clear : (planFile targets path tree inputs).conflict = none)
    (injected : inject tree (planFile targets path tree inputs) = .ok injection)
    (planned : point ∈ (planFile targets path tree inputs).points)
    (kind : point.kind = .insertImport ∨ point.kind = .insertAfter)
    (made : point.edit tree = .ok edit)
    (placed : point.anchor.path.isEmpty = true ∨ restOfLine tree.source edit.start = [])
    (alone : (planFile targets path tree inputs).LeavesAlone tree edit.start) :
    Text.OnOwnLines point.payload.toList injection.text := by
  obtain ⟨listed, applied, _⟩ := inject_eq_ok injected
  have mapped := editsFor_eq_ok listed
  obtain ⟨_, points⟩ := planFile_points clear
  have present := mem_of_editsFor listed planned made
  have anchored := planFile_anchored clear planned kind
  have touching : ∀ other ∈ injection.edits, other.stop = edit.start ∨ other.start = edit.start →
      other.IsStatement tree point.anchor.path.isEmpty := by
    intro other member touches
    obtain ⟨neighbour, asked, same⟩ := Sequencing.mem_of_mapM_eq_ok mapped member
    rcases points neighbour asked with ⟨_, _, _, _, _, argument⟩ | ⟨sameAnchor, statement⟩
    · have apart := alone neighbour asked _ _ argument other same
      have forward := (TextEdit.fits_iff.mp ((applyEdits_eq_ok_iff.mp applied).1 other member)).1
      omega
    · rw [anchored, ← sameAnchor]
      exact neighbour.edit_isStatement same statement
  obtain ⟨node, _, shaped⟩ := Sequencing.bind_eq_ok.mp made
  rcases kind with kind | kind <;>
    · rw [kind] at shaped
      cases shaped
      exact statementEdit_onOwnLines (by decide) rfl applied present touching placed

end AgentProbe
