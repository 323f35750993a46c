import AgentProbe.Edit.Injection
import AgentProbe.Proofs.Sequencing

set_option autoImplicit false

/-!
What the edits of a plan are made from.

A point becomes an insertion of statements, a merge into the value of a keyword, or a new entry of an
argument list.  An injection is the application of all edits, followed by one reading of the result.
-/

namespace AgentProbe

open Syntax (SyntaxTree Node)

theorem InjectionPoint.resolve_eq_ok {tree : SyntaxTree} {point : InjectionPoint} {node : Node}
    (resolved : point.resolve tree = .ok node) : tree.resolve point.anchor = some node := by
  unfold resolve at resolved
  cases found : tree.resolve point.anchor with
  | none =>
      rw [found] at resolved
      cases resolved
  | some other =>
      rw [found] at resolved
      dsimp only at resolved
      split at resolved
      · cases resolved
        rfl
      · cases resolved

/-- The argument lists that an edit of a point can be about. -/
def InjectionPoint.ArgumentsAt (tree : SyntaxTree) (point : InjectionPoint) (list : Node) : Prop :=
  ∃ call, tree.resolve point.anchor = some call ∧ call.child? .arguments = some list

def ValueOf (tree : SyntaxTree) (list : Node) (keyword : String) (value : Node) : Prop :=
  ∃ argument ∈ contents list, argument.kind = .keywordArgument ∧
    (argument.child? .name).map tree.textOf = some keyword ∧
    argument.child? .value = some value

/-- An argument edit merges into a value that is there or appends an entry to the list. -/
theorem argumentEdit_eq_ok {tree : SyntaxTree} {call : Node} {point : InjectionPoint}
    {keyword : String} {mode : MergeMode} {edit : TextEdit}
    (made : argumentEdit tree call point keyword mode = .ok edit) :
    ∃ list, call.child? .arguments = some list ∧
      ((∃ value, ValueOf tree list keyword value ∧ mode = .list ∧
          edit = mergeEdit tree point.id value point.payload.toList) ∨
        ∃ entry, edit = appendEdit tree point.id list entry) := by
  simp only [argumentEdit] at made
  cases arguments : call.child? .arguments with
  | none =>
      rw [arguments] at made
      cases made
  | some list =>
      rw [arguments] at made
      refine ⟨list, rfl, ?_⟩
      dsimp only at made
      split at made
      · cases made
      · cases existing : (contents list).find? fun argument =>
            argument.kind == .keywordArgument
              && (argument.child? .name).map tree.textOf == some keyword with
        | none =>
            rw [existing] at made
            cases made
            exact Or.inr ⟨_, rfl⟩
        | some argument =>
            rw [existing] at made
            dsimp only at made
            have matched := List.find?_some existing
            simp only [Bool.and_eq_true, beq_iff_eq] at matched
            cases mode with
            | value => cases made
            | list =>
                cases valued : argument.child? .value with
                | none =>
                    rw [valued] at made
                    cases made
                | some value =>
                    rw [valued] at made
                    cases made
                    exact Or.inl ⟨value, ⟨argument, List.mem_of_find?_eq_some existing,
                      matched.1, matched.2, valued⟩, rfl, rfl⟩

/-- The edit of a point inserts statements, or it is an argument edit of the call it is for. -/
theorem InjectionPoint.edit_eq_ok {tree : SyntaxTree} {point : InjectionPoint} {edit : TextEdit}
    (made : point.edit tree = .ok edit) :
    (edit.start = edit.stop ∧ ∀ keyword mode, point.kind ≠ .argument keyword mode) ∨
      ∃ keyword mode list, point.kind = .argument keyword mode ∧ point.ArgumentsAt tree list ∧
        ((∃ value, ValueOf tree list keyword value ∧ mode = .list ∧
            edit = mergeEdit tree point.id value point.payload.toList) ∨
          ∃ entry, edit = appendEdit tree point.id list entry) := by
  obtain ⟨node, resolved, shaped⟩ := Sequencing.bind_eq_ok.mp made
  have inserted (separator : Text) :
      (statementEdit tree node point separator).start =
        (statementEdit tree node point separator).stop := by
    simp only [statementEdit]
    split <;> rfl
  cases kind : point.kind with
  | insertImport =>
      rw [kind] at shaped
      cases shaped
      refine Or.inl ⟨inserted _, ?_⟩
      intro keyword mode impossible
      cases impossible
  | insertAfter =>
      rw [kind] at shaped
      cases shaped
      refine Or.inl ⟨inserted _, ?_⟩
      intro keyword mode impossible
      cases impossible
  | argument keyword mode =>
      rw [kind] at shaped
      obtain ⟨list, arguments, shape⟩ := argumentEdit_eq_ok shaped
      exact Or.inr ⟨keyword, mode, list, rfl, ⟨node, resolve_eq_ok resolved, arguments⟩, shape⟩

theorem mergeEdit_id (tree : SyntaxTree) (id : Nat) (value : Node) (expression : Text) :
    (mergeEdit tree id value expression).id = id := by
  unfold mergeEdit
  split
  · split <;> rfl
  · rfl

theorem appendEdit_id (tree : SyntaxTree) (id : Nat) (list : Node) (entry : Text) :
    (appendEdit tree id list entry).id = id := by
  unfold appendEdit
  split
  · rfl
  · split
    · rfl
    · dsimp only
      split <;> rfl

theorem InjectionPoint.edit_id {tree : SyntaxTree} {point : InjectionPoint} {edit : TextEdit}
    (made : point.edit tree = .ok edit) : edit.id = point.id := by
  obtain ⟨node, resolved, shaped⟩ := Sequencing.bind_eq_ok.mp made
  have inserted (separator : Text) : (statementEdit tree node point separator).id = point.id := by
    unfold statementEdit
    dsimp only
    split <;> rfl
  cases kind : point.kind with
  | insertImport =>
      rw [kind] at shaped
      cases shaped
      exact inserted _
  | insertAfter =>
      rw [kind] at shaped
      cases shaped
      exact inserted _
  | argument keyword mode =>
      rw [kind] at shaped
      obtain ⟨list, _, ⟨value, _, _, rfl⟩ | ⟨entry, rfl⟩⟩ := argumentEdit_eq_ok shaped
      · exact mergeEdit_id tree point.id value _
      · exact appendEdit_id tree point.id list entry

theorem editsFor_eq_ok {tree : SyntaxTree} {plan : EditPlan} {edits : List TextEdit}
    (made : editsFor tree plan = .ok edits) :
    (plan.points.mapM fun point => point.edit tree) = .ok edits := by
  unfold editsFor at made
  split at made
  · cases made
  · exact made

theorem mem_of_editsFor {tree : SyntaxTree} {plan : EditPlan} {edits : List TextEdit}
    {point : InjectionPoint} {edit : TextEdit} (listed : editsFor tree plan = .ok edits)
    (planned : point ∈ plan.points) (made : point.edit tree = .ok edit) : edit ∈ edits := by
  obtain ⟨same, member, again⟩ := Sequencing.ok_of_mapM_eq_ok (editsFor_eq_ok listed) planned
  rw [made] at again
  cases again
  exact member

theorem inject_eq_ok {tree : SyntaxTree} {plan : EditPlan} {injection : Injection}
    (injected : inject tree plan = .ok injection) :
    editsFor tree plan = .ok injection.edits ∧
      applyEdits tree.source injection.edits = .ok injection.text ∧
      injection.tree = SyntaxTree.parse injection.text := by
  obtain ⟨edits, made, rest⟩ := Sequencing.bind_eq_ok.mp injected
  obtain ⟨text, applied, same⟩ := Sequencing.bind_eq_ok.mp rest
  cases same
  exact ⟨made, applied, rfl⟩

theorem inject_of_applied {tree : SyntaxTree} {plan : EditPlan} {edits : List TextEdit} {text : Text}
    (made : editsFor tree plan = .ok edits) (applied : applyEdits tree.source edits = .ok text) :
    ∃ injection, inject tree plan = .ok injection ∧ injection.text = text :=
  ⟨⟨SyntaxTree.parse text, edits⟩,
    Sequencing.bind_eq_ok.mpr ⟨edits, made, Sequencing.bind_eq_ok.mpr ⟨text, applied, rfl⟩⟩, rfl⟩

end AgentProbe
