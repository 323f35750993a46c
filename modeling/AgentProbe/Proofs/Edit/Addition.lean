import AgentProbe.Proofs.Edit.Filler
import AgentProbe.Proofs.Edit.Realisation
import AgentProbe.Proofs.Edit.Weaving
import AgentProbe.Proofs.Syntax.Span

set_option autoImplicit false

/-!
Edits only add text.

Whatever an edit replaces stands in its replacement again; the one exception is a list that is merged
over the value `None`.  An edit of an argument list stays between the parentheses of the list.  What
comes out of applying the edits of a plan is therefore the old text with pieces added to it.
-/

namespace AgentProbe

open Syntax (SyntaxTree Node)

/-! ### What an edit replaces -/

/-- What the edit replaces stands in its replacement. -/
def TextEdit.Keeps (source : Text) (edit : TextEdit) : Prop :=
  Text.slice source edit.start edit.stop <:+: edit.replacement

theorem TextEdit.keeps_of_insertion {source : Text} {edit : TextEdit}
    (inserts : edit.start = edit.stop) : edit.Keeps source := by
  unfold Keeps
  rw [inserts, Text.slice_self]
  exact List.nil_infix

/-- A point in list mode whose edit replaces a value that is exactly `None`. -/
def InjectionPoint.MergesOverNone (tree : SyntaxTree) (point : InjectionPoint) (edit : TextEdit) :
    Prop :=
  ∃ keyword list value, point.kind = .argument keyword .list ∧ point.ArgumentsAt tree list ∧
    ValueOf tree list keyword value ∧ tree.text value = "None".toList ∧
    edit.start = value.start ∧ edit.stop = value.stop

theorem mergeEdit_keeps (tree : SyntaxTree) (id : Nat) (value : Node) (expression : Text) :
    (mergeEdit tree id value expression).Keeps tree.source ∨
      (tree.text value = "None".toList ∧
        (mergeEdit tree id value expression).start = value.start ∧
        (mergeEdit tree id value expression).stop = value.stop) := by
  unfold mergeEdit
  split
  · refine Or.inl (TextEdit.keeps_of_insertion ?_)
    split <;> rfl
  · by_cases none : tree.text value = "None".toList
    · exact Or.inr ⟨none, rfl, rfl⟩
    · refine Or.inl ?_
      have other : (tree.text value == "None".toList) = false := beq_false_of_ne none
      simp only [other, Bool.false_eq_true, if_false]
      unfold TextEdit.Keeps
      change tree.text value <:+: _
      dsimp only [TextEdit.replace]
      split
      · exact ⟨"[*".toList, ", ".toList ++ expression ++ "]".toList, by
          simp only [List.append_assoc]⟩
      · exact ⟨"[*(".toList, "), ".toList ++ expression ++ "]".toList, by
          simp only [List.append_assoc]⟩

theorem appendEdit_keeps (tree : SyntaxTree) (id : Nat) (list : Node) (entry : Text) :
    (appendEdit tree id list entry).Keeps tree.source := by
  simp only [appendEdit]
  split
  · exact TextEdit.keeps_of_insertion rfl
  · split
    · exact TextEdit.keeps_of_insertion rfl
    · split
      · exact TextEdit.keeps_of_insertion rfl
      · exact ⟨[','], _, by simp only [List.append_assoc, List.singleton_append]; rfl⟩

/-- The edit of a point keeps what it replaces, unless it merges a list over `None`. -/
theorem InjectionPoint.edit_keeps {tree : SyntaxTree} {point : InjectionPoint} {edit : TextEdit}
    (made : point.edit tree = .ok edit) :
    edit.Keeps tree.source ∨ point.MergesOverNone tree edit := by
  rcases edit_eq_ok made with ⟨inserts, _⟩ |
    ⟨keyword, mode, list, kind, arguments, ⟨value, valued, rfl, rfl⟩ | ⟨entry, rfl⟩⟩
  · exact Or.inl (TextEdit.keeps_of_insertion inserts)
  · rcases mergeEdit_keeps tree point.id value point.payload.toList with keeps | replaces
    · exact Or.inl keeps
    · exact Or.inr ⟨keyword, list, value, kind, arguments, valued, replaces⟩
  · exact Or.inl (appendEdit_keeps tree point.id list entry)

/-! ### Where an argument edit is -/

/-- Only filler stands between the last argument of a list and its closing parenthesis. -/
def Syntax.SyntaxTree.EndsInFiller (tree : SyntaxTree) (list : Node) : Prop :=
  ∀ last, (contents list).getLast? = some last →
    ∃ before gap after, tree.source = before ++ (gap ++ ')' :: after) ∧ Filler true gap ∧
      Text.bytes before = last.stop ∧ Text.bytes before + Text.bytes gap + 1 = list.stop

def TextEdit.Between (edit : TextEdit) (node : Node) : Prop :=
  node.start + 1 ≤ edit.start ∧ edit.start ≤ edit.stop ∧ edit.stop + 1 ≤ node.stop

theorem mem_contents {node child : Node} (member : child ∈ contents node) :
    child ∈ node.children ∧ child.kind.isNamed = true := by
  exact List.mem_filter.mp (List.mem_filter.mp member).1

theorem contents_between {list child : Node} (nested : list.isNested = true)
    (enclosed : list.isEnclosed "(" ")" = true) (member : child ∈ contents list) :
    list.start + 1 ≤ child.start ∧ child.start ≤ child.stop ∧ child.stop + 1 ≤ list.stop := by
  obtain ⟨inside, named⟩ := mem_contents member
  have notToken (text : String) : child.kind ≠ .token text := by
    intro isToken
    rw [isToken] at named
    cases named
  obtain ⟨after, before⟩ :=
    Node.isEnclosed_between nested enclosed inside (notToken "(") (notToken ")")
  exact ⟨after, Node.start_le_stop (Node.isNested_child nested inside).2.1, before⟩

theorem mergeEdit_within (tree : SyntaxTree) (id : Nat) {value : Node} (expression : Text)
    (nested : value.isNested = true)
    (bracketed : value.kind = .listDisplay → value.start < value.stop) :
    value.start ≤ (mergeEdit tree id value expression).start ∧
      (mergeEdit tree id value expression).start ≤ (mergeEdit tree id value expression).stop ∧
      (mergeEdit tree id value expression).stop ≤ value.stop := by
  unfold mergeEdit
  split
  · rename_i isList
    split
    · rename_i last ends
      obtain ⟨inside, _⟩ := mem_contents (List.mem_of_getLast? ends)
      obtain ⟨after, within, before⟩ := Node.isNested_child nested inside
      have forward := Node.start_le_stop within
      simp only [TextEdit.insert]
      omega
    · have room := bracketed (eq_of_beq isList)
      simp only [TextEdit.insert]
      omega
  · have forward := Node.start_le_stop nested
    simp only [TextEdit.replace]
    omega

theorem appendEdit_between {tree : SyntaxTree} {id : Nat} {list : Node} {entry : Text}
    (nested : list.isNested = true) (enclosed : list.isEnclosed "(" ")" = true)
    (closes : tree.EndsInFiller list) : (appendEdit tree id list entry).Between list := by
  have room := Node.isEnclosed_room nested enclosed
  unfold TextEdit.Between
  simp only [appendEdit]
  cases ends : (contents list).getLast? with
  | none =>
      simp only [TextEdit.insert]
      omega
  | some last =>
      obtain ⟨after, forward, before⟩ :=
        contents_between nested enclosed (List.mem_of_getLast? ends)
      obtain ⟨front, gap, rest, split, filler, startAt, stopAt⟩ := closes last ends
      -- The end of the line, seen from anywhere in the filler, is in front of the parenthesis.
      have lineEnd (offset : Nat) (low : last.stop ≤ offset) (high : offset + 1 ≤ list.stop) :
          offset ≤ endOfLine tree.source offset ∧
            endOfLine tree.source offset + 1 ≤ list.stop := by
        refine ⟨le_endOfLine tree.source offset, ?_⟩
        have fromFiller : Text.bytes front ≤ offset := by
          rw [startAt]
          exact low
        have reached := endOfLine_le_closing split filler fromFiller (by omega)
        omega
      dsimp only
      split
      · simp only [TextEdit.insert]
        omega
      · split
        · rename_i comma found
          have matched := List.find?_some found
          simp only [Bool.and_eq_true, beq_iff_eq, decide_eq_true_eq] at matched
          have inside := List.mem_of_find?_eq_some found
          obtain ⟨_, within⟩ := Node.isEnclosed_between nested enclosed inside
            (by rw [matched.1]; decide) (by rw [matched.1]; decide)
          have wide := Node.start_le_stop (Node.isNested_child nested inside).2.1
          have bounds := lineEnd comma.stop (by omega) within
          simp only [TextEdit.insert]
          omega
        · have bounds := lineEnd last.stop (Nat.le_refl _) before
          simp only [TextEdit.replace]
          omega

/-- No list display is empty: each has a bracket to start with. -/
def Syntax.SyntaxTree.Bracketed (tree : SyntaxTree) : Prop :=
  ∀ node ∈ tree.nodes, node.kind = .listDisplay → node.start < node.stop

theorem InjectionPoint.edit_between {tree : SyntaxTree} {point : InjectionPoint} {edit : TextEdit}
    {keyword : String} {mode : MergeMode} (nested : tree.root.isNested = true)
    (made : point.edit tree = .ok edit) (kind : point.kind = .argument keyword mode) :
    ∃ list, point.ArgumentsAt tree list ∧
      (tree.Bracketed → list.isEnclosed "(" ")" = true → tree.EndsInFiller list →
        edit.Between list) := by
  rcases edit_eq_ok made with ⟨_, other⟩ | ⟨keyword, mode, list, _, arguments, shape⟩
  · exact absurd kind (other keyword mode)
  refine ⟨list, arguments, ?_⟩
  intro bracketed enclosed closes
  obtain ⟨call, found, listed⟩ := arguments
  have listUnder : list.Under tree.root :=
    Node.Under.child ⟨point.anchor.path, found⟩ (Node.mem_children_of_child? listed)
  have listNested := Node.isNested_under nested listUnder
  rcases shape with ⟨value, ⟨argument, member, _, _, valued⟩, _, rfl⟩ | ⟨entry, rfl⟩
  · obtain ⟨inside, _⟩ := mem_contents member
    have argumentUnder := listUnder.child inside
    have valueUnder := argumentUnder.child (Node.mem_children_of_child? valued)
    obtain ⟨after, _, before⟩ := contents_between listNested enclosed member
    obtain ⟨valueAfter, valueNested, valueBefore⟩ := Node.isNested_child
      (Node.isNested_under nested argumentUnder) (Node.mem_children_of_child? valued)
    obtain ⟨low, middle, high⟩ := mergeEdit_within tree point.id point.payload.toList valueNested
      (bracketed value (Syntax.SyntaxTree.mem_nodes_of_under valueUnder))
    exact ⟨by omega, middle, by omega⟩
  · exact appendEdit_between listNested enclosed closes

/-! ### What comes out -/

inductive Piece where
  /-- Text that was there before. -/
  | kept (text : Text)
  /-- Text that is new. -/
  | added (text : Text)
  /-- Text in the place of a value `None`. -/
  | merged (text : Text)
deriving DecidableEq, Repr

namespace Piece

def original : Piece → Text
  | kept text => text
  | added _ => []
  | merged _ => "None".toList

def written : Piece → Text
  | kept text => text
  | added text => text
  | merged text => text

end Piece

/-- Woven edits that keep what they replace, or replace `None`, only add pieces.  The induction
follows the weaving; `before` is the text in front of what is still to be woven. -/
theorem Woven.pieces {rest output : Text} {offset : Nat} {edits : List TextEdit}
    (woven : Woven rest offset edits output) (source before : Text)
    (split : source = before ++ rest) (place : Text.bytes before = offset)
    {exempt : TextEdit → Prop}
    (adds : ∀ edit ∈ edits, edit.Keeps source ∨
      (Text.slice source edit.start edit.stop = "None".toList ∧ exempt edit)) :
    ∃ pieces : List Piece, pieces.flatMap Piece.original = rest ∧
      pieces.flatMap Piece.written = output ∧
      ∀ text, Piece.merged text ∈ pieces → ∃ edit ∈ edits, exempt edit ∧ edit.replacement = text := by
  induction woven generalizing before with
  | nil rest offset =>
      refine ⟨[.kept rest], by simp [Piece.original], by simp [Piece.written], ?_⟩
      intro text member
      simp at member
  | cons kept old rest output offset edit edits starts stops tail ih =>
      obtain ⟨pieces, originals, writtens, exempted⟩ := ih (before ++ kept ++ old)
        (by rw [split]; simp only [List.append_assoc])
        (by rw [Text.bytes_append, Text.bytes_append, place, stops, starts])
        (fun other member => adds other (List.mem_cons_of_mem edit member))
      have replaced : Text.slice source edit.start edit.stop = old := by
        have shape : source = before ++ kept ++ (old ++ rest) := by
          rw [split, List.append_assoc]
        rw [shape, stops, starts, ← place, ← Text.bytes_append, Text.slice_append]
      rcases adds edit List.mem_cons_self with keeps | ⟨none, allowed⟩
      · unfold TextEdit.Keeps at keeps
        rw [replaced] at keeps
        obtain ⟨front, back, whole⟩ := keeps
        refine ⟨.kept kept :: .added front :: .kept old :: .added back :: pieces, ?_, ?_, ?_⟩
        · simp [Piece.original, originals]
        · simp [Piece.written, writtens, ← whole]
        · intro text member
          simp only [List.mem_cons, reduceCtorEq, false_or] at member
          obtain ⟨source, present, found⟩ := exempted text member
          exact ⟨source, List.mem_cons_of_mem edit present, found⟩
      · rw [replaced] at none
        refine ⟨.kept kept :: .merged edit.replacement :: pieces, ?_, ?_, ?_⟩
        · simp [Piece.original, originals, none]
        · simp [Piece.written, writtens]
        · intro text member
          simp only [List.mem_cons, reduceCtorEq, false_or, Piece.merged.injEq] at member
          rcases member with rfl | later
          · exact ⟨edit, List.mem_cons_self, allowed, rfl⟩
          · obtain ⟨source, present, found⟩ := exempted text later
            exact ⟨source, List.mem_cons_of_mem edit present, found⟩

/-- The edits of a plan keep what they replace, apart from values `None` in list mode; argument edits
stay between the parentheses of their calls; and the edited text is the old one with pieces added,
apart from those values. -/
theorem editsFor_adds {tree : SyntaxTree} {plan : EditPlan} {edits : List TextEdit}
    (nested : tree.root.isNested = true) (made : editsFor tree plan = .ok edits) :
    (∀ edit ∈ edits, ∃ point ∈ plan.points, point.edit tree = .ok edit ∧
        (edit.Keeps tree.source ∨ point.MergesOverNone tree edit)) ∧
      (∀ point ∈ plan.points, ∀ keyword mode, point.kind = .argument keyword mode →
        ∃ edit ∈ edits, ∃ list, point.edit tree = .ok edit ∧ point.ArgumentsAt tree list ∧
          (tree.Bracketed → list.isEnclosed "(" ")" = true → tree.EndsInFiller list →
            edit.Between list)) ∧
      ∀ injection, inject tree plan = .ok injection →
        ∃ pieces : List Piece, pieces.flatMap Piece.original = tree.source ∧
          pieces.flatMap Piece.written = injection.text ∧
          ∀ text, Piece.merged text ∈ pieces → ∃ edit ∈ edits, edit.replacement = text ∧
            ∃ point ∈ plan.points, point.edit tree = .ok edit ∧ point.MergesOverNone tree edit := by
  have mapped := editsFor_eq_ok made
  have keeping : ∀ edit ∈ edits, ∃ point ∈ plan.points, point.edit tree = .ok edit ∧
      (edit.Keeps tree.source ∨ point.MergesOverNone tree edit) := by
    intro edit member
    obtain ⟨point, present, same⟩ := Sequencing.mem_of_mapM_eq_ok mapped member
    exact ⟨point, present, same, point.edit_keeps same⟩
  refine ⟨keeping, ?_, ?_⟩
  · intro point present keyword mode kind
    obtain ⟨edit, member, same⟩ := Sequencing.ok_of_mapM_eq_ok mapped present
    obtain ⟨list, arguments, between⟩ := point.edit_between nested same kind
    exact ⟨edit, member, list, same, arguments, between⟩
  · intro injection injected
    obtain ⟨again, applied, _⟩ := inject_eq_ok injected
    rw [made] at again
    cases again
    have adds : ∀ edit ∈ TextEdit.ordered injection.edits, edit.Keeps tree.source ∨
        (Text.slice tree.source edit.start edit.stop = "None".toList ∧
          ∃ point ∈ plan.points, point.edit tree = .ok edit ∧
            point.MergesOverNone tree edit) := by
      intro edit member
      obtain ⟨point, present, same, kept | merged⟩ := keeping edit (TextEdit.mem_ordered.mp member)
      · exact Or.inl kept
      · refine Or.inr ⟨?_, point, present, same, merged⟩
        obtain ⟨_, _, value, _, _, _, none, starts, stops⟩ := merged
        rw [starts, stops]
        exact none
    obtain ⟨pieces, originals, writtens, exempted⟩ :=
      (applyEdits_woven applied).pieces tree.source [] rfl rfl adds
    refine ⟨pieces, originals, writtens, ?_⟩
    intro text member
    obtain ⟨edit, present, merged, same⟩ := exempted text member
    exact ⟨edit, TextEdit.mem_ordered.mp present, same, merged⟩

def commentedList : Node :=
  .mk .argumentList 1 12 (some .arguments) false
    [.leaf (.token "(") 1 2, .leaf .identifier 5 6, .leaf .comment 7 10, .leaf (.token ")") 11 12]

def commentedTree : SyntaxTree :=
  { source := "f(\n  a # b\n)\n".toList
    root := .mk .moduleRoot 0 13 none false
      [.mk .expressionStatement 0 12 none false
        [.mk .call 0 12 none false
          [.mk .identifier 0 1 (some .function) false [], commentedList]]] }

def hooksPlan : EditPlan :=
  { path := "agent.py"
    points := [{ anchor := ⟨"call", [0, 0]⟩, kind := .argument "hooks" .list, payload := "h"
                 patternId := "p", line := 1 }] }

theorem editsFor_adds_commented :
    commentedTree.root.isNested = true ∧
      ∃ edit, editsFor commentedTree hooksPlan = .ok [edit] ∧ edit.Keeps commentedTree.source ∧
        edit.Between commentedList := by
  have nested : commentedTree.root.isNested = true := by decide
  have made : editsFor commentedTree hooksPlan =
      .ok [.replace 0 6 10 ", # b\n  hooks=[h]".toList] := by rfl
  have bracketed : commentedTree.Bracketed := by unfold SyntaxTree.Bracketed; decide
  have closes : commentedTree.EndsInFiller commentedList := by
    intro last ends
    cases ends
    refine ⟨"f(\n  a".toList, " # b\n".toList, "\n".toList, by decide, ?_, by decide, by decide⟩
    exact .blank true ' ' _ (Or.inl (by decide)) (.comment true " b".toList [] (by decide) (.nil true))
  obtain ⟨_, between, _⟩ := editsFor_adds nested made
  obtain ⟨edit, member, list, _, ⟨call, found, listed⟩, inside⟩ :=
    between _ List.mem_cons_self "hooks" .list rfl
  cases List.mem_singleton.mp member
  cases found
  cases listed
  exact ⟨nested, _, made, ⟨[','], "\n  hooks=[h]".toList, by decide⟩,
    inside bracketed (by decide) closes⟩

end AgentProbe
