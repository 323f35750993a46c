import AgentProbe.Proofs.Plan.Layout

set_option autoImplicit false

/-!
Where the edits of a plan lie.

Every edit starts and ends between characters.  An argument edit is inside its own call, and on one
side of every call in it unless it wraps a value that holds the call.  Statements go on one side of
every call.
-/

namespace AgentProbe

open Syntax (SyntaxTree Node)

/-! ### Ends of edits -/

def TextEdit.Delimited (source : Text) (edit : TextEdit) : Prop :=
  Text.isBoundary source edit.start = true ∧ Text.isBoundary source edit.stop = true

theorem TextEdit.Delimited.insert {source : Text} {offset : Nat}
    (boundary : Text.isBoundary source offset = true) (id : Nat) (text : Text) (rank : Nat) :
    (TextEdit.insert id offset text rank).Delimited source :=
  ⟨boundary, boundary⟩

section Ends

variable {tree : SyntaxTree} {value list : Node}

theorem mergeEdit_delimited (placed : tree.WellPlaced) (under : value.Under tree.root) (id : Nat)
    (expression : Text) : (mergeEdit tree id value expression).Delimited tree.source := by
  unfold mergeEdit
  split
  · rename_i isList
    split
    · rename_i last ends
      have lastUnder := under.child (mem_contents (List.mem_of_getLast? ends)).1
      exact .insert (placed.delimited_under lastUnder).2 _ _ _
    · exact .insert (placed.opened value (SyntaxTree.mem_nodes_of_under under) (eq_of_beq isList))
        _ _ _
  · exact placed.delimited_under under

theorem appendEdit_delimited (placed : tree.WellPlaced) (under : list.Under tree.root)
    (enclosed : list.isEnclosed "(" ")" = true) (id : Nat) (entry : Text) :
    (appendEdit tree id list entry).Delimited tree.source := by
  simp only [appendEdit]
  cases ends : (contents list).getLast? with
  | none =>
      obtain ⟨first, middle, last, children, _, _, _, closing⟩ := Node.isEnclosed_split enclosed
      have lastUnder : last.Under tree.root := under.child (by rw [children]; simp)
      have boundary := (placed.delimited_under lastUnder).1
      rw [show last.start = list.stop - 1 by omega] at boundary
      exact .insert boundary _ _ _
  | some last =>
      have lastUnder := under.child (mem_contents (List.mem_of_getLast? ends)).1
      have boundary := (placed.delimited_under lastUnder).2
      dsimp only
      split
      · exact .insert boundary _ _ _
      · split
        · rename_i comma found
          have commaUnder := under.child (List.mem_of_find?_eq_some found)
          exact .insert (isBoundary_endOfLine (placed.delimited_under commaUnder).2) _ _ _
        · exact ⟨boundary, isBoundary_endOfLine boundary⟩

theorem last_le_appendEdit {last : Node} (nested : list.isNested = true)
    (ends : (contents list).getLast? = some last) (id : Nat) (entry : Text) :
    last.stop ≤ (appendEdit tree id list entry).start := by
  simp only [appendEdit, ends]
  split
  · exact Nat.le_refl _
  · split
    · rename_i comma found
      have matched := List.find?_some found
      simp only [Bool.and_eq_true, decide_eq_true_eq] at matched
      have inside := List.mem_of_find?_eq_some found
      have wide := Node.start_le_stop (Node.isNested_child nested inside).2.1
      have onward := le_endOfLine tree.source comma.stop
      simp only [TextEdit.insert]
      omega
    · exact Nat.le_refl _

end Ends

/-! ### Argument edits and other calls -/

/-- The span of an edit and the span of a node have no byte in common. -/
def TextEdit.Outside (edit : TextEdit) (node : Node) : Prop :=
  edit.stop ≤ node.start ∨ node.stop ≤ edit.start

theorem TextEdit.Outside.of_apart {edit : TextEdit} {node other : Node} (apart : other.Apart node)
    (low : node.start ≤ edit.start) (high : edit.stop ≤ node.stop) : edit.Outside other := by
  rcases apart with before | after
  · exact Or.inr (Nat.le_trans before low)
  · exact Or.inl (Nat.le_trans high after)

section Inner

variable {tree : SyntaxTree} {value list inner : Node} (placed : tree.WellPlaced)
  (isCall : inner.kind = .call)

include placed isCall

theorem appendEdit_outside (under : list.Under tree.root) (isList : list.kind = .argumentList)
    (inside : inner.Under list) (id : Nat) (entry : Text) :
    (appendEdit tree id list entry).Outside inner := by
  obtain ⟨last, ends, reach⟩ :=
    placed.last_content under inside isCall (by rw [isList]; decide)
  exact Or.inr (reach.trans (last_le_appendEdit (placed.nested_under under) ends id entry))

theorem mergeEdit_outside (under : value.Under tree.root) (display : value.kind = .listDisplay)
    (inside : inner.Under value) (id : Nat) (expression : Text) :
    (mergeEdit tree id value expression).Outside inner := by
  obtain ⟨last, ends, reach⟩ :=
    placed.last_content under inside isCall (by rw [display]; decide)
  rw [mergeEdit, if_pos (beq_iff_eq.mpr display), ends]
  exact Or.inr reach

end Inner

def keywordValue? (tree : SyntaxTree) (list : Node) (keyword : String) : Option Node :=
  ((contents list).find? fun argument =>
    argument.kind == .keywordArgument
      && (argument.child? .name).map tree.textOf == some keyword).bind fun argument =>
    argument.child? .value

theorem ValueOf.under {tree : SyntaxTree} {list value root : Node} {keyword : String}
    (valued : ValueOf tree list keyword value) (under : list.Under root) : value.Under root := by
  obtain ⟨argument, present, _, _, valued⟩ := valued
  exact (under.child (mem_contents present).1).child (Node.mem_children_of_child? valued)

/-- A call in an argument list, or apart from it, is in a value of the list or apart from that. -/
theorem ValueOf.under_or_apart {tree : SyntaxTree} {list value inner : Node} {keyword : String}
    (valued : ValueOf tree list keyword value) (nested : list.isNested = true)
    (isList : list.kind = .argumentList) (isCall : inner.kind = .call)
    (place : inner.Under list ∨ inner.Apart list) : inner.Under value ∨ inner.Apart value := by
  obtain ⟨argument, present, isKeyword, _, valued⟩ := valued
  have argumentMember := (mem_contents present).1
  have valueMember := Node.mem_children_of_child? valued
  have argumentNested := (Node.isNested_child nested argumentMember).2.1
  rcases place with inside | apart
  · rcases inside.under_or_apart nested (by rw [isCall, isList]; decide) argumentMember with
      inside | apart
    · exact inside.under_or_apart argumentNested (by rw [isCall, isKeyword]; decide) valueMember
    · exact Or.inr (apart.of_child argumentNested valueMember)
  · exact Or.inr ((apart.of_child nested argumentMember).of_child argumentNested valueMember)

theorem valueOf_of_keywordValue? {tree : SyntaxTree} {list value : Node} {keyword : String}
    (found : keywordValue? tree list keyword = some value) : ValueOf tree list keyword value := by
  obtain ⟨argument, present, valued⟩ := Option.bind_eq_some_iff.mp found
  have matched := List.find?_some present
  simp only [Bool.and_eq_true, beq_iff_eq] at matched
  exact ⟨argument, List.mem_of_find?_eq_some present, matched.1, matched.2, valued⟩

/-- An argument edit merges into the first value that the list gives to the keyword; without one it
appends an entry. -/
theorem argumentEdit_first {tree : SyntaxTree} {call : Node} {point : InjectionPoint}
    {keyword : String} {mode : MergeMode} {edit : TextEdit}
    (made : argumentEdit tree call point keyword mode = .ok edit) :
    ∃ list, call.child? .arguments = some list ∧ list.kind = .argumentList ∧
      ((∃ value, mode = .list ∧ keywordValue? tree list keyword = some value ∧
          edit = mergeEdit tree point.id value point.payload.toList) ∨
        (keywordValue? tree list keyword = none ∧
          ∃ entry, edit = appendEdit tree point.id list entry)) := by
  simp only [argumentEdit] at made
  cases arguments : call.child? .arguments with
  | none =>
      rw [arguments] at made
      cases made
  | some list =>
      rw [arguments] at made
      dsimp only at made
      split at made
      · cases made
      · rename_i isList
        refine ⟨list, rfl, by simpa using isList, ?_⟩
        unfold keywordValue?
        cases existing : (contents list).find? fun argument =>
            argument.kind == .keywordArgument
              && (argument.child? .name).map tree.textOf == some keyword with
        | none =>
            rw [existing] at made
            cases made
            exact Or.inr ⟨rfl, _, rfl⟩
        | some argument =>
            rw [existing] at made
            dsimp only at made
            cases mode with
            | value => cases made
            | list =>
                cases valued : argument.child? .value with
                | none =>
                    rw [valued] at made
                    cases made
                | some value =>
                    rw [valued] at made
                    cases made
                    exact Or.inl ⟨value, rfl, valued, rfl⟩

namespace InjectionPoint

variable {tree : SyntaxTree} {point : InjectionPoint} {edit : TextEdit} {keyword : String}
  {mode : MergeMode}

/-- The value that a point wraps into a new list: in list mode, the value that its call gives to the
keyword, unless it is a list display and the list grows in place. -/
def wrapped? (tree : SyntaxTree) (point : InjectionPoint) : Option Node :=
  match point.kind with
  | .argument keyword .list =>
    ((tree.resolve point.anchor).bind fun call =>
      (call.child? .arguments).bind fun list =>
        keywordValue? tree list keyword).filter fun value => value.kind != .listDisplay
  | _ => none

theorem wrapped?_eq {call list : Node} (kind : point.kind = .argument keyword .list)
    (found : tree.resolve point.anchor = some call)
    (listed : call.child? .arguments = some list) :
    point.wrapped? tree =
      (keywordValue? tree list keyword).filter fun value => value.kind != .listDisplay := by
  simp only [wrapped?, kind, found, listed, Option.bind_some]

/-- What an argument edit is: it merges into a value, which it wraps unless it is a list display, or it
appends an entry to the argument list. -/
theorem edit_of_argument (made : point.edit tree = .ok edit)
    (kind : point.kind = .argument keyword mode) :
    ∃ call list, tree.resolve point.anchor = some call ∧ call.child? .arguments = some list ∧
      list.kind = .argumentList ∧
      ((∃ value, ValueOf tree list keyword value ∧
          edit = mergeEdit tree point.id value point.payload.toList ∧
          point.wrapped? tree = if value.kind = .listDisplay then none else some value) ∨
        (∃ entry, edit = appendEdit tree point.id list entry) ∧ point.wrapped? tree = none) := by
  obtain ⟨call, resolved, shaped⟩ := Sequencing.bind_eq_ok.mp made
  rw [kind] at shaped
  have found := resolve_eq_ok resolved
  obtain ⟨list, listed, isList, ⟨value, rfl, first, rfl⟩ | ⟨missing, entry, rfl⟩⟩ :=
    argumentEdit_first shaped
  · refine ⟨call, list, found, listed, isList,
      Or.inl ⟨value, valueOf_of_keywordValue? first, rfl, ?_⟩⟩
    rw [wrapped?_eq kind found listed, first, Option.filter_some]
    simp only [bne_iff_ne, ne_eq, ite_not]
  · refine ⟨call, list, found, listed, isList, Or.inr ⟨⟨entry, rfl⟩, ?_⟩⟩
    cases mode with
    | value => simp only [wrapped?, kind]
    | list => rw [wrapped?_eq kind found listed, missing, Option.filter_none]

theorem edit_of_wrapped {value : Node} (made : point.edit tree = .ok edit)
    (wraps : point.wrapped? tree = some value) : edit.start = value.start ∧ edit.stop = value.stop := by
  cases kind : point.kind with
  | insertImport => simp only [wrapped?, kind, reduceCtorEq] at wraps
  | insertAfter => simp only [wrapped?, kind, reduceCtorEq] at wraps
  | argument keyword mode =>
      obtain ⟨_, _, _, _, _, ⟨other, _, rfl, same⟩ | ⟨_, none⟩⟩ := edit_of_argument made kind
      · rw [same] at wraps
        split at wraps
        · cases wraps
        · rename_i noDisplay
          cases wraps
          rw [mergeEdit, if_neg (by simpa using noDisplay)]
          exact ⟨rfl, rfl⟩
      · rw [none] at wraps
        cases wraps

theorem IsForCall.reached (forCall : point.IsForCall tree) :
    ∃ call keyword mode, tree.resolve point.anchor = some call ∧ call.kind = .call ∧
      point.anchor.kind = "call" ∧ point.kind = .argument keyword mode := by
  obtain ⟨call, rule, member, _, anchored, kind⟩ := forCall
  obtain ⟨node, path, reached, read⟩ := SyntaxTree.mem_allCalls member
  obtain ⟨isCall, place, _⟩ := SyntaxTree.callAt_eq_some read
  rw [anchored, place]
  refine ⟨node, rule.keyword, rule.mode, reached, isCall, ?_, kind⟩
  rw [Syntax.NodeRef.of, isCall]
  rfl

section Argument

variable (placed : tree.WellPlaced) (made : point.edit tree = .ok edit)
  (kind : point.kind = .argument keyword mode)

include placed made kind

theorem delimited_of_argument : edit.Delimited tree.source := by
  obtain ⟨call, list, found, listed, _, shape⟩ := edit_of_argument made kind
  have callUnder : call.Under tree.root := ⟨point.anchor.path, found⟩
  have listUnder := callUnder.child (Node.mem_children_of_child? listed)
  rcases shape with ⟨value, valued, rfl, _⟩ | ⟨⟨entry, rfl⟩, _⟩
  · exact mergeEdit_delimited placed (valued.under listUnder) _ _
  · exact appendEdit_delimited placed listUnder (placed.enclosed callUnder listed) _ _

theorem inside_of_argument {call : Node} (found : tree.resolve point.anchor = some call) :
    call.start < edit.start ∧ edit.start ≤ edit.stop ∧ edit.stop < call.stop := by
  obtain ⟨list, ⟨again, same, listed⟩, inside⟩ := edit_between placed.nested made kind
  rw [found] at same
  cases same
  have callUnder : call.Under tree.root := ⟨point.anchor.path, found⟩
  obtain ⟨low, forward, high⟩ := inside placed.bracketed (placed.enclosed callUnder listed)
    (placed.closed call (SyntaxTree.mem_nodes_of_under callUnder) list listed)
  obtain ⟨starts, _, stops⟩ := Node.isNested_child (placed.nested_under callUnder)
    (Node.mem_children_of_child? listed)
  omega

/-- An argument edit is on one side of every call inside its own, unless it wraps a value that the
other call is in. -/
theorem outside_of_argument {outer inner : Node} {path : List Nat}
    (found : tree.resolve point.anchor = some outer) (reached : outer.at? path = some inner)
    (proper : path ≠ []) (isCall : inner.kind = .call) :
    edit.Outside inner ∨
      ∃ value, point.wrapped? tree = some value ∧ value.start ≤ inner.start ∧
        inner.stop ≤ value.stop := by
  obtain ⟨call, list, again, listed, isList, shape⟩ := edit_of_argument made kind
  rw [found] at again
  cases again
  have outerUnder : outer.Under tree.root := ⟨point.anchor.path, found⟩
  have listMember := Node.mem_children_of_child? listed
  have listUnder := outerUnder.child listMember
  have listNested := placed.nested_under listUnder
  have inList := Node.under_or_apart (placed.nested_under outerUnder) listMember reached proper
  rcases shape with ⟨value, valued, rfl, wraps⟩ | ⟨⟨entry, rfl⟩, _⟩
  · have valueUnder := valued.under listUnder
    have valueNested := placed.nested_under valueUnder
    -- A list display grows behind the call that is in it; any other value is wrapped with it.
    rcases valued.under_or_apart listNested isList isCall inList with inside | apart
    · by_cases display : value.kind = .listDisplay
      · exact Or.inl (mergeEdit_outside placed isCall valueUnder display inside _ _)
      · rw [if_neg display] at wraps
        obtain ⟨starts, _, stops⟩ := Node.under_within valueNested inside
        exact Or.inr ⟨value, wraps, starts, stops⟩
    · obtain ⟨low, _, high⟩ := mergeEdit_within tree point.id point.payload.toList valueNested
        (placed.bracketed value (SyntaxTree.mem_nodes_of_under valueUnder))
      exact Or.inl (.of_apart apart low high)
  · rcases inList with inside | apart
    · exact Or.inl (appendEdit_outside placed isCall listUnder isList inside _ _)
    · have between : (appendEdit tree point.id list entry).Between list :=
        appendEdit_between listNested (placed.enclosed outerUnder listed)
          (placed.closed outer (SyntaxTree.mem_nodes_of_under outerUnder) list listed)
      obtain ⟨low, _, high⟩ := between
      exact Or.inl (.of_apart apart (by omega) (by omega))

end Argument

end InjectionPoint

/-! ### Statements -/

namespace InjectionPoint

variable {tree : SyntaxTree} {point : InjectionPoint} {edit : TextEdit}

section Statement

variable (made : point.edit tree = .ok edit)
  (kind : point.kind = .insertImport ∨ point.kind = .insertAfter)
  (anchored : point.anchor = tree.importAnchor)

include made kind

theorem insertion_of_statement : edit.start = edit.stop := by
  rcases edit_eq_ok made with ⟨inserts, _⟩ | ⟨_, _, _, argument, _⟩
  · exact inserts
  · rw [argument] at kind
    simp at kind

include anchored

/-- Statements go to the top of the module, or to the end of the line of the anchor statement. -/
theorem place_of_statement :
    (tree.leading = [] ∧ edit.start = tree.moduleStart) ∨
      ∃ before node after, tree.IsAnchor before node after ∧
        edit.start = endOfLine tree.source node.stop := by
  obtain ⟨node, found, place⟩ := start_of_statement made kind
  rw [anchored] at found place
  rcases tree.importAnchor_cases with ⟨atRoot, leads⟩ | ⟨before, statement, after, anchor⟩
  · rw [atRoot] at place
    exact Or.inl ⟨leads, place⟩
  · refine Or.inr ⟨before, statement, after, anchor, ?_⟩
    rw [anchor.anchored] at found place
    rw [SyntaxTree.resolve_child anchor.split] at found
    cases found
    exact place

theorem delimited_of_statement (placed : tree.WellPlaced) : edit.Delimited tree.source := by
  have inserts := insertion_of_statement made kind
  have boundary : Text.isBoundary tree.source edit.start = true := by
    rcases place_of_statement made kind anchored with
      ⟨_, place⟩ | ⟨before, node, after, anchor, place⟩
    · rw [place]
      exact placed.isBoundary_moduleStart
    · rw [place]
      have nodeUnder : node.Under tree.root :=
        (Node.Under.refl _).child (by rw [anchor.split]; simp)
      exact isBoundary_endOfLine (placed.delimited_under nodeUnder).2
  exact ⟨boundary, by rw [← inserts]; exact boundary⟩

theorem outside_of_statement (placed : tree.WellPlaced)
    (rooted : tree.root.kind.name = "module") {call : Node} (callUnder : call.Under tree.root)
    (isCall : call.kind = .call) : edit.Outside call := by
  have inserts := insertion_of_statement made kind
  unfold TextEdit.Outside
  rw [← inserts]
  rcases place_of_statement made kind anchored with
    ⟨_, place⟩ | ⟨before, node, after, anchor, place⟩
  · rw [place]
    exact Or.inl (placed.moduleStart_le rooted callUnder isCall)
  · rw [place]
    rcases placed.call_beside rooted callUnder isCall anchor with early | late
    · exact Or.inr (early.trans (le_endOfLine tree.source node.stop))
    · exact Or.inl late

end Statement

end InjectionPoint

end AgentProbe
