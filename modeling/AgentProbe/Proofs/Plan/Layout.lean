import Mathlib.Data.List.Chain
import AgentProbe.Proofs.Plan.Preservation
import AgentProbe.Proofs.Syntax.Anchor
import AgentProbe.Proofs.Syntax.Position

set_option autoImplicit false

/-!
How the nodes of a file lie in its text.

In a file without errors, nodes start and end between characters, a call is in a construct other than
a comment, and a statement starts where no comment hides it.  So module-level code, which goes to the
end of a line or to the top of the module, never goes into a call.
-/

namespace AgentProbe

open Syntax (SyntaxTree Node)

/-! ### Offsets -/

theorem Text.le_bytes_of_isBoundary {text : Text} {offset : Nat}
    (boundary : Text.isBoundary text offset = true) : offset ≤ Text.bytes text := by
  obtain ⟨before, after, rfl, rfl⟩ := Text.isBoundary_iff.mp boundary
  rw [Text.bytes_append]
  exact Nat.le_add_right _ _

theorem isBoundary_endOfLine {source : Text} {offset : Nat}
    (boundary : Text.isBoundary source offset = true) :
    Text.isBoundary source (endOfLine source offset) = true := by
  rcases endOfLine_cases source offset with same | ⟨moved, _⟩
  · rw [same]
    exact boundary
  · obtain ⟨before, after, rfl, rfl⟩ := Text.isBoundary_iff.mp boundary
    rw [moved, Text.isBoundary_iff, restOfLine, Text.since_append]
    refine ⟨before ++ after.takeWhile (· != '\n'), after.dropWhile (· != '\n'), ?_, ?_⟩
    · rw [List.append_assoc, List.takeWhile_append_dropWhile]
    · exact Text.bytes_append _ _

/-- Whether a node starts on a later line than an offset, or where no comment hides it. -/
def Syntax.SyntaxTree.shows (tree : SyntaxTree) (offset : Nat) (node : Node) : Bool :=
  let gap := Text.slice tree.source offset node.start
  gap.contains '\n'
    || (!gap.contains '#' && (tree.text node).head?.any fun c => !isBlank c && c != '#')

theorem endOfLine_le_of_newline {gap : Text} (ends : '\n' ∈ gap) (before after : Text) :
    endOfLine (before ++ (gap ++ after)) (Text.bytes before) ≤
      Text.bytes before + Text.bytes gap := by
  rcases endOfLine_cases (before ++ (gap ++ after)) (Text.bytes before) with same | ⟨moved, _⟩
  · omega
  · obtain ⟨first, second, rfl, oneLine⟩ := List.eq_append_cons_of_mem ends
    have line : ((first ++ '\n' :: second) ++ after).takeWhile (· != '\n') = first := by
      rw [List.append_assoc, takeWhile_line oneLine]
      exact List.append_nil first
    rw [moved, restOfLine, Text.since_append, line, Text.bytes_append]
    omega

/-- An offset does not move over text that is neither blank nor in a comment. -/
theorem endOfLine_of_solid {gap : Text} {c : Char} (oneLine : '\n' ∉ gap) (clean : '#' ∉ gap)
    (solid : isBlank c = false) (other : c ≠ '#') (before after : Text) :
    endOfLine (before ++ (gap ++ c :: after)) (Text.bytes before) = Text.bytes before := by
  rcases endOfLine_cases (before ++ (gap ++ c :: after)) (Text.bytes before) with
    same | ⟨_, skipped⟩
  · exact same
  exfalso
  -- The character is on the line, so neither blanks nor a comment can reach over it.
  have onLine : (c :: after).takeWhile (· != '\n') = c :: after.takeWhile (· != '\n') := by
    refine List.takeWhile_cons_of_pos ?_
    simp only [bne_iff_ne]
    rintro rfl
    exact absurd solid (by decide)
  rw [restOfLine, Text.since_append, takeWhile_line oneLine, onLine] at skipped
  rcases skipped with blank | ⟨blanks, comment, split, blank⟩
  · rw [blank c (by simp)] at solid
    cases solid
  · rcases List.append_eq_append_iff.mp split with ⟨middle, longer, rest⟩ | ⟨middle, longer, rest⟩
    · cases middle with
      | nil => exact other (List.cons.inj rest).1
      | cons head middle =>
          rw [List.cons_append, List.cons.injEq] at rest
          rw [blank c (by rw [longer, rest.1]; simp)] at solid
          cases solid
    · cases middle with
      | nil => exact other (List.cons.inj rest).1.symm
      | cons head middle =>
          rw [List.cons_append, List.cons.injEq] at rest
          exact clean (by rw [longer, rest.1]; simp)

theorem Syntax.SyntaxTree.since_of_head {tree : SyntaxTree} {node : Node} {c : Char}
    (first : (tree.text node).head? = some c) :
    ∃ after, Text.since tree.source node.start = c :: after := by
  obtain ⟨rest, same⟩ := List.head?_eq_some_iff.mp first
  obtain ⟨before, after, split, size, _⟩ := Text.slice_eq_some (List.cons_ne_nil c rest) same
  refine ⟨rest ++ after, ?_⟩
  rw [split, ← size, Text.since_append, List.cons_append]

theorem endOfLine_le_of_shows {tree : SyntaxTree} {offset : Nat} {node : Node}
    (opens : Text.isBoundary tree.source offset = true)
    (starts : Text.isBoundary tree.source node.start = true) (before : offset ≤ node.start)
    (shown : tree.shows offset node = true) : endOfLine tree.source offset ≤ node.start := by
  obtain ⟨front, tail, cutting, frontSize⟩ := Text.isBoundary_iff.mp opens
  obtain ⟨ahead, after, split, aheadSize⟩ := Text.isBoundary_iff.mp starts
  obtain ⟨gap, rfl, rfl⟩ := Text.split_of_bytes_le (cutting.symm.trans split) (by omega)
  have following : Text.since tree.source node.start = after := by
    rw [split, ← aheadSize, Text.since_append]
  rw [Text.bytes_append, frontSize] at aheadSize
  have between : Text.slice tree.source offset node.start = gap := by
    rw [cutting, ← aheadSize, ← frontSize, Text.slice_append]
  rw [cutting, ← frontSize]
  by_cases ends : '\n' ∈ gap
  · have bound := endOfLine_le_of_newline ends front after
    omega
  · simp only [SyntaxTree.shows, between, List.contains_eq_mem, ends, decide_false, Bool.false_or,
      Bool.and_eq_true, Bool.not_eq_true', decide_eq_false_iff_not] at shown
    obtain ⟨clean, visible⟩ := shown
    cases first : (tree.text node).head? with
    | none =>
        rw [first] at visible
        cases visible
    | some c =>
        rw [first, Option.any_some, Bool.and_eq_true, Bool.not_eq_true', bne_iff_ne] at visible
        obtain ⟨rest, starting⟩ := SyntaxTree.since_of_head first
        rw [following] at starting
        rw [starting, endOfLine_of_solid ends clean visible.1 visible.2]
        omega

/-! ### Nodes in the text -/

def Syntax.SyntaxTree.topLevel (tree : SyntaxTree) : List Node :=
  tree.root.children.filter fun node => node.kind != .comment

/-- How nodes are placed in the text of a file without errors. -/
structure Syntax.SyntaxTree.WellPlaced (tree : SyntaxTree) : Prop extends tree.WellSpanned where
  delimited : ∀ node ∈ tree.nodes,
    Text.isBoundary tree.source node.start = true ∧ Text.isBoundary tree.source node.stop = true
  opened : ∀ node ∈ tree.nodes, node.kind = .listDisplay →
    Text.isBoundary tree.source (node.start + 1) = true
  closed : ∀ node ∈ tree.nodes, ∀ list, node.child? .arguments = some list →
    tree.EndsInFiller list
  bare : ∀ node ∈ tree.nodes, node.kind.isNamed = false ∨ node.kind = .comment →
    ∀ child ∈ node.children, child.kind.isNamed = false
  spaced : tree.topLevel.IsChain fun node next => tree.shows node.stop next = true

/-- A parenthesis right behind the last argument leaves room for the empty filler only. -/
theorem Syntax.SyntaxTree.endsInFiller_of_adjacent {tree : SyntaxTree} {list : Node}
    (adjacent : ((contents list).getLast?.all fun last =>
      Text.slice tree.source last.stop list.stop == [')']) = true) : tree.EndsInFiller list := by
  intro last ends
  rw [ends, Option.all_some, beq_iff_eq] at adjacent
  obtain ⟨before, after, split, size, stops⟩ := Text.slice_eq_some (List.cons_ne_nil _ _) adjacent
  refine ⟨before, [], after, split, .nil true, size, ?_⟩
  rw [← stops, size]
  rfl

/-- Where every argument list ends right behind its last argument, placement can be decided node by
node. -/
theorem Syntax.SyntaxTree.wellPlaced_of_adjacent {tree : SyntaxTree}
    (nested : tree.root.isNested = true)
    (each : ∀ node ∈ tree.nodes,
      (Text.isBoundary tree.source node.start = true ∧
        Text.isBoundary tree.source node.stop = true) ∧
      (node.kind = .listDisplay →
        node.start < node.stop ∧ Text.isBoundary tree.source (node.start + 1) = true) ∧
      (node.child? .arguments).all (fun list => list.isEnclosed "(" ")" &&
        (contents list).getLast?.all fun last =>
          Text.slice tree.source last.stop list.stop == [')']) = true ∧
      (node.kind.isNamed = false ∨ node.kind = .comment →
        ∀ child ∈ node.children, child.kind.isNamed = false))
    (spaced : tree.topLevel.IsChain fun node next => tree.shows node.stop next = true) :
    tree.WellPlaced := by
  have lists : ∀ node ∈ tree.nodes, ∀ list, node.child? .arguments = some list →
      list.isEnclosed "(" ")" = true ∧ tree.EndsInFiller list := by
    intro node member list listed
    have closing := (each node member).2.2.1
    rw [listed, Option.all_some, Bool.and_eq_true] at closing
    exact ⟨closing.1, endsInFiller_of_adjacent closing.2⟩
  constructor
  case toWellSpanned =>
    refine ⟨nested, fun node member display => ((each node member).2.1 display).1, ?_⟩
    intro node member
    cases listed : node.child? .arguments with
    | none => rfl
    | some list => exact (lists node member list listed).1
  case delimited => exact fun node member => (each node member).1
  case opened => exact fun node member display => ((each node member).2.1 display).2
  case closed => exact fun node member list listed => (lists node member list listed).2
  case bare => exact fun node member => (each node member).2.2.2
  case spaced => exact spaced

namespace Syntax.SyntaxTree.WellPlaced

variable {tree : SyntaxTree} {node below : Node}

theorem nested_under (placed : tree.WellPlaced) (under : node.Under tree.root) :
    node.isNested = true :=
  Node.isNested_under placed.nested under

theorem delimited_under (placed : tree.WellPlaced) (under : node.Under tree.root) :
    Text.isBoundary tree.source node.start = true ∧
      Text.isBoundary tree.source node.stop = true :=
  placed.delimited node (mem_nodes_of_under under)

theorem enclosed (placed : tree.WellPlaced) (under : node.Under tree.root) {list : Node}
    (listed : node.child? .arguments = some list) : list.isEnclosed "(" ")" = true := by
  have enclosed := placed.parenthesized node (mem_nodes_of_under under)
  rw [listed, Option.all_some] at enclosed
  exact enclosed

/-- Below a token or a comment there are only tokens. -/
theorem unnamed_below (placed : tree.WellPlaced) (under : node.Under tree.root)
    (plain : node.kind.isNamed = false ∨ node.kind = .comment) {path : List Nat}
    (reached : node.at? path = some below) (proper : path ≠ []) : below.kind.isNamed = false := by
  induction path generalizing node with
  | nil => exact absurd rfl proper
  | cons index path ih =>
      rw [Node.at?_cons] at reached
      obtain ⟨child, found, inner⟩ := Option.bind_eq_some_iff.mp reached
      have member := List.mem_of_getElem? found
      have unnamed := placed.bare node (mem_nodes_of_under under) plain child member
      by_cases last : path = []
      · subst last
        cases inner
        exact unnamed
      · exact ih (under.child member) (Or.inl unnamed) inner last

/-- A node with a call in it is a construct other than a comment. -/
theorem named_of_call (placed : tree.WellPlaced) (under : node.Under tree.root)
    (inside : below.Under node) (isCall : below.kind = .call) :
    node.kind.isNamed = true ∧ node.kind ≠ .comment := by
  obtain ⟨path, reached⟩ := inside
  have construct : ¬ (node.kind.isNamed = false ∨ node.kind = .comment) := by
    intro plain
    by_cases here : path = []
    · subst here
      cases reached
      rw [isCall] at plain
      revert plain
      decide
    · have unnamed := placed.unnamed_below under plain reached here
      rw [isCall] at unnamed
      cases unnamed
  simpa using construct

/-- A call inside a node does not reach behind the last of the node's contents. -/
theorem last_content (placed : tree.WellPlaced) (under : node.Under tree.root)
    (inside : below.Under node) (isCall : below.kind = .call) (other : node.kind ≠ .call) :
    ∃ last, (contents node).getLast? = some last ∧ below.stop ≤ last.stop := by
  obtain ⟨child, member, inChild⟩ := inside.below_child (by rw [isCall]; exact other.symm)
  have childUnder := under.child member
  obtain ⟨named, noComment⟩ := placed.named_of_call childUnder inChild isCall
  have content : child ∈ contents node :=
    List.mem_filter.mpr ⟨List.mem_filter.mpr ⟨member, named⟩, bne_iff_ne.mpr noComment⟩
  obtain ⟨last, ends⟩ := Option.isSome_iff_exists.mp
    (List.getLast?_isSome.mpr (List.ne_nil_of_mem content))
  have ordered : Node.areNested node.start node.stop (contents node) = true :=
    Node.areNested_sublist (List.filter_sublist.trans List.filter_sublist)
      (Node.areNested_children (placed.nested_under under))
  have reach := Node.stop_le_getLast ordered ends content
  have bounds := Node.under_within (placed.nested_under childUnder) inChild
  exact ⟨last, ends, by omega⟩

end Syntax.SyntaxTree.WellPlaced

/-! ### Statements and calls -/

namespace Syntax.SyntaxTree

variable {tree : SyntaxTree} {node call : Node} {before after : List Node}

namespace WellPlaced

variable (placed : tree.WellPlaced)

include placed

theorem endOfLine_le_of_isChain {low high : Nat} {nodes : List Node}
    (under : ∀ other ∈ node :: nodes, other.Under tree.root)
    (nested : Node.areNested low high (node :: nodes) = true)
    (chain : (node :: nodes).IsChain fun node next => tree.shows node.stop next = true) :
    ∀ later ∈ nodes, endOfLine tree.source node.stop ≤ later.start := by
  intro later member
  obtain ⟨_, _, nested⟩ := Node.areNested_cons nested
  cases nodes with
  | nil => cases member
  | cons next rest =>
      obtain ⟨order, nextNested, nested⟩ := Node.areNested_cons nested
      have reach := endOfLine_le_of_shows
        (placed.delimited_under (under node List.mem_cons_self)).2
        (placed.delimited_under (under next (List.mem_cons_of_mem node List.mem_cons_self))).1
        order (List.isChain_cons_cons.mp chain).1
      rcases List.mem_cons.mp member with rfl | further
      · exact reach
      · have ahead := (Node.areNested_mem nested further).1
        have forward := Node.start_le_stop nextNested
        omega

theorem endOfLine_le (split : tree.root.children = before ++ node :: after)
    (plain : node.kind ≠ .comment) {later : Node} (member : later ∈ after)
    (visible : later.kind ≠ .comment) : endOfLine tree.source node.stop ≤ later.start := by
  have stays : (node.kind != .comment) = true := bne_iff_ne.mpr plain
  have shape : tree.topLevel = before.filter (fun node => node.kind != .comment) ++
      node :: after.filter (fun node => node.kind != .comment) := by
    rw [topLevel, split, List.filter_append, List.filter_cons, if_pos stays]
  have nested : Node.areNested tree.root.start tree.root.stop tree.topLevel = true :=
    Node.areNested_sublist List.filter_sublist (Node.areNested_children placed.nested)
  have chain := placed.spaced
  rw [shape] at nested chain
  obtain ⟨_, _, nested⟩ := Node.areNested_append nested
  refine placed.endOfLine_le_of_isChain ?_ nested chain.right_of_append later
    (List.mem_filter.mpr ⟨member, bne_iff_ne.mpr visible⟩)
  intro other present
  have listed : other ∈ tree.topLevel := by
    rw [shape]
    exact List.mem_append_right _ present
  exact (Node.Under.refl _).child (List.mem_of_mem_filter listed)

theorem isBoundary_moduleStart : Text.isBoundary tree.source tree.moduleStart = true := by
  unfold moduleStart
  cases found : tree.root.namedChildren.find? fun child => child.kind != .comment with
  | none => exact Text.isBoundary_iff.mpr ⟨tree.source, [], (List.append_nil _).symm, rfl⟩
  | some first =>
      have member := Node.mem_children_of_namedChildren (List.mem_of_find?_eq_some found)
      exact (placed.delimited_under ((Node.Under.refl _).child member)).1

variable (rooted : tree.root.kind.name = "module") (callUnder : call.Under tree.root)
  (isCall : call.kind = .call)

include rooted callUnder isCall

theorem statement_of_call :
    ∃ statement ∈ tree.root.children, call.Under statement ∧
      statement.start ≤ call.start ∧ call.stop ≤ statement.stop ∧
      statement.kind.isNamed = true ∧ statement.kind ≠ .comment := by
  have other : call.kind ≠ tree.root.kind := by
    intro same
    rw [← same, isCall] at rooted
    exact absurd rooted (by decide)
  obtain ⟨statement, member, inside⟩ := callUnder.below_child other
  have statementUnder := (Node.Under.refl tree.root).child member
  obtain ⟨starts, _, stops⟩ := Node.under_within (placed.nested_under statementUnder) inside
  exact ⟨statement, member, inside, starts, stops,
    placed.named_of_call statementUnder inside isCall⟩

theorem moduleStart_le : tree.moduleStart ≤ call.start := by
  obtain ⟨statement, member, _, starts, _, named, plain⟩ :=
    placed.statement_of_call rooted callUnder isCall
  have listed : statement ∈ tree.root.namedChildren := List.mem_filter.mpr ⟨member, named⟩
  have nested : Node.areNested tree.root.start tree.root.stop tree.root.namedChildren = true :=
    Node.areNested_sublist List.filter_sublist (Node.areNested_children placed.nested)
  unfold moduleStart
  cases found : tree.root.namedChildren.find? fun child => child.kind != .comment with
  | none => exact absurd (bne_iff_ne.mpr plain) (List.find?_eq_none.mp found statement listed)
  | some first =>
      obtain ⟨_, skipped, rest, shape, comments⟩ := List.find?_eq_some_iff_append.mp found
      rw [shape] at listed nested
      obtain ⟨_, forward, behind⟩ := Node.areNested_around nested
      dsimp only
      rcases List.mem_append.mp listed with early | present
      · have comment := comments statement early
        simp [plain] at comment
      · rcases List.mem_cons.mp present with rfl | later
        · exact starts
        · exact (forward.trans (behind statement later)).trans starts

/-- A call is in front of the end of the anchor statement, or behind the end of its line. -/
theorem call_beside (anchor : tree.IsAnchor before node after) :
    call.stop ≤ node.stop ∨ endOfLine tree.source node.stop ≤ call.start := by
  obtain ⟨split, _, plain, _, _⟩ := anchor
  obtain ⟨statement, member, _, starts, stops, _, visible⟩ :=
    placed.statement_of_call rooted callUnder isCall
  have nested := Node.areNested_children placed.nested
  rw [split] at member nested
  obtain ⟨ahead, forward, _⟩ := Node.areNested_around nested
  rcases List.mem_append.mp member with early | rest
  · have bound := ahead statement early
    exact Or.inl (by omega)
  · rcases List.mem_cons.mp rest with rfl | later
    · exact Or.inl stops
    · have bound := placed.endOfLine_le split plain later visible
      exact Or.inr (Nat.le_trans bound starts)

end WellPlaced

end Syntax.SyntaxTree

end AgentProbe
