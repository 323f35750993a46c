import AgentProbe.Syntax.Query

set_option autoImplicit false

/-!
References and the nodes they lead to.

A traversal hands out every node with the path that leads to it, so a reference that is built from a
visit resolves to the visited node.  It gets to all nodes above which it enters, and to no others.
Calls are stated here by the nodes that they were built from.
-/

namespace AgentProbe.Syntax

namespace Node

@[simp] theorem at?_nil (node : Node) : node.at? [] = some node := rfl

theorem at?_cons (node : Node) (index : Nat) (path : List Nat) :
    node.at? (index :: path) = (node.children[index]?).bind fun child => child.at? path := by
  rw [at?]
  cases node.children[index]? <;> rfl

theorem at?_append (node : Node) (first second : List Nat) :
    node.at? (first ++ second) = (node.at? first).bind fun below => below.at? second := by
  induction first generalizing node with
  | nil => rfl
  | cons index rest ih =>
      rw [List.cons_append, at?_cons, at?_cons]
      cases node.children[index]? with
      | none => rfl
      | some child => exact ih child

def Under (below node : Node) : Prop :=
  ∃ path, node.at? path = some below

theorem Under.refl (node : Node) : Under node node :=
  ⟨[], rfl⟩

theorem Under.child {node parent child : Node} (under : Under parent node)
    (member : child ∈ parent.children) : Under child node := by
  obtain ⟨path, reached⟩ := under
  obtain ⟨index, found⟩ := List.mem_iff_getElem?.mp member
  refine ⟨path ++ [index], ?_⟩
  rw [at?_append, reached, Option.bind_some, at?_cons, found]
  rfl

theorem mem_children_of_child? {node child : Node} {role : Role}
    (found : node.child? role = some child) : child ∈ node.children :=
  List.mem_of_find?_eq_some found

theorem mem_children_of_namedChildren {node child : Node} (member : child ∈ node.namedChildren) :
    child ∈ node.children :=
  (List.mem_filter.mp member).1

mutual

theorem at?_of_mem_visits (enter : Node → Bool) (path : List Nat) :
    (node : Node) → (visit : Node × List Nat) → visit ∈ node.visits enter path →
      ∃ steps, visit.2 = path ++ steps ∧ node.at? steps = some visit.1
  | mk kind start stop role missing children, visit, member => by
      rw [visits] at member
      rcases List.mem_cons.mp member with rfl | below
      · exact ⟨[], by simp, rfl⟩
      · split at below
        · obtain ⟨index, steps, child, place, found, reached⟩ :=
            at?_of_mem_visitsIn enter path 0 children visit below
          refine ⟨index :: steps, by rw [place, Nat.zero_add], ?_⟩
          rw [at?_cons]
          change (children[index]?).bind _ = _
          rw [found]
          exact reached
        · cases below

theorem at?_of_mem_visitsIn (enter : Node → Bool) (path : List Nat) (first : Nat) :
    (nodes : List Node) → (visit : Node × List Nat) → visit ∈ visitsIn enter path first nodes →
      ∃ index steps child, visit.2 = path ++ (first + index) :: steps ∧
        nodes[index]? = some child ∧ child.at? steps = some visit.1
  | [], visit, member => by
      rw [visitsIn] at member
      cases member
  | node :: nodes, visit, member => by
      rw [visitsIn] at member
      rcases List.mem_append.mp member with here | later
      · obtain ⟨steps, place, reached⟩ :=
          at?_of_mem_visits enter (path ++ [first]) node visit here
        exact ⟨0, steps, node, by rw [place]; simp, rfl, reached⟩
      · obtain ⟨index, steps, child, place, found, reached⟩ :=
          at?_of_mem_visitsIn enter path (first + 1) nodes visit later
        refine ⟨index + 1, steps, child, ?_, found, reached⟩
        rw [place, Nat.add_assoc, Nat.add_comm 1 index]

end

theorem mem_visitsIn_iff {enter : Node → Bool} {path : List Nat} {first : Nat}
    {nodes : List Node} {visit : Node × List Nat} :
    visit ∈ visitsIn enter path first nodes ↔
      ∃ (index : Nat) (child : Node), nodes[index]? = some child ∧
        visit ∈ child.visits enter (path ++ [first + index]) := by
  induction nodes generalizing first with
  | nil =>
      rw [visitsIn]
      simp
  | cons node nodes ih =>
      rw [visitsIn, List.mem_append, ih]
      constructor
      · rintro (here | ⟨index, child, found, later⟩)
        · exact ⟨0, node, rfl, here⟩
        · rw [Nat.add_assoc, Nat.add_comm 1] at later
          exact ⟨index + 1, child, found, later⟩
      · rintro ⟨index, child, found, member⟩
        cases index with
        | zero =>
            cases found
            exact Or.inl member
        | succ index =>
            rw [Nat.add_comm index, ← Nat.add_assoc] at member
            exact Or.inr ⟨index, child, found, member⟩

/-- Whether a traversal that does not go below some nodes gets to the end of a path: it enters all
nodes on the way. -/
def LetsThrough (enter : Node → Bool) (node : Node) (path : List Nat) : Prop :=
  ∀ above ancestor, above <+: path → above ≠ path → node.at? above = some ancestor →
    enter ancestor = true

theorem letsThrough_nil (enter : Node → Bool) (node : Node) : node.LetsThrough enter [] :=
  fun _ _ front proper => absurd (List.prefix_nil.mp front) proper

theorem letsThrough_cons {enter : Node → Bool} {node child : Node} {index : Nat} {path : List Nat}
    (found : node.children[index]? = some child) :
    node.LetsThrough enter (index :: path) ↔ enter node = true ∧ child.LetsThrough enter path := by
  constructor
  · intro entered
    refine ⟨entered [] node List.nil_prefix (List.cons_ne_nil _ _).symm rfl, ?_⟩
    intro above ancestor front proper reached
    apply entered (index :: above) ancestor (List.cons_prefix_cons.mpr ⟨rfl, front⟩)
    · exact fun same => proper (List.cons.inj same).2
    · rw [at?_cons, found]
      exact reached
  · rintro ⟨here, below⟩ above ancestor front proper reached
    cases above with
    | nil =>
        cases reached
        exact here
    | cons first above =>
        obtain ⟨rfl, rest⟩ := List.cons_prefix_cons.mp front
        rw [at?_cons, found] at reached
        exact below above ancestor rest (fun same => proper (congrArg _ same)) reached

theorem mem_visits_nil {enter : Node → Bool} {node below : Node} {path : List Nat} :
    (below, path) ∈ node.visits enter path ↔ node = below := by
  constructor
  · intro member
    obtain ⟨steps, place, reached⟩ := at?_of_mem_visits enter path node _ member
    rw [List.self_eq_append_right.mp place] at reached
    exact Option.some.inj reached
  · rintro rfl
    cases node with
    | mk kind start stop role missing children =>
        rw [visits]
        exact List.mem_cons_self

/-- A visit lies under the child that its path says. -/
theorem mem_visits_cons {enter : Node → Bool} {node below : Node} {index : Nat}
    {path steps : List Nat} :
    (below, path ++ index :: steps) ∈ node.visits enter path ↔
      enter node = true ∧ ∃ child, node.children[index]? = some child ∧
        (below, path ++ [index] ++ steps) ∈ child.visits enter (path ++ [index]) := by
  have shifted : path ++ index :: steps = path ++ [index] ++ steps := by simp
  cases node with
  | mk kind start stop role missing children =>
      rw [visits, List.mem_cons]
      constructor
      · rintro (same | later)
        · have longer := congrArg (fun visit => visit.2.length) same
          simp at longer
        · split at later
          · rename_i entered
            obtain ⟨place, child, found, member⟩ := mem_visitsIn_iff.mp later
            obtain ⟨others, same, _⟩ := at?_of_mem_visits enter _ child _ member
            have here : index = place := by
              rw [shifted, List.append_assoc, List.append_assoc, Nat.zero_add] at same
              exact (List.cons.inj (List.append_cancel_left same)).1
            subst here
            rw [Nat.zero_add, shifted] at member
            exact ⟨entered, child, found, member⟩
          · cases later
      · rintro ⟨entered, child, found, member⟩
        rw [if_pos entered]
        refine Or.inr (mem_visitsIn_iff.mpr ⟨index, child, found, ?_⟩)
        rw [Nat.zero_add, shifted]
        exact member

/-- A traversal visits what a path leads to, exactly if it enters all nodes on the way. -/
theorem mem_visits_iff {enter : Node → Bool} {node below : Node} {path steps : List Nat} :
    (below, path ++ steps) ∈ node.visits enter path ↔
      node.at? steps = some below ∧ node.LetsThrough enter steps := by
  induction steps generalizing node path with
  | nil =>
      rw [List.append_nil, mem_visits_nil, at?_nil, Option.some.injEq]
      exact ⟨fun same => ⟨same, node.letsThrough_nil enter⟩, And.left⟩
  | cons index steps ih =>
      rw [mem_visits_cons, at?_cons]
      constructor
      · rintro ⟨entered, child, found, member⟩
        obtain ⟨reached, onward⟩ := ih.mp member
        rw [found]
        exact ⟨reached, (letsThrough_cons found).mpr ⟨entered, onward⟩⟩
      · rintro ⟨reached, through⟩
        obtain ⟨child, found, inner⟩ := Option.bind_eq_some_iff.mp reached
        obtain ⟨entered, onward⟩ := (letsThrough_cons found).mp through
        exact ⟨entered, child, found, ih.mpr ⟨inner, onward⟩⟩

theorem mem_visits_nil_iff {enter : Node → Bool} {node below : Node} {path : List Nat} :
    (below, path) ∈ node.visits enter [] ↔
      node.at? path = some below ∧ node.LetsThrough enter path :=
  mem_visits_iff

/-- A full traversal visits whatever a path leads to. -/
theorem mem_visits_of_at? {node below : Node} {steps : List Nat} (path : List Nat)
    (reached : node.at? steps = some below) :
    (below, path ++ steps) ∈ node.visits (fun _ => true) path :=
  mem_visits_iff.mpr ⟨reached, fun _ _ _ _ _ => rfl⟩

end Node

namespace SyntaxTree

def nodes (tree : SyntaxTree) : List Node :=
  (tree.root.visits (fun _ => true) []).map Prod.fst

theorem mem_nodes_of_under {tree : SyntaxTree} {node : Node} (under : node.Under tree.root) :
    node ∈ tree.nodes := by
  obtain ⟨path, reached⟩ := under
  exact List.mem_map.mpr ⟨_, Node.mem_visits_of_at? [] reached, rfl⟩

theorem mem_allCalls {tree : SyntaxTree} {call : Call} (member : call ∈ tree.allCalls) :
    ∃ node path, tree.root.at? path = some node ∧ tree.callAt node path = some call := by
  obtain ⟨⟨node, path⟩, visited, read⟩ := List.mem_filterMap.mp member
  exact ⟨node, path, (Node.mem_visits_nil_iff.mp visited).1, read⟩

theorem callAt_eq_some {tree : SyntaxTree} {node : Node} {path : List Nat} {call : Call}
    (read : tree.callAt node path = some call) :
    node.kind = .call ∧ call.node = NodeRef.of node path ∧
      call.arguments = match node.child? .arguments with
        | some list =>
          if list.kind == .argumentList then list.namedChildren.filterMap tree.argumentAt else []
        | none => [] := by
  unfold callAt at read
  split at read
  · rename_i function isCall hasFunction
    cases read
    exact ⟨isCall, rfl, rfl⟩
  · cases read

end SyntaxTree

end AgentProbe.Syntax
