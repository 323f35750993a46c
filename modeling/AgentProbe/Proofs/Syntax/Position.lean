import AgentProbe.Proofs.Syntax.Span

set_option autoImplicit false

/-!
Paths and spans.

In a nested tree the paths of two nodes say how their spans lie: either one path goes on where the
other ends, and the one span is inside the other, or the paths part at some node, and the spans are
apart.
-/

namespace AgentProbe.Syntax.Node

/-- The spans of two nodes have no byte in common. -/
def Apart (first second : Node) : Prop :=
  first.stop ≤ second.start ∨ second.stop ≤ first.start

theorem Apart.of_child {node child other : Node} (apart : other.Apart node)
    (nested : node.isNested = true) (member : child ∈ node.children) : other.Apart child := by
  obtain ⟨low, _, high⟩ := isNested_child nested member
  rcases apart with before | after
  · exact Or.inl (Nat.le_trans before low)
  · exact Or.inr (Nat.le_trans high after)

theorem at?_within {node below : Node} {path : List Nat} (nested : node.isNested = true)
    (reached : node.at? path = some below) :
    node.start ≤ below.start ∧ below.start ≤ below.stop ∧ below.stop ≤ node.stop := by
  induction path generalizing node with
  | nil =>
      cases reached
      exact ⟨Nat.le_refl _, start_le_stop nested, Nat.le_refl _⟩
  | cons index path ih =>
      rw [at?_cons] at reached
      obtain ⟨child, found, inner⟩ := Option.bind_eq_some_iff.mp reached
      obtain ⟨low, childNested, high⟩ := isNested_child nested (List.mem_of_getElem? found)
      have bounds := ih childNested inner
      omega

theorem under_within {node below : Node} (nested : node.isNested = true)
    (under : below.Under node) :
    node.start ≤ below.start ∧ below.start ≤ below.stop ∧ below.stop ≤ node.stop := by
  obtain ⟨path, reached⟩ := under
  exact at?_within nested reached

/-- What stands below a node is the node or stands below one of its children. -/
theorem Under.below_child {node below : Node} (under : below.Under node)
    (other : below.kind ≠ node.kind) : ∃ child ∈ node.children, below.Under child := by
  obtain ⟨path, reached⟩ := under
  cases path with
  | nil =>
      cases reached
      exact absurd rfl other
  | cons index path =>
      rw [at?_cons] at reached
      obtain ⟨child, found, inner⟩ := Option.bind_eq_some_iff.mp reached
      exact ⟨child, List.mem_of_getElem? found, path, inner⟩

/-! ### Siblings -/

theorem areNested_getElem {low high first second : Nat} {nodes : List Node} {left right : Node}
    (nested : areNested low high nodes = true) (here : nodes[first]? = some left)
    (there : nodes[second]? = some right) (before : first < second) : left.stop ≤ right.start := by
  induction nodes generalizing low first second with
  | nil => cases here
  | cons node nodes ih =>
      obtain ⟨_, _, rest⟩ := areNested_cons nested
      cases second with
      | zero => exact absurd before (Nat.not_lt_zero first)
      | succ second =>
          rw [List.getElem?_cons_succ] at there
          cases first with
          | zero =>
              cases here
              exact (areNested_mem rest (List.mem_of_getElem? there)).1
          | succ first => exact ih rest here there (Nat.lt_of_succ_lt_succ before)

theorem areNested_sublist {low high : Nat} {nodes part : List Node} (chosen : part.Sublist nodes)
    (nested : areNested low high nodes = true) : areNested low high part = true := by
  induction chosen generalizing low with
  | slnil => exact nested
  | cons node _ ih =>
      obtain ⟨starts, inside, rest⟩ := areNested_cons nested
      have later := ih rest
      have forward := start_le_stop inside
      rename_i part nodes _
      cases part with
      | nil =>
          rw [areNested, decide_eq_true_eq] at later ⊢
          omega
      | cons head part =>
          obtain ⟨low, head, tail⟩ := areNested_cons later
          rw [areNested, Bool.and_eq_true, Bool.and_eq_true, decide_eq_true_eq]
          exact ⟨⟨by omega, head⟩, tail⟩
  | cons_cons node _ ih =>
      obtain ⟨starts, inside, rest⟩ := areNested_cons nested
      rw [areNested, Bool.and_eq_true, Bool.and_eq_true, decide_eq_true_eq]
      exact ⟨⟨starts, inside⟩, ih rest⟩

theorem areNested_around {low high : Nat} {before after : List Node} {node : Node}
    (nested : areNested low high (before ++ node :: after) = true) :
    (∀ early ∈ before, early.stop ≤ node.start) ∧ node.start ≤ node.stop ∧
      ∀ later ∈ after, node.stop ≤ later.start := by
  obtain ⟨limit, front, rest⟩ := areNested_append nested
  obtain ⟨reached, inside, behind⟩ := areNested_cons rest
  refine ⟨?_, start_le_stop inside, fun later member => (areNested_mem behind member).1⟩
  intro early member
  exact Nat.le_trans (areNested_mem front member).2.2 reached

theorem stop_le_getLast {low high : Nat} {nodes : List Node} {node last : Node}
    (nested : areNested low high nodes = true) (ends : nodes.getLast? = some last)
    (member : node ∈ nodes) : node.stop ≤ last.stop := by
  obtain ⟨front, rfl⟩ := List.getLast?_eq_some_iff.mp ends
  obtain ⟨early, forward, _⟩ := areNested_around nested
  rcases List.mem_append.mp member with before | atEnd
  · exact Nat.le_trans (early node before) forward
  · cases List.mem_singleton.mp atEnd
    exact Nat.le_refl _

/-! ### Two nodes of a tree -/

theorem apart_of_ne {node first second : Node} {left right : List Nat} {here there : Nat}
    (nested : node.isNested = true) (different : here ≠ there)
    (reachedFirst : node.at? (here :: left) = some first)
    (reachedSecond : node.at? (there :: right) = some second) : first.Apart second := by
  rw [at?_cons] at reachedFirst reachedSecond
  obtain ⟨child, found, inner⟩ := Option.bind_eq_some_iff.mp reachedFirst
  obtain ⟨other, present, below⟩ := Option.bind_eq_some_iff.mp reachedSecond
  have siblings := areNested_children nested
  have childNested := (isNested_child nested (List.mem_of_getElem? found)).2.1
  have otherNested := (isNested_child nested (List.mem_of_getElem? present)).2.1
  have inChild := at?_within childNested inner
  have inOther := at?_within otherNested below
  rcases Nat.lt_or_gt_of_ne different with before | after
  · have order := areNested_getElem siblings found present before
    exact Or.inl (by omega)
  · have order := areNested_getElem siblings present found after
    exact Or.inr (by omega)

/-- Of two nodes, one is reached through the other or they are apart. -/
theorem prefix_or_apart {node first second : Node} {left right : List Nat}
    (nested : node.isNested = true) (reachedFirst : node.at? left = some first)
    (reachedSecond : node.at? right = some second) :
    left <+: right ∨ right <+: left ∨ first.Apart second := by
  induction left generalizing node right with
  | nil => exact Or.inl List.nil_prefix
  | cons here left ih =>
      cases right with
      | nil => exact Or.inr (Or.inl List.nil_prefix)
      | cons there right =>
          by_cases same : here = there
          · subst same
            rw [at?_cons] at reachedFirst reachedSecond
            obtain ⟨child, found, inner⟩ := Option.bind_eq_some_iff.mp reachedFirst
            rw [found, Option.bind_some] at reachedSecond
            have childNested := (isNested_child nested (List.mem_of_getElem? found)).2.1
            rcases ih childNested inner reachedSecond with longer | shorter | apart
            · exact Or.inl (List.cons_prefix_cons.mpr ⟨rfl, longer⟩)
            · exact Or.inr (Or.inl (List.cons_prefix_cons.mpr ⟨rfl, shorter⟩))
            · exact Or.inr (Or.inr apart)
          · exact Or.inr (Or.inr (apart_of_ne nested same reachedFirst reachedSecond))

/-- What stands properly below a node stands below a given child or is apart from it. -/
theorem under_or_apart {node child below : Node} {path : List Nat} (nested : node.isNested = true)
    (member : child ∈ node.children) (reached : node.at? path = some below) (proper : path ≠ []) :
    below.Under child ∨ below.Apart child := by
  obtain ⟨index, found⟩ := List.mem_iff_getElem?.mp member
  have reachedChild : node.at? [index] = some child := by
    rw [at?_cons, found]
    rfl
  cases path with
  | nil => exact absurd rfl proper
  | cons first rest =>
      by_cases same : first = index
      · rw [same, at?_cons, found] at reached
        exact Or.inl ⟨rest, reached⟩
      · exact Or.inr (apart_of_ne nested same reached reachedChild)

theorem Under.under_or_apart {node child below : Node} (nested : node.isNested = true)
    (under : below.Under node) (other : below.kind ≠ node.kind) (member : child ∈ node.children) :
    below.Under child ∨ below.Apart child := by
  obtain ⟨path, reached⟩ := under
  refine Node.under_or_apart nested member reached ?_
  rintro rfl
  cases reached
  exact other rfl

end AgentProbe.Syntax.Node
