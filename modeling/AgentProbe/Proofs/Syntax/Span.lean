import AgentProbe.Proofs.Syntax.Reference

set_option autoImplicit false

/-!
Spans of nodes.

In a nested tree every node lies within its parent and siblings follow one another without overlap.
A node that is enclosed by two one-byte tokens keeps all its other children between them.
-/

namespace AgentProbe.Syntax.Node

mutual

/-- Whether the spans below a node are nested in it, in order and apart. -/
def isNested : Node → Bool
  | mk _ start stop _ _ children => decide (start ≤ stop) && areNested start stop children

def areNested (low high : Nat) : List Node → Bool
  | [] => decide (low ≤ high)
  | node :: nodes => decide (low ≤ node.start) && isNested node && areNested node.stop high nodes

end

theorem areNested_cons {low high : Nat} {node : Node} {nodes : List Node}
    (nested : areNested low high (node :: nodes) = true) :
    low ≤ node.start ∧ node.isNested = true ∧ areNested node.stop high nodes = true := by
  rw [areNested, Bool.and_eq_true, Bool.and_eq_true, decide_eq_true_eq] at nested
  exact ⟨nested.1.1, nested.1.2, nested.2⟩

theorem start_le_stop {node : Node} (nested : node.isNested = true) : node.start ≤ node.stop := by
  cases node with
  | mk kind start stop role missing children =>
      rw [isNested, Bool.and_eq_true, decide_eq_true_eq] at nested
      exact nested.1

theorem areNested_children {node : Node} (nested : node.isNested = true) :
    areNested node.start node.stop node.children = true := by
  cases node with
  | mk kind start stop role missing children =>
      rw [isNested, Bool.and_eq_true] at nested
      exact nested.2

theorem le_of_areNested {low high : Nat} {nodes : List Node}
    (nested : areNested low high nodes = true) : low ≤ high := by
  induction nodes generalizing low with
  | nil =>
      rw [areNested, decide_eq_true_eq] at nested
      exact nested
  | cons node nodes ih =>
      obtain ⟨starts, inside, rest⟩ := areNested_cons nested
      have forward := start_le_stop inside
      have onward := ih rest
      omega

theorem areNested_mem {low high : Nat} {nodes : List Node} {node : Node}
    (nested : areNested low high nodes = true) (member : node ∈ nodes) :
    low ≤ node.start ∧ node.isNested = true ∧ node.stop ≤ high := by
  induction nodes generalizing low with
  | nil => cases member
  | cons head nodes ih =>
      obtain ⟨starts, inside, rest⟩ := areNested_cons nested
      rcases List.mem_cons.mp member with rfl | later
      · exact ⟨starts, inside, le_of_areNested rest⟩
      · obtain ⟨after, within, before⟩ := ih rest later
        have forward := start_le_stop inside
        exact ⟨by omega, within, before⟩

theorem areNested_append {low high : Nat} {first second : List Node}
    (nested : areNested low high (first ++ second) = true) :
    ∃ middle, areNested low middle first = true ∧ areNested middle high second = true := by
  induction first generalizing low with
  | nil => exact ⟨low, by rw [areNested]; exact decide_eq_true (Nat.le_refl low), nested⟩
  | cons node nodes ih =>
      obtain ⟨starts, inside, rest⟩ := areNested_cons nested
      obtain ⟨middle, before, after⟩ := ih rest
      refine ⟨middle, ?_, after⟩
      rw [areNested, Bool.and_eq_true, Bool.and_eq_true, decide_eq_true_eq]
      exact ⟨⟨starts, inside⟩, before⟩

theorem isNested_child {node child : Node} (nested : node.isNested = true)
    (member : child ∈ node.children) :
    node.start ≤ child.start ∧ child.isNested = true ∧ child.stop ≤ node.stop :=
  areNested_mem (areNested_children nested) member

theorem isNested_under {node below : Node} (nested : node.isNested = true)
    (under : below.Under node) : below.isNested = true := by
  obtain ⟨path, reached⟩ := under
  induction path generalizing node with
  | nil =>
      cases reached
      exact nested
  | cons index path ih =>
      rw [at?_cons] at reached
      obtain ⟨child, found, inner⟩ := Option.bind_eq_some_iff.mp reached
      exact ih (isNested_child nested (List.mem_of_getElem? found)).2.1 inner

/-! ### Enclosing tokens -/

/-- Whether a node starts with one token and ends with another, each of them a byte wide. -/
def isEnclosed (opening closing : String) (node : Node) : Bool :=
  match node.children with
  | [] => false
  | first :: others =>
    match others.getLast? with
    | none => false
    | some last =>
      first.kind == .token opening && first.stop == node.start + 1
        && last.kind == .token closing && last.start + 1 == node.stop

theorem isEnclosed_split {opening closing : String} {node : Node}
    (enclosed : node.isEnclosed opening closing = true) :
    ∃ first middle last, node.children = first :: (middle ++ [last]) ∧
      first.kind = .token opening ∧ first.stop = node.start + 1 ∧
      last.kind = .token closing ∧ last.start + 1 = node.stop := by
  unfold isEnclosed at enclosed
  cases children : node.children with
  | nil =>
      rw [children] at enclosed
      cases enclosed
  | cons first others =>
      rw [children] at enclosed
      dsimp only at enclosed
      cases closes : others.getLast? with
      | none =>
          rw [closes] at enclosed
          cases enclosed
      | some last =>
          rw [closes] at enclosed
          simp only [Bool.and_eq_true, beq_iff_eq, and_assoc] at enclosed
          obtain ⟨middle, split⟩ := List.getLast?_eq_some_iff.mp closes
          exact ⟨first, middle, last, by rw [split], enclosed⟩

theorem isEnclosed_between {opening closing : String} {node child : Node}
    (nested : node.isNested = true) (enclosed : node.isEnclosed opening closing = true)
    (member : child ∈ node.children) (notOpening : child.kind ≠ .token opening)
    (notClosing : child.kind ≠ .token closing) :
    node.start + 1 ≤ child.start ∧ child.stop + 1 ≤ node.stop := by
  obtain ⟨first, middle, last, children, firstKind, firstStop, lastKind, lastStart⟩ :=
    isEnclosed_split enclosed
  have spans := areNested_children nested
  rw [children] at spans member
  obtain ⟨_, _, rest⟩ := areNested_cons spans
  obtain ⟨limit, before, after⟩ := areNested_append rest
  have reached := (areNested_cons after).1
  rcases List.mem_cons.mp member with rfl | inner
  · exact absurd firstKind notOpening
  · rcases List.mem_append.mp inner with between | atEnd
    · obtain ⟨starts, _, stops⟩ := areNested_mem before between
      omega
    · rw [List.mem_singleton.mp atEnd] at notClosing
      exact absurd lastKind notClosing

theorem isEnclosed_room {opening closing : String} {node : Node}
    (nested : node.isNested = true) (enclosed : node.isEnclosed opening closing = true) :
    node.start + 2 ≤ node.stop := by
  obtain ⟨first, middle, last, children, _, firstStop, _, lastStart⟩ := isEnclosed_split enclosed
  have spans := areNested_children nested
  rw [children] at spans
  obtain ⟨_, _, rest⟩ := areNested_cons spans
  have reached := (areNested_mem rest (List.mem_append_right middle List.mem_cons_self)).1
  omega

end AgentProbe.Syntax.Node
