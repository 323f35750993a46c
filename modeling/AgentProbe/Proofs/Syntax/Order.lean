import AgentProbe.Proofs.Syntax.Reference

set_option autoImplicit false

/-!
Document order.

A traversal visits a node before what stands below it, and below it one child after the other.  This
is the lexicographic order of the paths, so the calls of a tree are listed in it, each once.
-/

namespace AgentProbe.Syntax

namespace Node

mutual

theorem visits_sorted (enter : Node → Bool) (path : List Nat) :
    (node : Node) → (node.visits enter path).Pairwise fun first second => first.2 < second.2
  | mk kind start stop role missing children => by
      rw [visits]
      split
      · apply List.Pairwise.cons
        · intro visit below
          obtain ⟨index, steps, _, place, _⟩ :=
            at?_of_mem_visitsIn enter path 0 children visit below
          rw [place]
          have longer : path ++ [] < path ++ (0 + index) :: steps :=
            List.append_left_lt (List.nil_lt_cons _ _)
          rwa [List.append_nil] at longer
        · exact visitsIn_sorted enter path 0 children
      · exact List.pairwise_singleton _ _

theorem visitsIn_sorted (enter : Node → Bool) (path : List Nat) (first : Nat) :
    (nodes : List Node) →
      (visitsIn enter path first nodes).Pairwise fun early late => early.2 < late.2
  | [] => by
      rw [visitsIn]
      exact List.Pairwise.nil
  | node :: nodes => by
      rw [visitsIn]
      apply List.pairwise_append.mpr
      refine ⟨visits_sorted enter (path ++ [first]) node,
        visitsIn_sorted enter path (first + 1) nodes, ?_⟩
      -- The paths part at the index of the child.
      intro early here late later
      obtain ⟨steps, place, _⟩ := at?_of_mem_visits enter (path ++ [first]) node early here
      obtain ⟨index, others, _, behind, _⟩ :=
        at?_of_mem_visitsIn enter path (first + 1) nodes late later
      rw [place, behind, List.append_assoc]
      apply List.append_left_lt
      apply List.cons_lt_cons_iff.mpr
      exact Or.inl (by omega)

end

end Node

namespace SyntaxTree

/-- What is recorded at the nodes of a walk, at most once at each, is in document order. -/
theorem recorded_sorted {α : Type} {ref : α → NodeRef} {read : Node → List Nat → Option α}
    (tree : SyntaxTree) (enter : Node → Bool)
    (recorded : ∀ node path answer, read node path = some answer →
      ref answer = NodeRef.of node path) :
    ((tree.root.visits enter []).filterMap fun visit => read visit.1 visit.2).Pairwise
      fun early late => (ref early).path < (ref late).path := by
  apply List.Pairwise.filterMap _ _ (Node.visits_sorted enter [] tree.root)
  intro first second before early told late toldLater
  rw [recorded _ _ early told, recorded _ _ late toldLater]
  exact before

theorem allCalls_sorted (tree : SyntaxTree) :
    tree.allCalls.Pairwise fun first second => first.node.path < second.node.path :=
  tree.recorded_sorted _ fun _ _ _ read => (callAt_eq_some read).2.1

end SyntaxTree

end AgentProbe.Syntax
