import AgentProbe.Proofs.Syntax.Anchor
import AgentProbe.Proofs.Syntax.Order

set_option autoImplicit false

/-!
The answers of queries and the nodes they are about.

A query walks through the tree and keeps with every answer a reference to the node that it was at.
The reference leads to that node again, and what is found there is the answer; nothing that could be
found in the tree is left out.  Calls and definitions are listed in document order, each from a node
of its own.
-/

namespace AgentProbe.Syntax

/-- A reference leads to a node when it resolves to it and has the name of its kind. -/
structure NodeRef.LeadsTo (ref : NodeRef) (tree : SyntaxTree) (node : Node) : Prop where
  resolved : tree.resolve ref = some node
  kind : ref.kind = node.kind.name

namespace SyntaxTree

variable {α : Type} {tree : SyntaxTree} {ref : α → NodeRef} {answers : List α}

def Lists (tree : SyntaxTree) (found : Node → List Nat → α → Prop) (ref : α → NodeRef)
    (answers : List α) : Prop :=
  ∀ answer, answer ∈ answers ↔
    ∃ node, (ref answer).LeadsTo tree node ∧ found node (ref answer).path answer

/-- Answers in document order, no two of which are about the same node. -/
structure InOrder (ref : α → NodeRef) (answers : List α) : Prop where
  sorted : answers.Pairwise fun early late => (ref early).path < (ref late).path
  distinct : (answers.map ref).Nodup

theorem inOrder_of_sorted
    (sorted : answers.Pairwise fun early late => (ref early).path < (ref late).path) :
    InOrder ref answers := by
  refine ⟨sorted, List.pairwise_map.mpr (sorted.imp ?_)⟩
  intro early late before same
  rw [same] at before
  exact List.lt_irrefl _ before

/-! ### Walks -/

section

variable {found : Node → List Nat → α → Prop}
  (recorded : ∀ node path answer, found node path answer → ref answer = NodeRef.of node path)

include recorded

/-- What a walk records are the answers at the nodes that it gets to. -/
theorem lists_of_walk {enter : Node → Bool}
    (walked : ∀ answer, answer ∈ answers ↔
      ∃ visit ∈ tree.root.visits enter [], found visit.1 visit.2 answer) :
    tree.Lists (fun node path answer => tree.root.LetsThrough enter path ∧ found node path answer)
      ref answers := by
  intro answer
  rw [walked]
  constructor
  · rintro ⟨⟨node, path⟩, visited, told⟩
    obtain ⟨reached, through⟩ := Node.mem_visits_nil_iff.mp visited
    rw [recorded node path answer told]
    exact ⟨node, ⟨reached, rfl⟩, through, told⟩
  · rintro ⟨node, leads, through, told⟩
    exact ⟨(node, (ref answer).path),
      Node.mem_visits_nil_iff.mpr ⟨leads.resolved, through⟩, told⟩

theorem lists_of_full_walk
    (walked : ∀ answer, answer ∈ answers ↔
      ∃ visit ∈ tree.root.visits (fun _ => true) [], found visit.1 visit.2 answer) :
    tree.Lists found ref answers := by
  intro answer
  rw [lists_of_walk recorded walked answer]
  constructor
  · rintro ⟨node, leads, _, told⟩
    exact ⟨node, leads, told⟩
  · rintro ⟨node, leads, told⟩
    exact ⟨node, leads, fun _ _ _ _ _ => rfl, told⟩

end

/-! ### Imports -/

theorem node_of_mem_importsAt {node : Node} {path : List Nat} {entry : Import}
    (member : entry ∈ tree.importsAt node path) : entry.node = NodeRef.of node path := by
  unfold importsAt at member
  dsimp only at member
  split at member
  · obtain ⟨imported, _, rfl⟩ := List.mem_map.mp member
    rfl
  · cases List.mem_singleton.mp member
    rfl
  · cases List.mem_singleton.mp member
    rfl
  · cases member

/-- An import is found at its statement, unless that lies within another import. -/
theorem imports_listed (tree : SyntaxTree) :
    tree.Lists (fun node path entry =>
        tree.root.LetsThrough (fun above => !above.kind.isImport) path ∧
          entry ∈ tree.importsAt node path)
      Import.node tree.imports :=
  lists_of_walk (fun _ _ _ member => node_of_mem_importsAt member) fun _ => List.mem_flatMap

/-- Imports of one statement have the same reference, those of different statements are in document
order. -/
theorem imports_sorted (tree : SyntaxTree) :
    tree.imports.Pairwise fun early late => ¬ late.node.path < early.node.path := by
  apply List.pairwise_flatMap.mpr
  constructor
  · intro visit _
    apply List.pairwise_iff_forall_sublist.mpr
    intro first second chosen
    have member := chosen.subset List.mem_cons_self
    have other := chosen.subset (List.mem_cons_of_mem _ List.mem_cons_self)
    rw [node_of_mem_importsAt member, node_of_mem_importsAt other]
    exact List.lt_irrefl _
  · apply (Node.visits_sorted _ [] tree.root).imp
    intro first second before early member late other
    rw [node_of_mem_importsAt member, node_of_mem_importsAt other]
    exact List.lt_asymm before

/-! ### Calls -/

theorem calls_listed (tree : SyntaxTree) (pattern : String) :
    tree.Lists (fun node path call =>
        tree.callAt node path = some call ∧ call.isNamedBy pattern = true)
      Call.node (tree.calls pattern) := by
  apply lists_of_full_walk
  · rintro node path call ⟨told, _⟩
    exact (callAt_eq_some told).2.1
  · intro call
    rw [calls, allCalls, List.mem_filter, List.mem_filterMap]
    constructor
    · rintro ⟨⟨visit, visited, told⟩, named⟩
      exact ⟨visit, visited, told, named⟩
    · rintro ⟨visit, visited, told, named⟩
      exact ⟨⟨visit, visited, told⟩, named⟩

theorem calls_inOrder (tree : SyntaxTree) (pattern : String) :
    InOrder Call.node (tree.calls pattern) :=
  inOrder_of_sorted (tree.allCalls_sorted.filter _)

/-- The pattern only chooses among all calls. -/
theorem calls_eq_filter (tree : SyntaxTree) (pattern : String) :
    tree.calls pattern = (tree.calls "*").filter fun call => call.isNamedBy pattern := by
  have every : tree.calls "*" = tree.allCalls :=
    List.filter_eq_self.mpr fun call _ => by rw [Call.isNamedBy, if_pos (by decide)]
  rw [every, calls]

/-! ### Definitions -/

def definitionAt (tree : SyntaxTree) (wanted : DefKind) (node : Node) (path : List Nat) :
    Option Definition :=
  if wanted.covers node.kind then
    some
      { name := ((node.child? .name).map tree.textOf).getD ""
        kind := if node.kind == .classDefinition then .classes else .functions
        line := tree.line node
        decorators := tree.decoratorsAt path
        node := NodeRef.of node path }
  else none

theorem definitions_eq (tree : SyntaxTree) (wanted : DefKind) :
    tree.definitions wanted = (tree.root.visits (fun _ => true) []).filterMap
      fun visit => tree.definitionAt wanted visit.1 visit.2 :=
  rfl

theorem node_of_definitionAt {wanted : DefKind} {node : Node} {path : List Nat}
    {definition : Definition} (told : definition ∈ tree.definitionAt wanted node path) :
    definition.node = NodeRef.of node path := by
  unfold definitionAt at told
  split at told
  · cases told
    rfl
  · cases told

theorem definitions_listed (tree : SyntaxTree) (wanted : DefKind) :
    tree.Lists (fun node path definition => tree.definitionAt wanted node path = some definition)
      Definition.node (tree.definitions wanted) := by
  rw [definitions_eq]
  exact lists_of_full_walk (fun _ _ _ told => node_of_definitionAt told)
    fun _ => List.mem_filterMap

theorem definitions_inOrder (tree : SyntaxTree) (wanted : DefKind) :
    InOrder Definition.node (tree.definitions wanted) := by
  rw [definitions_eq]
  exact inOrder_of_sorted (tree.recorded_sorted _ fun _ _ _ told => node_of_definitionAt told)

/-! ### The anchor -/

/-- The anchor leads to the statement that it was chosen for; without one it leads to the root, if
that is a module. -/
theorem importAnchor_leads (tree : SyntaxTree) :
    (tree.leading = [] ∧ tree.resolve tree.importAnchor = some tree.root ∧
        (tree.importAnchor.LeadsTo tree tree.root ↔ tree.root.kind.name = "module")) ∨
      ∃ before node after, tree.IsAnchor before node after ∧
        tree.importAnchor.LeadsTo tree node := by
  rcases tree.importAnchor_cases with ⟨atRoot, none⟩ | ⟨before, node, after, anchor⟩
  · rw [atRoot]
    refine Or.inl ⟨none, rfl, ?_⟩
    exact ⟨fun leads => leads.kind.symm, fun module => ⟨rfl, module.symm⟩⟩
  · refine Or.inr ⟨before, node, after, anchor, ?_⟩
    rw [anchor.anchored]
    exact ⟨resolve_child anchor.split, rfl⟩

/-- The answers of all queries are found at the nodes that their references lead to, and the anchor leads
to its statement.  Calls and definitions are in document order, each at a node of its own, and the calls
that a pattern names are chosen among all calls. -/
theorem answers_lead_back (tree : SyntaxTree) :
    (tree.Lists (fun node path entry =>
          tree.root.LetsThrough (fun above => !above.kind.isImport) path ∧
            entry ∈ tree.importsAt node path)
        Import.node tree.imports ∧
      tree.imports.Pairwise fun early late => ¬ late.node.path < early.node.path) ∧
    (∀ pattern,
      tree.Lists (fun node path call =>
            tree.callAt node path = some call ∧ call.isNamedBy pattern = true)
          Call.node (tree.calls pattern) ∧
        InOrder Call.node (tree.calls pattern) ∧
        tree.calls pattern = (tree.calls "*").filter fun call => call.isNamedBy pattern) ∧
    (∀ wanted,
      tree.Lists (fun node path definition =>
            tree.definitionAt wanted node path = some definition)
          Definition.node (tree.definitions wanted) ∧
        InOrder Definition.node (tree.definitions wanted)) ∧
    ((tree.leading = [] ∧ tree.resolve tree.importAnchor = some tree.root ∧
        (tree.importAnchor.LeadsTo tree tree.root ↔ tree.root.kind.name = "module")) ∨
      ∃ before node after, tree.IsAnchor before node after ∧
        tree.importAnchor.LeadsTo tree node) :=
  ⟨⟨tree.imports_listed, tree.imports_sorted⟩,
    fun pattern => ⟨tree.calls_listed pattern, tree.calls_inOrder pattern,
      tree.calls_eq_filter pattern⟩,
    fun wanted => ⟨tree.definitions_listed wanted, tree.definitions_inOrder wanted⟩,
    tree.importAnchor_leads⟩

/-- What is read from a text is a module, so the anchor leads back in each of its two forms. -/
example (source : Text) : (parse source).root.kind.name = "module" := rfl

example : ((parse "f(g.h(1))(2)\n".toList).calls "*").map (fun call => call.node.path) =
    [[0, 0], [0, 0, 0], [0, 0, 0, 1, 1]] := by
  decide +kernel

end SyntaxTree

end AgentProbe.Syntax
