import AgentProbe.Proofs.Syntax.Order

set_option autoImplicit false

/-!
The errors of a tree and the flags that announce them.

Errors are collected by going down only where a flag says that there is one, and no further than the
first error on the way.  What is collected are the nodes that a traversal meets when it does not
enter errors, so they are the outermost ones.  A tree can have errors that none of its nodes shows; it
is the only way in which the flag of a tree and its list of errors can differ.
-/

namespace AgentProbe.Syntax

namespace Node

def isFault (node : Node) : Bool :=
  node.isError || node.isMissing

/-- A fault at a path that does not lie within another fault. -/
structure IsOutermostFault (node : Node) (path : List Nat) (fault : Node) : Prop where
  reached : node.at? path = some fault
  faulty : fault.isFault = true
  outermost : ∀ above ancestor, above <+: path → above ≠ path → node.at? above = some ancestor →
    ancestor.isFault = false

/-! ### Flags -/

theorem anyError_iff {nodes : List Node} :
    anyError nodes = true ↔ ∃ node ∈ nodes, node.hasError = true := by
  induction nodes with
  | nil => simp [anyError]
  | cons node nodes ih =>
      rw [anyError, Bool.or_eq_true, ih]
      simp

theorem hasError_iff {node : Node} :
    node.hasError = true ↔
      node.isFault = true ∨ ∃ child ∈ node.children, child.hasError = true := by
  cases node with
  | mk kind start stop role missing children =>
      rw [hasError, Bool.or_eq_true, anyError_iff]
      rfl

mutual

theorem faults_eq_nil_iff : (node : Node) → (node.faults = [] ↔ node.hasError = false)
  | mk kind start stop role missing children => by
      rw [faults, hasError, Bool.or_eq_false_iff]
      split
      · rename_i here
        simp [here]
      · rename_i whole
        rw [faultsIn_eq_nil_iff children]
        simp [whole]

theorem faultsIn_eq_nil_iff :
    (nodes : List Node) → (faultsIn nodes = [] ↔ anyError nodes = false)
  | [] => by simp [faultsIn, anyError]
  | node :: nodes => by
      rw [faultsIn, anyError, List.append_eq_nil_iff, Bool.or_eq_false_iff,
        faultsIn_eq_nil_iff nodes]
      cases broken : node.hasError with
      | false => simp
      | true =>
          have listed := faults_eq_nil_iff node
          rw [broken] at listed
          simp [listed]

end

/-- Going down only where a flag is set leaves nothing out. -/
theorem faultsIn_cons (node : Node) (nodes : List Node) :
    faultsIn (node :: nodes) = node.faults ++ faultsIn nodes := by
  rw [faultsIn]
  cases sound : node.hasError with
  | false => rw [node.faults_eq_nil_iff.mpr sound, if_neg Bool.false_ne_true]
  | true => rw [if_pos rfl]

/-! ### The list -/

def faultVisits (node : Node) (path : List Nat) : List (Node × List Nat) :=
  (node.visits (fun inner => !inner.isFault) path).filter fun visit => visit.1.isFault

mutual

theorem faults_eq_visits (path : List Nat) :
    (node : Node) → node.faults = (node.faultVisits path).map Prod.fst
  | mk kind start stop role missing children => by
      rw [faults, faultVisits, visits]
      have own : (mk kind start stop role missing children).isFault =
          (kind == .error || missing) := rfl
      cases here : (kind == .error || missing) with
      | true => simp [own, here]
      | false =>
          rw [here] at own
          rw [if_neg Bool.false_ne_true]
          rw [List.filter_cons_of_neg (by rw [own]; exact Bool.false_ne_true), own,
            if_pos Bool.not_false]
          exact faultsIn_eq_visits path 0 children

theorem faultsIn_eq_visits (path : List Nat) (first : Nat) :
    (nodes : List Node) → faultsIn nodes =
      ((visitsIn (fun inner => !inner.isFault) path first nodes).filter
        fun visit => visit.1.isFault).map Prod.fst
  | [] => by rw [faultsIn, visitsIn, List.filter_nil, List.map_nil]
  | node :: nodes => by
      rw [faultsIn_cons, visitsIn, List.filter_append, List.map_append,
        faults_eq_visits (path ++ [first]) node, faultsIn_eq_visits path (first + 1) nodes]
      rfl

end

theorem faultVisits_sorted (node : Node) (path : List Nat) :
    (node.faultVisits path).Pairwise fun early late => early.2 < late.2 :=
  (node.visits_sorted _ path).filter _

/-- The faults that are met are the outermost ones. -/
theorem mem_faultVisits_iff {node fault : Node} {path : List Nat} :
    (fault, path) ∈ node.faultVisits [] ↔ node.IsOutermostFault path fault := by
  rw [faultVisits, List.mem_filter]
  constructor
  · rintro ⟨visited, faulty⟩
    obtain ⟨reached, through⟩ := mem_visits_nil_iff.mp visited
    refine ⟨reached, faulty, fun above ancestor front proper between => ?_⟩
    exact Bool.not_eq_eq_eq_not.mp (through above ancestor front proper between)
  · rintro ⟨reached, faulty, outermost⟩
    refine ⟨mem_visits_nil_iff.mpr ⟨reached, ?_⟩, faulty⟩
    intro above ancestor front proper between
    exact Bool.not_eq_eq_eq_not.mpr (outermost above ancestor front proper between)

end Node

namespace SyntaxTree

/-- The error flag of a node at a path.  The root has the flag of the tree. -/
def flagAt (tree : SyntaxTree) (node : Node) : List Nat → Bool
  | [] => tree.hasErrors
  | _ :: _ => node.hasError

/-- Every flag is set just if the node is a fault or the flag of a child is set. -/
def FlagsExplained (tree : SyntaxTree) : Prop :=
  ∀ node path, tree.root.at? path = some node →
    (tree.flagAt node path = true ↔
      node.isFault = true ∨
        ∃ index child, node.children[index]? = some child ∧
          tree.flagAt child (path ++ [index]) = true)

theorem flagAt_child (tree : SyntaxTree) (child : Node) (path : List Nat) (index : Nat) :
    tree.flagAt child (path ++ [index]) = child.hasError := by
  cases path <;> rfl

def faultAt (tree : SyntaxTree) (node : Node) : Fault :=
  { missing := node.isMissing
    line := tree.line node
    column := tree.column node
    snippet :=
      if node.isMissing then "missing " ++ node.kind.name
      else String.ofList (Text.headline (tree.text node)) }

theorem faults_eq_map (tree : SyntaxTree) : tree.faults = tree.root.faults.map tree.faultAt := by
  have single : Node.faultsIn [tree.root] = tree.root.faults := by
    rw [Node.faultsIn_cons, Node.faultsIn, List.append_nil]
  rw [← single]
  rfl

theorem faults_ne_nil_iff (tree : SyntaxTree) :
    tree.faults ≠ [] ↔ tree.root.hasError = true := by
  rw [faults_eq_map, ne_eq, List.map_eq_nil_iff, Node.faults_eq_nil_iff, Bool.not_eq_false]

/-- A tree without listed faults has no error or missing node. -/
theorem hasError_of_faults {tree : SyntaxTree} (clear : tree.faults = []) :
    tree.root.hasError = false :=
  Bool.eq_false_iff.mpr fun broken => tree.faults_ne_nil_iff.mpr broken clear

theorem flagsExplained_iff (tree : SyntaxTree) :
    tree.FlagsExplained ↔ tree.hasErrors = tree.root.hasError := by
  have children (node : Node) (path : List Nat) :
      (∃ index child, node.children[index]? = some child ∧
          tree.flagAt child (path ++ [index]) = true) ↔
        ∃ child ∈ node.children, child.hasError = true := by
    simp only [flagAt_child, List.mem_iff_getElem?]
    constructor
    · rintro ⟨index, child, found, broken⟩
      exact ⟨child, ⟨index, found⟩, broken⟩
    · rintro ⟨child, ⟨index, found⟩, broken⟩
      exact ⟨index, child, found, broken⟩
  constructor
  · intro explained
    have atRoot := explained tree.root [] rfl
    rw [children, ← Node.hasError_iff] at atRoot
    exact Bool.eq_iff_iff.mpr atRoot
  · intro same node path reached
    rw [children, ← Node.hasError_iff]
    cases path with
    | nil =>
        cases reached
        exact Bool.eq_iff_iff.mp same
    | cons index path => rfl

/-- Faults are listed just if the flag of the tree is set, as long as every flag has its reason in the
tree, and only then; and those listed are the outermost ones, each once, in document order. -/
theorem faults_outermost (tree : SyntaxTree) :
    (tree.FlagsExplained ↔ (tree.faults ≠ [] ↔ tree.hasErrors = true)) ∧
      ∃ found : List (Node × List Nat),
        tree.faults = found.map (fun place => tree.faultAt place.1) ∧
        (found.Pairwise fun early late => early.2 < late.2) ∧
        ∀ fault path, (fault, path) ∈ found ↔ tree.root.IsOutermostFault path fault := by
  constructor
  · rw [faults_ne_nil_iff, flagsExplained_iff]
    exact Bool.eq_iff_iff.trans iff_comm
  · refine ⟨tree.root.faultVisits [], ?_, tree.root.faultVisits_sorted [], ?_⟩
    · rw [faults_eq_map, Node.faults_eq_visits [], List.map_map]
      rfl
    · exact fun fault path => Node.mem_faultVisits_iff

/-- The line end that should stand behind a decorator is taken for granted, and no node shows it. -/
example : (parse "@a def f(): pass\n".toList).hasErrors = true ∧
    (parse "@a def f(): pass\n".toList).faults = [] := by
  decide +kernel

end SyntaxTree

end AgentProbe.Syntax
