import Mathlib.Data.List.TakeWhile
import AgentProbe.Proofs.Syntax.Reference

set_option autoImplicit false

/-!
Where the code of a module is anchored.

The anchor is the last import among the statements of the module, or a string that is taken for its
docstring, or the module itself.  A docstring is described as the first statement of the module.  What
the search asks of it is less: only the construct right in front of the string is looked at, and a
comment there hides all statements above it.
-/

namespace AgentProbe.Syntax.SyntaxTree

variable {tree : SyntaxTree} {node : Node} {before after : List Node}

/-! ### Imports -/

theorem lastImport_eq_none {first : Nat} {nodes : List Node}
    (missing : lastImport first nodes = none) : ∀ node ∈ nodes, node.kind.isImport = false := by
  induction nodes generalizing first with
  | nil =>
      intro node member
      cases member
  | cons head nodes ih =>
      rw [lastImport] at missing
      cases later : lastImport (first + 1) nodes with
      | some other =>
          rw [later] at missing
          cases missing
      | none =>
          rw [later] at missing
          dsimp only at missing
          split at missing
          · cases missing
          · rename_i other
            intro node member
            rcases List.mem_cons.mp member with rfl | further
            · exact Bool.eq_false_iff.mpr other
            · exact ih later node further

theorem lastImport_split {first : Nat} {nodes : List Node} {ref : NodeRef}
    (found : lastImport first nodes = some ref) :
    ∃ before node after, nodes = before ++ node :: after ∧
      ref = NodeRef.of node [first + before.length] ∧ node.kind.isImport = true ∧
      ∀ later ∈ after, later.kind.isImport = false := by
  induction nodes generalizing first with
  | nil => cases found
  | cons head nodes ih =>
      rw [lastImport] at found
      cases later : lastImport (first + 1) nodes with
      | some other =>
          rw [later] at found
          cases found
          obtain ⟨before, node, after, rfl, same, isImport, last⟩ := ih later
          refine ⟨head :: before, node, after, rfl, ?_, isImport, last⟩
          rw [same, List.length_cons, Nat.add_assoc, Nat.add_comm 1]
      | none =>
          rw [later] at found
          dsimp only at found
          split at found
          · rename_i isImport
            cases found
            exact ⟨[], head, nodes, rfl, rfl, isImport, lastImport_eq_none later⟩
          · cases found

/-! ### Docstrings -/

def isStringStatement (node : Node) : Bool :=
  node.kind == .expressionStatement
    && (match node.namedChildren with
      | [single] => single.kind == .string
      | _ => false)

theorem kind_of_isStringStatement (string : isStringStatement node = true) :
    node.kind = .expressionStatement := by
  rw [isStringStatement, Bool.and_eq_true, beq_iff_eq] at string
  exact string.1

theorem isDocstring_iff {previous : Option Node} :
    isDocstring previous node = true ↔
      isStringStatement node = true ∧ ∀ last, previous = some last → last.kind = .comment := by
  cases previous with
  | none =>
      change (isStringStatement node && true) = true ↔ _
      simp
  | some last =>
      change (isStringStatement node && last.kind == .comment) = true ↔ _
      simp

/-- The last construct among siblings; without one, the construct in front of them. -/
def lastNamed (previous : Option Node) (nodes : List Node) : Option Node :=
  (nodes.filter fun node => node.kind.isNamed).getLast?.or previous

theorem lastNamed_cons (previous : Option Node) (node : Node) (nodes : List Node) :
    lastNamed previous (node :: nodes) =
      lastNamed (if node.kind.isNamed then some node else previous) nodes := by
  unfold lastNamed
  cases named : node.kind.isNamed with
  | false => rw [List.filter_cons_of_neg (by simp [named]), if_neg Bool.false_ne_true]
  | true =>
      rw [List.filter_cons, if_pos named, if_pos rfl, List.getLast?_cons]
      cases (nodes.filter fun node => node.kind.isNamed).getLast? <;> rfl

/-- Without a docstring, no node looks like one from where it stands. -/
theorem firstDocstring_eq_none {previous : Option Node} {first : Nat} {nodes : List Node}
    (missing : firstDocstring previous first nodes = none) (split : nodes = before ++ node :: after) :
    isDocstring (lastNamed previous before) node = false := by
  induction nodes generalizing first previous before with
  | nil => simp at split
  | cons head nodes ih =>
      rw [firstDocstring] at missing
      split at missing
      · cases missing
      · rename_i other
        cases before with
        | nil =>
            cases split
            exact Bool.eq_false_iff.mpr other
        | cons front before =>
            cases split
            rw [lastNamed_cons]
            exact ih missing rfl

theorem firstDocstring_split {previous : Option Node} {first : Nat} {nodes : List Node}
    {ref : NodeRef} (found : firstDocstring previous first nodes = some ref) :
    ∃ before node after, nodes = before ++ node :: after ∧
      ref = NodeRef.of node [first + before.length] ∧
      isDocstring (lastNamed previous before) node = true ∧
      ∀ front other middle, before = front ++ other :: middle →
        isDocstring (lastNamed previous front) other = false := by
  induction nodes generalizing first previous with
  | nil => cases found
  | cons head nodes ih =>
      rw [firstDocstring] at found
      split at found
      · rename_i documents
        cases found
        refine ⟨[], head, nodes, rfl, rfl, documents, ?_⟩
        intro front other middle split
        simp at split
      · rename_i noDocstring
        obtain ⟨before, node, after, rfl, same, documents, earliest⟩ := ih found
        refine ⟨head :: before, node, after, rfl, ?_, ?_, ?_⟩
        · rw [same, List.length_cons, Nat.add_assoc, Nat.add_comm 1]
        · rw [lastNamed_cons]
          exact documents
        · intro front other middle split
          cases front with
          | nil =>
              cases split
              exact Bool.eq_false_iff.mpr noDocstring
          | cons ahead front =>
              cases split
              rw [lastNamed_cons]
              exact earliest front other middle rfl

/-! ### Anchors -/

/-- The statements that module-level code goes behind: the imports of the module, or without any the
first string that stands by itself in front of all statements or right behind a comment. -/
def leading (tree : SyntaxTree) : List Node :=
  match tree.root.children.filter fun node => node.kind.isImport with
  | [] => ((firstDocstring none 0 tree.root.children).bind tree.resolve).toList
  | imports => imports

structure IsAnchor (tree : SyntaxTree) (before : List Node) (node : Node) (after : List Node) :
    Prop where
  split : tree.root.children = before ++ node :: after
  anchored : tree.importAnchor = NodeRef.of node [before.length]
  plain : node.kind ≠ .comment
  leads : node ∈ tree.leading
  last : ∀ statement ∈ tree.leading, statement ∈ before ∨ statement = node

theorem resolve_child (split : tree.root.children = before ++ node :: after) :
    tree.resolve (NodeRef.of node [before.length]) = some node := by
  change tree.root.at? [before.length] = some node
  rw [Node.at?_cons, split, List.getElem?_append_right (Nat.le_refl _), Nat.sub_self]
  rfl

theorem isAnchor_of_lastImport {ref : NodeRef}
    (imported : lastImport 0 tree.root.children = some ref) :
    ∃ before node after, tree.IsAnchor before node after := by
  obtain ⟨before, node, after, split, same, isImport, last⟩ := lastImport_split imported
  have behind : after.filter (fun node => node.kind.isImport) = [] :=
    List.filter_eq_nil_iff.mpr fun later member => by rw [last later member]; decide
  have chosen : tree.root.children.filter (fun node => node.kind.isImport) =
      before.filter (fun node => node.kind.isImport) ++ [node] := by
    rw [split, List.filter_append, List.filter_cons, if_pos isImport, behind]
  have leads : tree.leading = before.filter (fun node => node.kind.isImport) ++ [node] := by
    unfold leading
    rw [chosen]
    split
    · rename_i empty
      simp at empty
    · rfl
  refine ⟨before, node, after, split, ?_, ?_, by rw [leads]; simp, ?_⟩
  · rw [importAnchor, imported, same, Nat.zero_add]
  · intro comment
    rw [comment] at isImport
    cases isImport
  · intro statement member
    rw [leads] at member
    rcases List.mem_append.mp member with early | atEnd
    · exact Or.inl (List.mem_filter.mp early).1
    · exact Or.inr (List.mem_singleton.mp atEnd)

/-- The import anchor is the module itself, or a statement that closes the leading ones. -/
theorem importAnchor_cases (tree : SyntaxTree) :
    (tree.importAnchor = NodeRef.root ∧ tree.leading = []) ∨
      ∃ before node after, tree.IsAnchor before node after := by
  cases imported : lastImport 0 tree.root.children with
  | some ref => exact Or.inr (isAnchor_of_lastImport imported)
  | none =>
      have noImport : tree.root.children.filter (fun node => node.kind.isImport) = [] :=
        List.filter_eq_nil_iff.mpr fun node member => by
          rw [lastImport_eq_none imported node member]
          decide
      have leads : tree.leading =
          ((firstDocstring none 0 tree.root.children).bind tree.resolve).toList := by
        rw [leading, noImport]
      unfold importAnchor
      rw [imported]
      cases documented : firstDocstring none 0 tree.root.children with
      | none =>
          rw [leads, documented]
          exact Or.inl ⟨rfl, rfl⟩
      | some ref =>
          obtain ⟨before, node, after, split, same, documents, _⟩ := firstDocstring_split documented
          have kind := kind_of_isStringStatement (isDocstring_iff.mp documents).1
          rw [Nat.zero_add] at same
          have only : tree.leading = [node] := by
            rw [leads, documented, same, Option.bind_some, resolve_child split]
            rfl
          refine Or.inr ⟨before, node, after, split, ?_, ?_, by rw [only]; simp, ?_⟩
          · rw [importAnchor, imported, documented, same]
            rfl
          · rw [kind]
            decide
          · rw [only]
            exact fun statement member => Or.inr (List.mem_singleton.mp member)

/-- The import anchor is the reference of the node that it resolves to, or the root's. -/
theorem importAnchor_resolves (tree : SyntaxTree) :
    tree.importAnchor = NodeRef.root ∨
      ∃ index node, tree.root.children[index]? = some node ∧
        tree.importAnchor = NodeRef.of node [index] := by
  rcases tree.importAnchor_cases with ⟨atRoot, _⟩ | ⟨before, node, after, anchor⟩
  · exact Or.inl atRoot
  · refine Or.inr ⟨before.length, node, ?_, anchor.anchored⟩
    rw [anchor.split, List.getElem?_append_right (Nat.le_refl _), Nat.sub_self]
    rfl

/-! ### The anchor as it is described -/

def isComment (node : Node) : Bool :=
  node.kind == .comment

/-- The anchor by its description: the last import of the module, else its first statement if that is
a string, else the module. -/
def documentedAnchor (tree : SyntaxTree) : NodeRef :=
  let children := tree.root.children
  match (children.zipIdx.filter fun child => child.1.kind.isImport).getLast? with
  | some (node, index) => NodeRef.of node [index]
  | none =>
    match children.dropWhile isComment with
    | [] => NodeRef.root
    | node :: _ =>
      if isStringStatement node then
        NodeRef.of node [(children.takeWhile isComment).length]
      else NodeRef.root

/-- A string that the search takes for a docstring although other statements stand in front of it. -/
structure IsStray (before : List Node) (node : Node) : Prop where
  string : isStringStatement node = true
  hidden : ∀ last, lastNamed none before = some last → last.kind = .comment
  late : ∃ other ∈ before, other.kind ≠ .comment

theorem ne_root_of_child (node : Node) (index : Nat) : NodeRef.of node [index] ≠ NodeRef.root := by
  intro same
  exact List.cons_ne_nil index [] (congrArg NodeRef.path same)

theorem documentedAnchor_of_lastImport {ref : NodeRef}
    (imported : lastImport 0 tree.root.children = some ref) : tree.documentedAnchor = ref := by
  obtain ⟨before, node, after, split, same, isImport, last⟩ := lastImport_split imported
  have behind (first : Nat) :
      (after.zipIdx first).filter (fun child => child.1.kind.isImport) = [] := by
    apply List.filter_eq_nil_iff.mpr
    intro child member
    rw [last child.1 (List.fst_mem_of_mem_zipIdx member)]
    exact Bool.false_ne_true
  rw [documentedAnchor, split, List.zipIdx_append, List.filter_append, List.zipIdx_cons,
    List.filter_cons, if_pos isImport, behind, List.getLast?_concat, same]

theorem split_comments {nodes : List Node} (split : nodes = before ++ node :: after)
    (comments : ∀ other ∈ before, other.kind = .comment) (visible : node.kind ≠ .comment) :
    nodes.takeWhile isComment = before ∧ nodes.dropWhile isComment = node :: after := by
  have hidden : ∀ other ∈ before, isComment other = true :=
    fun other member => beq_iff_eq.mpr (comments other member)
  have stops : ¬ isComment node = true := fun comment => visible (eq_of_beq comment)
  rw [split, List.takeWhile_append_of_pos hidden, List.dropWhile_append_of_pos hidden,
    List.takeWhile_cons_of_neg stops, List.dropWhile_cons_of_neg stops, List.append_nil]
  exact ⟨rfl, rfl⟩

/-- Without imports, the described anchor is a string with nothing but comments in front of it, or the
module if there is no such string. -/
theorem documentedAnchor_of_no_import (missing : lastImport 0 tree.root.children = none) :
    (∃ before node after, tree.root.children = before ++ node :: after ∧
        (∀ other ∈ before, other.kind = .comment) ∧ isStringStatement node = true ∧
        tree.documentedAnchor = NodeRef.of node [before.length]) ∨
      (tree.documentedAnchor = NodeRef.root ∧
        ∀ before node after, tree.root.children = before ++ node :: after →
          isStringStatement node = true → ∃ other ∈ before, other.kind ≠ .comment) := by
  have noImport : tree.root.children.zipIdx.filter (fun child => child.1.kind.isImport) = [] := by
    apply List.filter_eq_nil_iff.mpr
    intro child member
    rw [lastImport_eq_none missing child.1 (List.fst_mem_of_mem_zipIdx member)]
    exact Bool.false_ne_true
  have visible {statement : Node} (string : isStringStatement statement = true) :
      statement.kind ≠ .comment := by
    rw [kind_of_isStringStatement string]
    decide
  rw [documentedAnchor, noImport, List.getLast?_nil]
  dsimp only
  cases shape : tree.root.children.dropWhile isComment with
  | nil =>
      refine Or.inr ⟨rfl, ?_⟩
      intro before node after split string
      have comment := List.dropWhile_eq_nil_iff.mp shape node (by rw [split]; simp)
      exact absurd (eq_of_beq comment) (visible string)
  | cons first rest =>
      dsimp only
      split
      · rename_i string
        refine Or.inl ⟨_, first, rest, ?_, ?_, string, rfl⟩
        · rw [← shape, List.takeWhile_append_dropWhile]
        · intro other member
          have comment : isComment other = true := List.mem_takeWhile_imp member
          exact eq_of_beq comment
      · rename_i noString
        refine Or.inr ⟨rfl, ?_⟩
        intro before node after split string
        apply Classical.byContradiction
        intro comments
        simp only [not_exists, not_and, not_not] at comments
        have same := (split_comments split comments (visible string)).2
        rw [shape, List.cons.injEq] at same
        exact noString (same.1 ▸ string)

/-- A string with nothing but comments in front of it is the docstring. -/
theorem firstDocstring_of_comments {previous : Option Node} (first : Nat)
    (close : ∀ last, previous = some last → last.kind = .comment)
    (comments : ∀ other ∈ before, other.kind = .comment) (string : isStringStatement node = true) :
    firstDocstring previous first (before ++ node :: after) =
      some (NodeRef.of node [first + before.length]) := by
  induction before generalizing first previous with
  | nil =>
      rw [List.nil_append, firstDocstring, if_pos (isDocstring_iff.mpr ⟨string, close⟩)]
      rfl
  | cons comment before ih =>
      have isComment : comment.kind = .comment := comments comment List.mem_cons_self
      have other : ¬ isDocstring previous comment = true := by
        intro documents
        have kind := kind_of_isStringStatement (isDocstring_iff.mp documents).1
        rw [isComment] at kind
        cases kind
      rw [List.cons_append, firstDocstring, if_neg other, ih, List.length_cons, Nat.add_assoc,
        Nat.add_comm 1]
      · intro last found
        rw [isComment, if_pos (by decide)] at found
        cases found
        exact isComment
      · exact fun other member => comments other (List.mem_cons_of_mem comment member)

theorem importAnchor_of_no_import (missing : lastImport 0 tree.root.children = none) :
    tree.importAnchor = (firstDocstring none 0 tree.root.children).getD NodeRef.root := by
  rw [importAnchor, missing]

theorem importAnchor_of_documented (documented : tree.documentedAnchor ≠ NodeRef.root) :
    tree.importAnchor = tree.documentedAnchor := by
  cases imported : lastImport 0 tree.root.children with
  | some ref =>
      rw [documentedAnchor_of_lastImport imported, importAnchor, imported]
  | none =>
      rcases documentedAnchor_of_no_import imported with
        ⟨before, node, after, split, comments, string, described⟩ | ⟨described, _⟩
      · rw [importAnchor_of_no_import imported, split,
          firstDocstring_of_comments 0 (by simp) comments string, described, Nat.zero_add]
        rfl
      · exact absurd described documented

/-- Where the description gives the module, the anchor is the module or the first stray string. -/
theorem importAnchor_of_undocumented (undocumented : tree.documentedAnchor = NodeRef.root) :
    (tree.importAnchor = NodeRef.root ∧
        ∀ before node after, tree.root.children = before ++ node :: after → ¬ IsStray before node) ∨
      ∃ before node after, tree.root.children = before ++ node :: after ∧ IsStray before node ∧
        tree.importAnchor = NodeRef.of node [before.length] ∧
        ∀ front other middle, before = front ++ other :: middle → ¬ IsStray front other := by
  cases imported : lastImport 0 tree.root.children with
  | some ref =>
      obtain ⟨before, node, _, _, place, _⟩ := lastImport_split imported
      rw [documentedAnchor_of_lastImport imported, place] at undocumented
      exact absurd undocumented (ne_root_of_child node _)
  | none =>
      rcases documentedAnchor_of_no_import imported with
        ⟨before, node, _, _, _, _, described⟩ | ⟨_, guarded⟩
      · rw [described] at undocumented
        exact absurd undocumented (ne_root_of_child node _)
      rw [importAnchor_of_no_import imported]
      cases found : firstDocstring none 0 tree.root.children with
      | none =>
          refine Or.inl ⟨rfl, ?_⟩
          intro before node after split stray
          have refused := firstDocstring_eq_none found split
          rw [isDocstring_iff.mpr ⟨stray.string, stray.hidden⟩] at refused
          cases refused
      | some ref =>
          obtain ⟨before, node, after, split, rfl, documents, earliest⟩ := firstDocstring_split found
          obtain ⟨string, hidden⟩ := isDocstring_iff.mp documents
          refine Or.inr ⟨before, node, after, split,
            ⟨string, hidden, guarded before node after split string⟩, by rw [Nat.zero_add]; rfl, ?_⟩
          intro front other middle shorter stray
          have refused := earliest front other middle shorter
          rw [isDocstring_iff.mpr ⟨stray.string, stray.hidden⟩] at refused
          cases refused

/-- The anchor is the described one unless the description gives the module and a stray string is taken
for a docstring; then it is the first of them. -/
theorem importAnchor_eq_documented_iff (tree : SyntaxTree) :
    (tree.importAnchor = tree.documentedAnchor ↔
        tree.documentedAnchor ≠ NodeRef.root ∨
          ∀ before node after, tree.root.children = before ++ node :: after →
            ¬ IsStray before node) ∧
      (tree.importAnchor ≠ tree.documentedAnchor →
        tree.documentedAnchor = NodeRef.root ∧
          ∃ before node after, tree.root.children = before ++ node :: after ∧ IsStray before node ∧
            tree.importAnchor = NodeRef.of node [before.length] ∧
            ∀ front other middle, before = front ++ other :: middle → ¬ IsStray front other) := by
  by_cases undocumented : tree.documentedAnchor = NodeRef.root
  · rcases importAnchor_of_undocumented undocumented with
      ⟨atRoot, none⟩ | ⟨before, node, after, split, stray, taken, earliest⟩
    · have same : tree.importAnchor = tree.documentedAnchor := atRoot.trans undocumented.symm
      exact ⟨⟨fun _ => Or.inr none, fun _ => same⟩, fun different => absurd same different⟩
    · have different : tree.importAnchor ≠ tree.documentedAnchor := by
        rw [taken, undocumented]
        exact ne_root_of_child node _
      refine ⟨⟨fun same => absurd same different, ?_⟩,
        fun _ => ⟨undocumented, before, node, after, split, stray, taken, earliest⟩⟩
      rintro (documented | none)
      · exact absurd undocumented documented
      · exact absurd stray (none before node after split)
  · have same := importAnchor_of_documented undocumented
    exact ⟨⟨fun _ => Or.inl undocumented, fun _ => same⟩, fun different => absurd same different⟩

example : (parse "x = 1\n# c\n's'\n".toList).importAnchor = ⟨"expression_statement", [2]⟩ ∧
    (parse "x = 1\n# c\n's'\n".toList).documentedAnchor = NodeRef.root := by
  decide +kernel

end AgentProbe.Syntax.SyntaxTree
