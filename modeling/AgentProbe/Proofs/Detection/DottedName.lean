import AgentProbe.Detection.Signature

set_option autoImplicit false

/-!
Dotted names, piece by piece.

Callees and packages are compared as texts with a dot in front or behind.  This is a comparison of the
pieces between the dots: a pattern names the calls whose callee ends with its pieces, and a package
holds the modules that begin with its pieces.  A piece is never matched in part.
-/

namespace AgentProbe

namespace Syntax

/-- The pieces of a dotted name between its dots. -/
def segments (dotted : String) : List String :=
  (dotted.toList.splitOn '.').map String.ofList

theorem segments_ne_nil (dotted : String) : segments dotted ≠ [] := by
  rw [segments, ne_eq, List.map_eq_nil_iff]
  exact List.splitOn_ne_nil '.' dotted.toList

theorem intercalate_segments (dotted : String) : ".".intercalate (segments dotted) = dotted := by
  apply String.toList_inj.mp
  rw [String.toList_intercalate, segments, List.map_map]
  have same : String.toList ∘ String.ofList = id := funext fun _ => String.toList_ofList
  have dot : ".".toList = ['.'] := rfl
  rw [same, List.map_id, dot, List.intercalate_splitOn]

theorem toList_dotted (front back : String) :
    (front ++ "." ++ back).toList = front.toList ++ '.' :: back.toList := by
  have dot : ".".toList = ['.'] := rfl
  rw [String.toList_append, String.toList_append, dot, List.append_assoc, List.singleton_append]

theorem segments_append (front back : String) :
    segments (front ++ "." ++ back) = segments front ++ segments back := by
  rw [segments, toList_dotted, List.splitOn_append_cons_self, List.map_append]
  rfl

theorem segments_of_undotted {dotted : String} (undotted : '.' ∉ dotted.toList) :
    segments dotted = [dotted] := by
  rw [segments, List.splitOn_eq_singleton undotted, List.map_singleton, String.ofList_toList]

theorem segments_inj {first second : String} (same : segments first = segments second) :
    first = second := by
  rw [← intercalate_segments first, same, intercalate_segments]

/-- Pieces in front are a text in front that ends with a dot. -/
theorem segments_prefix_iff {part whole : String} :
    segments part <+: segments whole ↔ whole = part ∨ ∃ rest, whole = part ++ "." ++ rest := by
  constructor
  · rintro ⟨more, split⟩
    cases more with
    | nil =>
        rw [List.append_nil] at split
        exact Or.inl (segments_inj split).symm
    | cons piece pieces =>
        refine Or.inr ⟨".".intercalate (piece :: pieces), ?_⟩
        rw [← intercalate_segments whole, ← split,
          String.intercalate_append_of_ne_nil (segments_ne_nil part) (List.cons_ne_nil _ _),
          intercalate_segments]
  · rintro (rfl | ⟨rest, rfl⟩)
    · exact List.prefix_rfl
    · rw [segments_append]
      exact List.prefix_append _ _

/-- Pieces at the end are a text at the end that starts with a dot. -/
theorem segments_suffix_iff {part whole : String} :
    segments part <:+ segments whole ↔ whole = part ∨ ∃ front, whole = front ++ "." ++ part := by
  constructor
  · rintro ⟨more, split⟩
    cases more with
    | nil => exact Or.inl (segments_inj split).symm
    | cons piece pieces =>
        refine Or.inr ⟨".".intercalate (piece :: pieces), ?_⟩
        rw [← intercalate_segments whole, ← split,
          String.intercalate_append_of_ne_nil (List.cons_ne_nil _ _) (segments_ne_nil part),
          intercalate_segments]
  · rintro (rfl | ⟨front, rfl⟩)
    · exact List.suffix_rfl
    · rw [segments_append]
      exact List.suffix_append _ _

/-! ### The last piece -/

theorem undotted_lastSegment (dotted : String) : '.' ∉ (lastSegment dotted).toList := by
  rw [lastSegment, String.toList_ofList, List.mem_reverse]
  intro member
  have other := List.all_eq_true.mp List.all_takeWhile _ member
  exact absurd other (by decide)

/-- A dotted name is its last piece, with whole pieces in front if there are any. -/
theorem segments_lastSegment_suffix (dotted : String) :
    segments (lastSegment dotted) <:+ segments dotted := by
  rw [segments_suffix_iff]
  have split := List.takeWhile_append_dropWhile (p := (· != '.')) (l := dotted.toList.reverse)
  have whole := congrArg List.reverse split
  rw [List.reverse_append, List.reverse_reverse] at whole
  have last : (dotted.toList.reverse.takeWhile (· != '.')).reverse = (lastSegment dotted).toList := by
    rw [lastSegment, String.toList_ofList]
  rw [last] at whole
  cases shape : dotted.toList.reverse.dropWhile (· != '.') with
  | nil =>
      rw [shape, List.reverse_nil, List.nil_append] at whole
      exact Or.inl (String.toList_inj.mp whole.symm)
  | cons c rest =>
      have stops := List.head?_dropWhile_not (· != '.') dotted.toList.reverse
      rw [shape] at stops
      have dot : c = '.' := by simpa using stops
      refine Or.inr ⟨String.ofList rest.reverse, String.toList_inj.mp ?_⟩
      rw [toList_dotted, String.toList_ofList, ← whole, shape, dot, List.reverse_cons,
        List.append_assoc, List.singleton_append]

theorem getLast?_segments (dotted : String) :
    (segments dotted).getLast? = some (lastSegment dotted) := by
  obtain ⟨front, split⟩ := segments_lastSegment_suffix dotted
  rw [segments_of_undotted (undotted_lastSegment dotted)] at split
  rw [← split, List.getLast?_concat]

/-! ### Comparisons -/

theorem isPrefix_dot_iff {front whole : String} :
    (front ++ ".").toList <+: whole.toList ↔ ∃ rest, whole = front ++ "." ++ rest := by
  constructor
  · rintro ⟨rest, split⟩
    refine ⟨String.ofList rest, String.toList_inj.mp ?_⟩
    rw [String.toList_append, String.toList_ofList, split]
  · rintro ⟨rest, rfl⟩
    exact ⟨rest.toList, String.toList_append.symm⟩

theorem isSuffix_dot_iff {back whole : String} :
    '.' :: back.toList <:+ whole.toList ↔ ∃ front, whole = front ++ "." ++ back := by
  constructor
  · rintro ⟨front, split⟩
    refine ⟨String.ofList front, String.toList_inj.mp ?_⟩
    rw [toList_dotted, String.toList_ofList, split]
  · rintro ⟨front, rfl⟩
    exact ⟨front.toList, (toList_dotted front back).symm⟩

theorem Import.isWithin_iff {package module : String} :
    Import.isWithin package module = true ↔ segments package <+: segments module := by
  rw [Import.isWithin, Bool.or_eq_true, beq_iff_eq, List.isPrefixOf_iff_prefix,
    isPrefix_dot_iff, segments_prefix_iff]

theorem lastSegment_eq_iff {dotted pattern : String} (undotted : '.' ∉ pattern.toList) :
    lastSegment dotted = pattern ↔ segments pattern <:+ segments dotted := by
  constructor
  · rintro rfl
    exact segments_lastSegment_suffix dotted
  · rintro ⟨front, split⟩
    have last := getLast?_segments dotted
    rw [← split, segments_of_undotted undotted, List.getLast?_concat] at last
    exact (Option.some.inj last).symm

/-- A call whose name is the last piece of its callee is named by the pieces at the end of the
callee. -/
theorem Call.isNamedBy_iff {call : Call} (named : call.name = lastSegment call.callee)
    (pattern : String) :
    call.isNamedBy pattern = true ↔
      pattern = "*" ∨ segments pattern <:+ segments call.callee := by
  rw [Call.isNamedBy]
  by_cases every : pattern = "*"
  · simp [every]
  · rw [if_neg (by simpa using every), or_iff_right every]
    by_cases dotted : '.' ∈ pattern.toList
    · rw [if_pos (List.contains_iff_mem.mpr dotted), Bool.or_eq_true, beq_iff_eq,
        List.isPrefixOf_iff_prefix, List.reverse_prefix, isSuffix_dot_iff, segments_suffix_iff]
    · rw [if_neg (by simpa using dotted), beq_iff_eq, named, lastSegment_eq_iff dotted]

theorem SyntaxTree.name_of_callAt {tree : SyntaxTree} {node : Node} {path : List Nat} {call : Call}
    (read : tree.callAt node path = some call) : call.name = lastSegment call.callee := by
  unfold SyntaxTree.callAt at read
  split at read
  · cases read
    rfl
  · cases read

end Syntax

theorem Signature.matchesModule_iff {signature : Signature} {entry : Syntax.Import} :
    signature.matchesModule entry.module = true ↔
      ∃ root ∈ signature.modules, entry.isFromPackage root = true :=
  List.any_eq_true

open Syntax (SyntaxTree Node Call Import segments lastSegment)

/-- A pattern other than the one for all calls names those whose callee ends with its pieces; an import
draws on a package when its module begins with the pieces of the package, and counts for a framework
when it draws on one of its modules. -/
theorem dotted_names_match :
    (∀ (call : Call) (pattern : String), call.name = lastSegment call.callee →
      (call.isNamedBy pattern = true ↔
        pattern = "*" ∨ segments pattern <:+ segments call.callee)) ∧
    (∀ (tree : SyntaxTree) (node : Node) (path : List Nat) (call : Call),
      tree.callAt node path = some call → call.name = lastSegment call.callee) ∧
    (∀ (entry : Import) (package : String),
      entry.isFromPackage package = true ↔ segments package <+: segments entry.module) ∧
    (∀ (signature : Signature) (entry : Import),
      signature.matchesModule entry.module = true ↔
        ∃ root ∈ signature.modules, entry.isFromPackage root = true) :=
  ⟨fun _ pattern named => Call.isNamedBy_iff named pattern,
    fun _ _ _ _ read => SyntaxTree.name_of_callAt read,
    fun _ _ => Import.isWithin_iff,
    fun _ _ => Signature.matchesModule_iff⟩

def chainedCall : Call :=
  { callee := "load(x.y).agents.Agent", name := "Agent", rootBinding := "load(x", arguments := []
    line := 1, snippet := "load(x.y).agents.Agent()", node := ⟨"call", [0, 0]⟩ }

theorem dotted_names_match_chained :
    chainedCall.name = lastSegment chainedCall.callee ∧
      chainedCall.isNamedBy "agents.Agent" = true ∧
      ¬ chainedCall.isNamedBy "gents.Agent" = true := by
  have named : chainedCall.name = lastSegment chainedCall.callee := by decide +kernel
  refine ⟨named, ?_, ?_⟩
  · exact (dotted_names_match.1 chainedCall "agents.Agent" named).mpr (by decide +kernel)
  · rw [dotted_names_match.1 chainedCall "gents.Agent" named]
    decide +kernel

end AgentProbe
