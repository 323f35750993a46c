import AgentProbe.Plan.Planner
import AgentProbe.Proofs.Syntax.Order

set_option autoImplicit false

/-!
Which call a plan attaches to.

Calls are tried callee by callee.  Among the calls of one callee that go through a name of the
framework the first is taken in the order of three keys: a bound root before a wildcard, then the
depth, then the place in the document.  Sorting looks at the first two keys only; it is stable, and
calls are listed in document order.
-/

namespace AgentProbe

open Syntax (SyntaxTree Call)

/-! ### The order of ranks -/

namespace Syntax.Call

def detour (bindings : List String) (call : Call) : Nat :=
  if bindings.contains call.rootBinding then 0 else 1

theorem precedes_iff {bindings : List String} {left right : Call} :
    Call.precedes bindings left right = true ↔
      left.detour bindings < right.detour bindings ∨
        left.detour bindings = right.detour bindings ∧ left.node.depth ≤ right.node.depth := by
  simp only [Call.precedes, detour]
  generalize bindings.contains left.rootBinding = leftBound
  generalize bindings.contains right.rootBinding = rightBound
  cases leftBound with
  | false => cases rightBound <;> simp
  | true => cases rightBound <;> simp

theorem precedes_trans (bindings : List String) (first second third : Call)
    (early : Call.precedes bindings first second = true)
    (late : Call.precedes bindings second third = true) :
    Call.precedes bindings first third = true := by
  rw [precedes_iff] at early late ⊢
  omega

theorem precedes_total (bindings : List String) (left right : Call) :
    (Call.precedes bindings left right || Call.precedes bindings right left) = true := by
  rw [Bool.or_eq_true, precedes_iff, precedes_iff]
  omega

/-- Whether a call is tried before another one of the same callee. -/
def IsAhead (bindings : List String) (left right : Call) : Prop :=
  left.detour bindings < right.detour bindings ∨
    left.detour bindings = right.detour bindings ∧
      (left.node.depth < right.node.depth ∨
        left.node.depth = right.node.depth ∧ left.node.path < right.node.path)

theorem IsAhead.asymm {bindings : List String} {left right : Call}
    (ahead : left.IsAhead bindings right) : ¬ right.IsAhead bindings left := by
  intro behind
  rcases ahead with nearer | ⟨near, shallower | ⟨deep, earlier⟩⟩
  · rcases behind with other | ⟨same, _⟩ <;> omega
  · rcases behind with other | ⟨same, other | ⟨level, _⟩⟩ <;> omega
  · rcases behind with other | ⟨same, other | ⟨level, later⟩⟩
    · omega
    · omega
    · exact List.lt_asymm earlier later

end Syntax.Call

/-- The first of some ranked calls is ahead of all others, if the calls are given in document order. -/
theorem first_rankCalls {bindings : List String} {calls : List Call} {call : Call}
    (sorted : calls.Pairwise fun first second => first.node.path < second.node.path)
    (first : (Syntax.rankCalls bindings calls).head? = some call) :
    call ∈ calls ∧ ∀ other ∈ calls, other = call ∨ call.IsAhead bindings other := by
  obtain ⟨rest, ranked⟩ := List.head?_eq_some_iff.mp first
  have shuffled : (call :: rest).Perm calls := by
    rw [← ranked]
    exact List.mergeSort_perm calls _
  have ordered : (call :: rest).Pairwise fun left right =>
      Call.precedes bindings left right = true := by
    rw [← ranked]
    exact List.pairwise_mergeSort (Call.precedes_trans bindings) (Call.precedes_total bindings) calls
  have listed : calls.Nodup := by
    apply sorted.imp
    intro left right earlier same
    rw [same] at earlier
    exact List.lt_irrefl _ earlier
  have once : call ∉ rest := (List.nodup_cons.mp (shuffled.nodup_iff.mpr listed)).1
  refine ⟨shuffled.subset List.mem_cons_self, ?_⟩
  intro other member
  rcases List.mem_cons.mp (shuffled.symm.subset member) with same | behind
  · exact Or.inl same
  have tried := Call.precedes_iff.mp (List.rel_of_pairwise_cons ordered behind)
  by_cases tied : Call.precedes bindings other call = true
  · have level := Call.precedes_iff.mp tied
    obtain ⟨before, after, rfl⟩ := List.append_of_mem (shuffled.subset List.mem_cons_self)
    rcases List.mem_append.mp member with early | late
    · -- Sorting is stable, so an earlier call of the same rank would have come first.
      exfalso
      have pair : [other, call].Sublist (before ++ call :: after) :=
        (List.singleton_sublist.mpr early).append (List.singleton_sublist.mpr List.mem_cons_self)
      have kept := List.pair_sublist_mergeSort (Call.precedes_trans bindings)
        (Call.precedes_total bindings) tied pair
      rw [Syntax.rankCalls] at ranked
      rw [ranked] at kept
      cases kept with
      | cons _ inside => exact once (inside.subset (by simp))
      | cons_cons _ inside => exact once (List.singleton_sublist.mp inside)
    · rcases List.mem_cons.mp late with same | later
      · exact Or.inl same
      · have following := (List.pairwise_append.mp sorted).2.1
        have earlier := List.rel_of_pairwise_cons following later
        refine Or.inr (Or.inr ⟨by omega, Or.inr ⟨by omega, earlier⟩⟩)
  · rw [Call.precedes_iff] at tied
    right
    unfold Call.IsAhead
    omega

theorem head?_rankCalls_iff {bindings : List String} {calls : List Call} {call : Call}
    (sorted : calls.Pairwise fun first second => first.node.path < second.node.path) :
    (Syntax.rankCalls bindings calls).head? = some call ↔
      call ∈ calls ∧ ∀ other ∈ calls, other = call ∨ call.IsAhead bindings other := by
  constructor
  · exact first_rankCalls sorted
  · rintro ⟨member, ahead⟩
    cases ranked : (Syntax.rankCalls bindings calls).head? with
    | none =>
        have shuffled : (Syntax.rankCalls bindings calls).Perm calls := List.mergeSort_perm calls _
        rw [List.head?_eq_none_iff.mp ranked] at shuffled
        exact absurd (shuffled.symm.subset member) List.not_mem_nil
    | some first =>
        obtain ⟨listed, before⟩ := first_rankCalls sorted ranked
        rcases before call member with same | early
        · rw [same]
        · rcases ahead first listed with same | late
          · rw [same]
          · exact absurd early late.asymm

/-! ### The call of a plan -/

namespace Syntax.SyntaxTree

def Binds (tree : SyntaxTree) (signature : Signature) (name : String) : Prop :=
  ∃ entry ∈ tree.imports, signature.matchesModule entry.module = true ∧
    ∃ imported ∈ entry.names, imported.binding = name

/-- A callee names the call, and the framework binds the root of what is called, or may bind it by a
wildcard. -/
def Eligible (tree : SyntaxTree) (signature : Signature) (callee : String) (call : Call) : Prop :=
  call ∈ tree.allCalls ∧ call.isNamedBy callee = true ∧
    (tree.Binds signature call.rootBinding ∨
      tree.Binds signature "*" ∧ '.' ∉ call.callee.toList)

/-- A call is taken before another one: the framework binds the root of the first one only, or of both
or none of them and it is less deep, or as deep and earlier in the document. -/
def Prefers (tree : SyntaxTree) (signature : Signature) (left right : Call) : Prop :=
  (tree.Binds signature left.rootBinding ∧ ¬ tree.Binds signature right.rootBinding) ∨
    (tree.Binds signature left.rootBinding ↔ tree.Binds signature right.rootBinding) ∧
      (left.node.depth < right.node.depth ∨
        left.node.depth = right.node.depth ∧ left.node.path < right.node.path)

variable {tree : SyntaxTree} {signature : Signature}

theorem mem_frameworkBindings {name : String} :
    name ∈ frameworkBindings tree.imports signature ↔ tree.Binds signature name := by
  simp only [frameworkBindings, Binds, Syntax.Import.bindings, List.mem_flatMap, List.mem_filter,
    List.mem_map, and_assoc]

theorem mem_eligible {callee : String} {call : Call} :
    call ∈ (tree.calls callee).filter (isEligible (frameworkBindings tree.imports signature)) ↔
      tree.Eligible signature callee call := by
  simp only [calls, Eligible, isEligible, List.mem_filter, Bool.or_eq_true, Bool.and_eq_true,
    List.contains_iff_mem, mem_frameworkBindings, Bool.not_eq_true', ← Bool.not_eq_true, and_assoc]

theorem isAhead_iff {left right : Call} :
    left.IsAhead (frameworkBindings tree.imports signature) right ↔
      tree.Prefers signature left right := by
  simp only [Syntax.Call.IsAhead, Syntax.Call.detour, Prefers, List.contains_iff_mem,
    ← mem_frameworkBindings]
  by_cases here : left.rootBinding ∈ frameworkBindings tree.imports signature
  · by_cases there : right.rootBinding ∈ frameworkBindings tree.imports signature <;>
      simp [here, there]
  · by_cases there : right.rootBinding ∈ frameworkBindings tree.imports signature <;>
      simp [here, there]

theorem head?_eligible {callee : String} {call : Call} :
    (Syntax.rankCalls (frameworkBindings tree.imports signature)
        ((tree.calls callee).filter
          (isEligible (frameworkBindings tree.imports signature)))).head? = some call ↔
      tree.Eligible signature callee call ∧
        ∀ other, tree.Eligible signature callee other →
          other = call ∨ tree.Prefers signature call other := by
  have sorted : (tree.calls callee).Pairwise fun first second =>
      first.node.path < second.node.path := by
    unfold calls
    exact tree.allCalls_sorted.filter _
  simp only [head?_rankCalls_iff (sorted.filter _), mem_eligible, isAhead_iff]

theorem head?_eligible_eq_none {callee : String} :
    (Syntax.rankCalls (frameworkBindings tree.imports signature)
        ((tree.calls callee).filter
          (isEligible (frameworkBindings tree.imports signature)))).head? = none ↔
      ∀ call, ¬ tree.Eligible signature callee call := by
  have shuffled := List.mergeSort_perm ((tree.calls callee).filter
    (isEligible (frameworkBindings tree.imports signature)))
    (Call.precedes (frameworkBindings tree.imports signature))
  rw [List.head?_eq_none_iff, Syntax.rankCalls, ← List.perm_nil, shuffled.congr_left,
    List.perm_nil, List.eq_nil_iff_forall_not_mem]
  simp only [mem_eligible]

theorem not_eligible_of_unbound (unbound : ∀ name, ¬ tree.Binds signature name) (callee : String)
    (call : Call) : ¬ tree.Eligible signature callee call := by
  rintro ⟨_, _, rooted | ⟨wildcard, _⟩⟩
  · exact unbound _ rooted
  · exact unbound _ wildcard

end Syntax.SyntaxTree

open Syntax.SyntaxTree in
/-- The call that a plan attaches to. There is none exactly if the framework binds no name or none of
the callees has an eligible call.  Otherwise the first callee with eligible calls decides, and of
these the one is taken that is preferred to all others. -/
theorem anchorCall?_chooses (tree : SyntaxTree) (signature : Signature) (callees : List String) :
    (anchorCall? tree tree.imports signature callees = none ↔
        (∀ name, ¬ tree.Binds signature name) ∨
          ∀ callee ∈ callees, ∀ call, ¬ tree.Eligible signature callee call) ∧
      ∀ call, anchorCall? tree tree.imports signature callees = some call ↔
        ∃ earlier callee later, callees = earlier ++ callee :: later ∧
          (∀ other ∈ earlier, ∀ call, ¬ tree.Eligible signature other call) ∧
          tree.Eligible signature callee call ∧
          ∀ other, tree.Eligible signature callee other →
            other = call ∨ tree.Prefers signature call other := by
  have nothing : (frameworkBindings tree.imports signature).isEmpty = true ↔
      ∀ name, ¬ tree.Binds signature name := by
    rw [List.isEmpty_iff, List.eq_nil_iff_forall_not_mem]
    simp only [mem_frameworkBindings]
  simp only [anchorCall?]
  by_cases unbound : (frameworkBindings tree.imports signature).isEmpty = true
  · have none := not_eligible_of_unbound (nothing.mp unbound)
    rw [if_pos unbound]
    refine ⟨iff_of_true rfl (Or.inl (nothing.mp unbound)), ?_⟩
    intro call
    refine iff_of_false (by simp) ?_
    rintro ⟨_, callee, _, _, _, eligible, _⟩
    exact none callee call eligible
  · rw [if_neg unbound]
    rw [nothing] at unbound
    constructor
    · rw [List.findSome?_eq_none_iff]
      simp only [head?_eligible_eq_none, unbound, false_or]
    · intro call
      rw [List.findSome?_eq_some_iff]
      simp only [head?_eligible, head?_eligible_eq_none]
      constructor
      · rintro ⟨earlier, callee, later, split, chosen, none⟩
        exact ⟨earlier, callee, later, split, none, chosen⟩
      · rintro ⟨earlier, callee, later, split, none, chosen⟩
        exact ⟨earlier, callee, later, split, chosen, none⟩

end AgentProbe
