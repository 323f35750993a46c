import Mathlib.Data.List.Pairwise
import AgentProbe.Proofs.Edit.Selection
import AgentProbe.Proofs.Plan.Spans

set_option autoImplicit false

/-!
Which plans can be applied.

A planner that finds no conflict has compared the calls of its points only for equality.  Calls can be
inside each other, though, and a point in list mode may replace the whole value of a keyword.  The
edits of a plan are refused exactly if one of them replaces a value that holds the call of another.
-/

namespace AgentProbe

open Syntax (SyntaxTree Node)

/-! ### Edits side by side -/

namespace TextEdit

/-- Two edits that can be applied together in either order: they do not touch, or both insert. -/
def Beside (left right : TextEdit) : Prop :=
  left.stop < right.start ∨ right.stop < left.start ∨
    (left.start = left.stop ∧ right.start = right.stop)

theorem Beside.symm {left right : TextEdit} (beside : left.Beside right) : right.Beside left := by
  unfold Beside at beside ⊢
  omega

theorem forward_of_fits {source : Text} {edits : List TextEdit}
    (fit : ∀ edit ∈ edits, edit.fits source = true) :
    ∀ edit ∈ ordered edits, edit.start ≤ edit.stop := fun edit member =>
  (fits_iff.mp (fit edit (mem_ordered.mp member))).1

theorem overlap?_eq_some {edits : List TextEdit} {first second : TextEdit}
    (found : overlap? edits = some (first, second)) :
    first ∈ edits ∧ second ∈ edits ∧ second.start < first.stop := by
  fun_induction overlap? edits with
  | case1 left right rest overlapping =>
      cases found
      exact ⟨List.mem_cons_self, List.mem_cons_of_mem _ List.mem_cons_self, overlapping⟩
  | case2 left right rest apart ih =>
      obtain ⟨here, there, overlapping⟩ := ih found
      exact ⟨List.mem_cons_of_mem _ here, List.mem_cons_of_mem _ there, overlapping⟩
  | case3 => cases found

theorem Delimited.fits {source : Text} {edit : TextEdit} (delimited : edit.Delimited source)
    (forward : edit.start ≤ edit.stop) : edit.fits source = true :=
  fits_iff.mpr ⟨forward, Text.le_bytes_of_isBoundary delimited.2, delimited.1, delimited.2⟩

end TextEdit

theorem applyEdits_of_beside {source : Text} {edits : List TextEdit}
    (fit : ∀ edit ∈ edits, edit.fits source = true) (beside : edits.Pairwise TextEdit.Beside) :
    ∃ text, applyEdits source edits = .ok text := by
  refine ⟨_, applyEdits_eq_ok_iff.mpr ⟨fit, ?_, rfl⟩⟩
  have forward := TextEdit.forward_of_fits fit
  have sorted : (TextEdit.ordered edits).Pairwise fun left right => left.precedes right = true :=
    List.pairwise_mergeSort TextEdit.precedes_trans TextEdit.precedes_total edits
  have apart : (TextEdit.ordered edits).Pairwise TextEdit.Beside :=
    ((List.mergeSort_perm edits TextEdit.precedes).pairwise_iff TextEdit.Beside.symm).mpr beside
  refine (TextEdit.overlap?_eq_none_iff forward).mpr ((sorted.and apart).imp_of_mem ?_)
  intro left right here there ⟨early, beside⟩
  have stops := forward left here
  have ends := forward right there
  rw [TextEdit.precedes_iff] at early
  unfold TextEdit.Beside at beside
  omega

theorem applyEdits_apart {source text : Text} {edits : List TextEdit}
    (applied : applyEdits source edits = .ok text) {left right : TextEdit} (here : left ∈ edits)
    (there : right ∈ edits) (different : left ≠ right) :
    left.stop ≤ right.start ∨ right.stop ≤ left.start := by
  obtain ⟨fit, free, _⟩ := applyEdits_eq_ok_iff.mp applied
  have pairs : (TextEdit.ordered edits).Pairwise fun left right =>
      left.stop ≤ right.start ∨ right.stop ≤ left.start :=
    ((TextEdit.overlap?_eq_none_iff (TextEdit.forward_of_fits fit)).mp free).imp Or.inl
  have symmetric : Std.Symm fun left right : TextEdit =>
      left.stop ≤ right.start ∨ right.stop ≤ left.start := ⟨fun _ _ => Or.symm⟩
  exact pairs.forall (TextEdit.mem_ordered.mpr here) (TextEdit.mem_ordered.mpr there) different

/-- Edits whose spans delimit pieces of the text can only be refused because two of them overlap. -/
theorem applyEdits_eq_error {source : Text} {edits : List TextEdit} {fault : EditError}
    (fit : ∀ edit ∈ edits, edit.fits source = true)
    (refused : applyEdits source edits = .error fault) :
    ∃ first ∈ edits, ∃ second ∈ edits,
      fault = .inapplicable second.id (.overlaps first.id) ∧ second.start < first.stop := by
  have none : (TextEdit.ordered edits).find? (fun edit => !edit.fits source) = none := by
    refine List.find?_eq_none.mpr ?_
    intro edit member
    rw [fit edit (TextEdit.mem_ordered.mp member)]
    decide
  simp only [applyEdits, none] at refused
  split at refused
  · rename_i first second found
    cases refused
    obtain ⟨here, there, overlapping⟩ := TextEdit.overlap?_eq_some found
    exact ⟨first, TextEdit.mem_ordered.mp here, second, TextEdit.mem_ordered.mp there, rfl,
      overlapping⟩
  · cases refused

/-! ### Points and their calls -/

namespace InjectionPoint

variable {tree : SyntaxTree} {point : InjectionPoint} {edit : TextEdit}

/-- Whether the call that a point is for is in the value that another point wraps. -/
def engulfs (tree : SyntaxTree) (outer inner : InjectionPoint) : Bool :=
  match inner.kind, tree.resolve inner.anchor, outer.wrapped? tree with
  | .argument _ _, some call, some value =>
    decide (value.start ≤ call.start) && decide (call.stop ≤ value.stop)
  | _, _, _ => false

theorem engulfs_iff {outer inner : InjectionPoint} :
    outer.engulfs tree inner = true ↔
      ∃ keyword mode call value, inner.kind = .argument keyword mode ∧
        tree.resolve inner.anchor = some call ∧ outer.wrapped? tree = some value ∧
        value.start ≤ call.start ∧ call.stop ≤ value.stop := by
  unfold engulfs
  constructor
  · intro covers
    split at covers
    · rename_i keyword mode call value kind found wraps
      rw [Bool.and_eq_true, decide_eq_true_eq, decide_eq_true_eq] at covers
      exact ⟨keyword, mode, call, value, kind, found, wraps, covers⟩
    · cases covers
  · rintro ⟨keyword, mode, call, value, kind, found, wraps, starts, stops⟩
    simp only [kind, found, wraps, starts, stops, decide_true, Bool.and_self]

/-- The edits of two points are side by side if the call of one is properly inside that of the other
and is not in a value that the other wraps. -/
theorem beside_of_inner {outer inner : InjectionPoint} {outerEdit innerEdit : TextEdit}
    (placed : tree.WellPlaced) (outerFor : outer.IsForCall tree) (innerFor : inner.IsForCall tree)
    (outerMade : outer.edit tree = .ok outerEdit) (innerMade : inner.edit tree = .ok innerEdit)
    {rest : List Nat} (below : inner.anchor.path = outer.anchor.path ++ rest) (proper : rest ≠ [])
    (spares : outer.engulfs tree inner = false) : outerEdit.Beside innerEdit := by
  obtain ⟨outerCall, _, _, outerFound, _, _, outerKind⟩ := outerFor.reached
  obtain ⟨innerCall, keyword, mode, innerFound, isCall, _, innerKind⟩ := innerFor.reached
  have reached : outerCall.at? rest = some innerCall := by
    have whole : tree.root.at? (outer.anchor.path ++ rest) = some innerCall := by
      rw [← below]
      exact innerFound
    rw [Node.at?_append, show tree.root.at? outer.anchor.path = some outerCall from outerFound]
      at whole
    exact whole
  obtain ⟨low, _, high⟩ := inside_of_argument placed innerMade innerKind innerFound
  rcases outside_of_argument placed outerMade outerKind outerFound reached proper isCall with
    outside | ⟨value, wraps, starts, stops⟩
  · unfold TextEdit.Outside at outside
    unfold TextEdit.Beside
    omega
  · rw [engulfs_iff.mpr ⟨keyword, mode, innerCall, value, innerKind, innerFound, wraps, starts,
      stops⟩] at spares
    cases spares

section Pair

variable {left right : InjectionPoint} {leftEdit rightEdit : TextEdit}

theorem beside_of_calls (placed : tree.WellPlaced) (leftFor : left.IsForCall tree)
    (rightFor : right.IsForCall tree) (different : left.anchor ≠ right.anchor)
    (leftMade : left.edit tree = .ok leftEdit) (rightMade : right.edit tree = .ok rightEdit)
    (sparesRight : left.engulfs tree right = false)
    (sparesLeft : right.engulfs tree left = false) : leftEdit.Beside rightEdit := by
  obtain ⟨leftCall, _, _, leftFound, _, leftAnchor, leftKind⟩ := leftFor.reached
  obtain ⟨rightCall, _, _, rightFound, _, rightAnchor, rightKind⟩ := rightFor.reached
  have paths : left.anchor.path ≠ right.anchor.path := by
    intro same
    apply different
    rw [show left.anchor = ⟨left.anchor.kind, left.anchor.path⟩ from rfl, leftAnchor, same,
      ← rightAnchor]
  rcases Node.prefix_or_apart placed.nested leftFound rightFound with
    ⟨rest, below⟩ | ⟨rest, below⟩ | apart
  · refine beside_of_inner placed leftFor rightFor leftMade rightMade below.symm ?_ sparesRight
    rintro rfl
    exact paths (by rw [← below, List.append_nil])
  · refine (beside_of_inner placed rightFor leftFor rightMade leftMade below.symm ?_
      sparesLeft).symm
    rintro rfl
    exact paths (by rw [← below, List.append_nil])
  · obtain ⟨low, _, high⟩ := inside_of_argument placed leftMade leftKind leftFound
    obtain ⟨above, _, ahead⟩ := inside_of_argument placed rightMade rightKind rightFound
    unfold Node.Apart at apart
    unfold TextEdit.Beside
    omega

theorem beside_of_statement (placed : tree.WellPlaced) (rooted : tree.root.kind.name = "module")
    (anchored : left.anchor = tree.importAnchor)
    (kind : left.kind = .insertImport ∨ left.kind = .insertAfter) (rightFor : right.IsForCall tree)
    (leftMade : left.edit tree = .ok leftEdit) (rightMade : right.edit tree = .ok rightEdit) :
    leftEdit.Beside rightEdit := by
  obtain ⟨call, _, _, found, isCall, _, argument⟩ := rightFor.reached
  have outside := outside_of_statement leftMade kind anchored placed rooted
    ⟨right.anchor.path, found⟩ isCall
  obtain ⟨low, _, high⟩ := inside_of_argument placed rightMade argument found
  unfold TextEdit.Outside at outside
  unfold TextEdit.Beside
  omega

end Pair

end InjectionPoint

/-! ### Plans -/

theorem applyEdits_ne_ok_of_engulfs {tree : SyntaxTree} {plan : EditPlan} {edits : List TextEdit}
    {outer inner : InjectionPoint} (placed : tree.WellPlaced)
    (made : editsFor tree plan = .ok edits) (outerPlanned : outer ∈ plan.points)
    (innerPlanned : inner ∈ plan.points) (engulfed : outer.engulfs tree inner = true)
    (text : Text) : applyEdits tree.source edits ≠ .ok text := by
  intro applied
  obtain ⟨keyword, mode, call, value, kind, found, wraps, starts, stops⟩ :=
    InjectionPoint.engulfs_iff.mp engulfed
  obtain ⟨outerEdit, outerMember, outerMade⟩ :=
    Sequencing.ok_of_mapM_eq_ok (editsFor_eq_ok made) outerPlanned
  obtain ⟨innerEdit, innerMember, innerMade⟩ :=
    Sequencing.ok_of_mapM_eq_ok (editsFor_eq_ok made) innerPlanned
  have span := outer.edit_of_wrapped outerMade wraps
  obtain ⟨low, _, high⟩ := inner.inside_of_argument placed innerMade kind found
  -- The inner edit is strictly inside the value, so the two are not the same.
  have different : outerEdit ≠ innerEdit := by
    intro same
    rw [same] at span
    omega
  have apart := applyEdits_apart applied outerMember innerMember different
  omega

section Plan

variable {targets : List Target} {path : String} {tree : SyntaxTree} {inputs : List PlanInput}
  (placed : tree.WellPlaced)
  (clear : (planFile targets path tree inputs).conflict = none)

include placed clear

theorem planFile_fits {point : InjectionPoint} {edit : TextEdit}
    (planned : point ∈ (planFile targets path tree inputs).points)
    (made : point.edit tree = .ok edit) : edit.fits tree.source = true := by
  rcases (planFile_points clear).2 point planned with forCall | ⟨anchored, kind⟩
  · obtain ⟨call, _, _, found, _, _, kind⟩ := forCall.reached
    exact (point.delimited_of_argument placed made kind).fits
      (point.inside_of_argument placed made kind found).2.1
  · exact (point.delimited_of_statement made kind anchored placed).fits
      (Nat.le_of_eq (point.insertion_of_statement made kind))

theorem planFile_beside {edits : List TextEdit} (rooted : tree.root.kind.name = "module")
    (made : editsFor tree (planFile targets path tree inputs) = .ok edits)
    (spares : ∀ outer ∈ (planFile targets path tree inputs).points,
      ∀ inner ∈ (planFile targets path tree inputs).points, outer.engulfs tree inner = false) :
    edits.Pairwise TextEdit.Beside := by
  obtain ⟨distinct, places⟩ := planFile_points clear
  refine Sequencing.pairwise_of_mapM_eq_ok (editsFor_eq_ok made)
    ((List.pairwise_map.mp distinct).imp_of_mem ?_)
  intro left right here there different leftEdit rightEdit leftMade rightMade
  -- Two calls, a call and statements in either order, or statements twice.
  rcases places left here with leftFor | ⟨leftAnchored, leftKind⟩
  · rcases places right there with rightFor | ⟨rightAnchored, rightKind⟩
    · refine left.beside_of_calls placed leftFor rightFor ?_ leftMade rightMade
        (spares left here right there) (spares right there left here)
      intro same
      exact different (Prod.ext same (leftFor.tag.trans rightFor.tag.symm))
    · exact (right.beside_of_statement placed rooted rightAnchored rightKind leftFor rightMade
        leftMade).symm
  · rcases places right there with rightFor | ⟨rightAnchored, rightKind⟩
    · exact left.beside_of_statement placed rooted leftAnchored leftKind rightFor leftMade rightMade
    · exact Or.inr (Or.inr ⟨left.insertion_of_statement leftMade leftKind,
        right.insertion_of_statement rightMade rightKind⟩)

end Plan

/-- Where a plan without a conflict gives edits, they are applied exactly if no point of the plan wraps
a value that holds the call of another point.  Otherwise they are refused because two of them
overlap; no other fault is possible. -/
theorem planFile_accepted_iff {targets : List Target} {path : String} {tree : SyntaxTree}
    {inputs : List PlanInput} {edits : List TextEdit} (placed : tree.WellPlaced)
    (rooted : tree.root.kind.name = "module")
    (clear : (planFile targets path tree inputs).conflict = none)
    (made : editsFor tree (planFile targets path tree inputs) = .ok edits) :
    ((∃ text, applyEdits tree.source edits = .ok text) ↔
        ∀ outer ∈ (planFile targets path tree inputs).points,
          ∀ inner ∈ (planFile targets path tree inputs).points,
            outer.engulfs tree inner = false) ∧
      ∀ fault, applyEdits tree.source edits = .error fault →
        ∃ first ∈ edits, ∃ second ∈ edits,
          fault = .inapplicable second.id (.overlaps first.id) ∧ second.start < first.stop := by
  have fit : ∀ edit ∈ edits, edit.fits tree.source = true := by
    intro edit member
    obtain ⟨point, planned, same⟩ := Sequencing.mem_of_mapM_eq_ok (editsFor_eq_ok made) member
    exact planFile_fits placed clear planned same
  refine ⟨⟨?_, ?_⟩, fun fault refused => applyEdits_eq_error fit refused⟩
  · rintro ⟨text, applied⟩ outer outerPlanned inner innerPlanned
    cases engulfed : outer.engulfs tree inner with
    | false => rfl
    | true =>
        exact absurd applied
          (applyEdits_ne_ok_of_engulfs placed made outerPlanned innerPlanned engulfed text)
  · intro spares
    exact applyEdits_of_beside fit (planFile_beside placed clear rooted made spares)

def nestedCalls : SyntaxTree :=
  SyntaxTree.parse "from a import A\nfrom c import C\nC(s=A())\n".toList

def argumentInput (framework : String) (anchor keyword : String) : PlanInput :=
  { framework, version := "*", platform := "langfuse"
    signature := { name := framework, packages := [], modules := [framework], anchors := [anchor] }
    pattern := { id := framework, callSite := some { keyword, value := "h" } } }

def nestedInputs : List PlanInput :=
  [argumentInput "c" "C" "s", argumentInput "a" "A" "t"]

def nestedPoints : List InjectionPoint :=
  [{ anchor := ⟨"call", [2, 0]⟩, kind := .argument "s" .list, payload := "h", patternId := "c"
     line := 3 },
   { anchor := ⟨"call", [2, 0, 1, 1, 2]⟩, kind := .argument "t" .list, payload := "h"
     patternId := "a", line := 3 }]

theorem nestedCalls_wellPlaced : nestedCalls.WellPlaced :=
  SyntaxTree.wellPlaced_of_adjacent (by decide +kernel) (by decide +kernel) (by decide +kernel)

theorem planFile_nestedCalls :
    planFile [] "agent.py" nestedCalls nestedInputs = EditPlan.ofPoints "agent.py" nestedPoints := by
  have clear : (planFile [] "agent.py" nestedCalls nestedInputs).conflict = none := by
    decide +kernel
  have collected : ((nestedInputs.foldlM
        (Draft.addInput nestedCalls nestedCalls.imports (Block.ofText nestedCalls.source) [])
        (Draft.start nestedCalls.imports)).toOption.map fun draft =>
      (draft.importLines, draft.initBlocks.isEmpty, draft.callPoints)) =
      some ([], true, nestedPoints) := by
    decide +kernel
  obtain ⟨draft, folded, same, _⟩ := planFile_consistent clear
  rw [folded] at collected
  obtain ⟨imports, blocks, calls⟩ : draft.importLines = [] ∧ draft.initBlocks.isEmpty = true ∧
      draft.callPoints = nestedPoints := by
    simpa only [Except.toOption, Option.map_some, Option.some.injEq, Prod.mk.injEq] using collected
  have sorted : nestedPoints.mergeSort (fun left right => left.line ≤ right.line) = nestedPoints :=
    List.mergeSort_of_pairwise (by decide +kernel)
  rw [same]
  simp only [Draft.points, Draft.modulePoints, imports, blocks, calls, List.isEmpty_nil, if_true,
    List.nil_append, sorted]

theorem planFile_accepted_iff_nested :
    nestedCalls.hasErrors = false ∧ nestedCalls.WellPlaced ∧
      (planFile [] "agent.py" nestedCalls nestedInputs).conflict = none ∧
      ∃ edits, editsFor nestedCalls (planFile [] "agent.py" nestedCalls nestedInputs) = .ok edits ∧
        ¬ ∃ text, applyEdits nestedCalls.source edits = .ok text := by
  have clear : (planFile [] "agent.py" nestedCalls nestedInputs).conflict = none := by
    rw [planFile_nestedCalls]
    rfl
  have made : editsFor nestedCalls (planFile [] "agent.py" nestedCalls nestedInputs) =
      .ok [.replace 0 36 39 "[*A(), h]".toList, .insert 1 38 "t=[h]".toList 2] := by
    rw [planFile_nestedCalls]
    exact Sequencing.eq_ok_of_toOption (by decide +kernel)
  have engulfed : ∃ outer ∈ (planFile [] "agent.py" nestedCalls nestedInputs).points,
      ∃ inner ∈ (planFile [] "agent.py" nestedCalls nestedInputs).points,
        outer.engulfs nestedCalls inner = true := by
    rw [planFile_nestedCalls]
    decide +kernel
  refine ⟨by decide +kernel, nestedCalls_wellPlaced, clear, _, made, ?_⟩
  intro accepted
  obtain ⟨outer, outerPlanned, inner, innerPlanned, covers⟩ := engulfed
  have spares := (planFile_accepted_iff nestedCalls_wellPlaced (by decide +kernel) clear made).1.mp
    accepted outer outerPlanned inner innerPlanned
  rw [spares] at covers
  cases covers

end AgentProbe
