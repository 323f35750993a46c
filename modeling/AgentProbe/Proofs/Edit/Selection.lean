import Mathlib.Data.List.Perm.Subperm
import AgentProbe.Proofs.Edit.Weaving

set_option autoImplicit false

/-!
Leaving out edits never makes the others inapplicable.

Only neighbours are tested for overlaps, and leaving out an edit makes new neighbours.  But spans that
fit do not end before they start, so that the test of neighbours is a test of all pairs.  And sorting
is stable: whether one of two edits comes before the other does not depend on what else is in the list.
-/

namespace AgentProbe

namespace TextEdit

/-! ### The order of edits -/

theorem precedes_iff {left right : TextEdit} :
    left.precedes right = true ↔
      left.start < right.start ∨ (left.start = right.start ∧
        (left.rank < right.rank ∨ (left.rank = right.rank ∧ left.id ≤ right.id))) := by
  unfold precedes
  by_cases sameStart : left.start = right.start
  · by_cases sameRank : left.rank = right.rank
    · simp [sameStart, sameRank]
    · simp [sameStart, sameRank]
  · simp [sameStart]

theorem precedes_trans (first second third : TextEdit) (early : first.precedes second = true)
    (late : second.precedes third = true) : first.precedes third = true := by
  rw [precedes_iff] at early late ⊢
  omega

theorem precedes_total (left right : TextEdit) :
    (left.precedes right || right.precedes left) = true := by
  rw [Bool.or_eq_true, precedes_iff, precedes_iff]
  omega

theorem filter_ordered {test : TextEdit → Bool} (edits : List TextEdit)
    (tied : ∀ left right, test left = true → test right = true → left.precedes right = true) :
    (ordered edits).filter test = edits.filter test := by
  have sorted : (edits.filter test).Pairwise fun left right => left.precedes right = true := by
    refine List.pairwise_iff_forall_sublist.mpr ?_
    intro left right pair
    have passes (edit : TextEdit) (member : edit ∈ [left, right]) : test edit = true :=
      (List.mem_filter.mp (pair.subset member)).2
    exact tied left right (passes left (by simp)) (passes right (by simp))
  have kept : (edits.filter test).Sublist (ordered edits) :=
    List.sublist_mergeSort precedes_trans precedes_total sorted List.filter_sublist
  have inside := kept.filter test
  rw [List.filter_filter] at inside
  simp only [Bool.and_self] at inside
  refine (inside.eq_of_length ?_).symm
  exact ((List.mergeSort_perm edits precedes).filter test).length_eq.symm

theorem perm_pair_cases {first second : TextEdit} {both : List TextEdit}
    (shuffled : both.Perm [first, second]) : both = [first, second] ∨ both = [second, first] := by
  obtain ⟨head, tail, rfl⟩ : ∃ head tail, both = head :: tail := by
    cases both with
    | nil => exact absurd shuffled.length_eq (by simp)
    | cons head tail => exact ⟨head, tail, rfl⟩
  have present : head ∈ [first, second] := shuffled.subset List.mem_cons_self
  rcases List.mem_cons.mp present with rfl | last
  · exact Or.inl (congrArg _ (List.perm_singleton.mp shuffled.cons_inv))
  · rw [List.mem_singleton.mp last] at shuffled ⊢
    have turned := shuffled.trans (List.Perm.swap second first [])
    exact Or.inr (congrArg _ (List.perm_singleton.mp turned.cons_inv))

/-- Which of two edits comes first is decided by the two of them. -/
theorem pair_sublist_ordered {edits : List TextEdit} {left right : TextEdit} :
    [left, right].Sublist (ordered edits) ↔
      (left.precedes right = true ∧ [left, right].Sublist edits) ∨
        (right.precedes left = false ∧ [right, left].Sublist edits) := by
  have sorted : (ordered edits).Pairwise fun first second => first.precedes second = true :=
    List.pairwise_mergeSort precedes_trans precedes_total edits
  have either {first second : TextEdit} {here there : List TextEdit} (shuffled : here.Perm there)
      (pair : [first, second].Sublist here) :
      [first, second].Sublist there ∨ [second, first].Sublist there := by
    obtain ⟨both, same, inside⟩ := pair.subperm.trans shuffled.subperm
    rcases perm_pair_cases same with rfl | rfl
    · exact Or.inl inside
    · exact Or.inr inside
  have shuffled := List.mergeSort_perm edits precedes
  constructor
  · intro pair
    have early := List.pairwise_iff_forall_sublist.mp sorted pair
    rcases either shuffled pair with kept | swapped
    · exact Or.inl ⟨early, kept⟩
    · cases late : right.precedes left with
      | false => exact Or.inr ⟨rfl, swapped⟩
      | true =>
          -- A tie: both pass the test for this place, and there the order of the list is kept.
          let test : TextEdit → Bool := fun edit => edit.precedes left && left.precedes edit
          have tied (first second : TextEdit) (firstPasses : test first = true)
              (secondPasses : test second = true) : first.precedes second = true :=
            precedes_trans first left second (Bool.and_eq_true_iff.mp firstPasses).1
              (Bool.and_eq_true_iff.mp secondPasses).2
          have self : left.precedes left = true := precedes_trans left right left early late
          have inside := pair.filter test
          rw [filter_ordered edits tied] at inside
          simp only [test, List.filter_cons, self, late, early, Bool.and_self, if_true,
            List.filter_nil] at inside
          exact Or.inl ⟨early, inside.trans List.filter_sublist⟩
  · rintro (⟨early, pair⟩ | ⟨late, pair⟩)
    · exact List.pair_sublist_mergeSort precedes_trans precedes_total early pair
    · rcases either shuffled.symm pair with kept | swapped
      · have impossible := List.pairwise_iff_forall_sublist.mp sorted kept
        rw [late] at impossible
        cases impossible
      · exact swapped

theorem pair_ordered_of_sublist {edits part : List TextEdit} (chosen : part.Sublist edits)
    {left right : TextEdit} (pair : [left, right].Sublist (ordered part)) :
    [left, right].Sublist (ordered edits) := by
  rw [pair_sublist_ordered] at pair ⊢
  rcases pair with ⟨early, inside⟩ | ⟨late, inside⟩
  · exact Or.inl ⟨early, inside.trans chosen⟩
  · exact Or.inr ⟨late, inside.trans chosen⟩

/-! ### Overlaps -/

/-- Where no neighbours overlap, no two edits do. -/
theorem overlap?_eq_none_iff {edits : List TextEdit}
    (forward : ∀ edit ∈ edits, edit.start ≤ edit.stop) :
    overlap? edits = none ↔ edits.Pairwise fun left right => left.stop ≤ right.start := by
  induction edits with
  | nil => exact ⟨fun _ => .nil, fun _ => rfl⟩
  | cons first rest ih =>
      have later := ih fun edit member => forward edit (List.mem_cons_of_mem first member)
      rw [List.pairwise_cons]
      constructor
      · intro apart
        obtain ⟨behind, apartRest⟩ := overlap?_cons apart
        have pairs := later.mp apartRest
        refine ⟨?_, pairs⟩
        intro edit member
        cases rest with
        | nil => cases member
        | cons second others =>
            have next := behind second rfl
            rcases List.mem_cons.mp member with rfl | further
            · exact next
            · have inner := List.rel_of_pairwise_cons pairs further
              have step := forward second (List.mem_cons_of_mem first List.mem_cons_self)
              omega
      · rintro ⟨behind, pairs⟩
        have apartRest := later.mpr pairs
        cases rest with
        | nil => rfl
        | cons second others =>
            have next := behind second List.mem_cons_self
            rw [overlap?, if_neg (by omega)]
            exact apartRest

end TextEdit

/-- Every selection from edits that can be applied can be applied. -/
theorem applyEdits_of_sublist {source text : Text} {edits part : List TextEdit}
    (applied : applyEdits source edits = .ok text) (chosen : part.Sublist edits) :
    ∃ result, applyEdits source part = .ok result := by
  obtain ⟨fit, apart, _⟩ := applyEdits_eq_ok_iff.mp applied
  have fitPart : ∀ edit ∈ part, edit.fits source = true := fun edit member =>
    fit edit (chosen.subset member)
  have forward {chosenEdits : List TextEdit}
      (fits : ∀ edit ∈ chosenEdits, edit.fits source = true) :
      ∀ edit ∈ TextEdit.ordered chosenEdits, edit.start ≤ edit.stop := fun edit member =>
    (TextEdit.fits_iff.mp (fits edit (TextEdit.mem_ordered.mp member))).1
  have pairs := (TextEdit.overlap?_eq_none_iff (forward fit)).mp apart
  refine ⟨_, applyEdits_eq_ok_iff.mpr ⟨fitPart, ?_, rfl⟩⟩
  refine (TextEdit.overlap?_eq_none_iff (forward fitPart)).mpr ?_
  refine List.pairwise_iff_forall_sublist.mpr ?_
  intro left right pair
  exact List.pairwise_iff_forall_sublist.mp pairs (TextEdit.pair_ordered_of_sublist chosen pair)

end AgentProbe
