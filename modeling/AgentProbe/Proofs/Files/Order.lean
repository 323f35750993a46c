import Mathlib.Data.List.Sort
import AgentProbe.Files.Path

set_option autoImplicit false

/-!
The order of paths.

Paths are ordered by their steps, and two paths are alike in this order exactly when their steps are
the same.  A sorted list is therefore the same whatever order its paths came in, as long as no two
of them have the same steps.
-/

namespace AgentProbe.Path

namespace Step

def word : Step → String
  | .name word => word
  | _ => ""

theorem compare_eq_lex :
    Step.compare = compareLex (compareOn Step.compare.rank) (compareOn word) := by
  funext left right
  cases left <;> cases right <;> rfl

instance : Std.TransCmp Step.compare := by
  rw [compare_eq_lex]
  infer_instance

instance : Std.LawfulEqCmp Step.compare where
  eq_of_compare {left right} alike := by
    cases left with
    | name first =>
        cases right with
        | name second =>
            have same : Ord.compare first second = .eq := alike
            rw [Std.LawfulEqCmp.eq_of_compare same]
        | _ => cases alike
    | _ =>
        cases right <;> first | rfl | cases alike

end Step

theorem compareSteps_eq_lex (left right : List Step) :
    compareSteps left right = List.compareLex Step.compare left right := by
  induction left generalizing right with
  | nil => cases right <;> rfl
  | cons step left ih =>
      cases right with
      | nil => rfl
      | cons other right => rw [compareSteps, List.compareLex_cons_cons, ih]

theorem le_eq_isLE (left right : Path) :
    left.le right = (List.compareLex Step.compare left.steps right.steps).isLE := by
  rw [le, compareSteps_eq_lex]
  cases List.compareLex Step.compare left.steps right.steps <;> rfl

theorem le_trans {first second third : Path} (low : first.le second = true)
    (high : second.le third = true) : first.le third = true := by
  rw [le_eq_isLE] at low high ⊢
  exact Std.TransCmp.isLE_trans low high

theorem le_total (left right : Path) : (left.le right || right.le left) = true := by
  rw [le_eq_isLE, le_eq_isLE, @Std.OrientedCmp.eq_swap _ (List.compareLex Step.compare)]
  cases List.compareLex Step.compare right.steps left.steps <;> rfl

theorem steps_eq_of_le {left right : Path} (low : left.le right = true)
    (high : right.le left = true) : left.steps = right.steps := by
  rw [le_eq_isLE] at low high
  exact Std.LawfulEqCmp.eq_of_compare (Std.OrientedCmp.isLE_antisymm low high)

theorem sorted_ordered (paths : List Path) :
    (sorted paths).Pairwise fun left right => left.le right = true :=
  @List.pairwise_mergeSort Path le (fun _ _ _ low high => le_trans low high) le_total paths

theorem sorted_perm (paths : List Path) : (sorted paths).Perm paths :=
  List.mergeSort_perm paths le

theorem sorted_eq_of_perm {paths others : List Path} (same : paths.Perm others)
    (told : ∀ left ∈ paths, ∀ right ∈ paths, left.steps = right.steps → left = right) :
    sorted paths = sorted others := by
  refine List.Perm.eq_of_pairwise ?_ (sorted_ordered paths) (sorted_ordered others) ?_
  · intro left right inLeft inRight low high
    refine told left ((sorted_perm paths).mem_iff.mp inLeft) right ?_ (steps_eq_of_le low high)
    exact same.mem_iff.mpr ((sorted_perm others).mem_iff.mp inRight)
  · exact (sorted_perm paths).trans (same.trans (sorted_perm others).symm)

end AgentProbe.Path
