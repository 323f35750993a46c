import Mathlib.Algebra.Order.BigOperators.Group.List
import Mathlib.Data.List.Induction
import Mathlib.Data.Rat.Floor
import AgentProbe.Telemetry.Latency

set_option autoImplicit false

/-!
What a summary of latencies says about the latencies that were recorded.

A summary keeps none of them but the greatest, and yet all of its numbers are numbers of the list of
recorded latencies: the buckets count its members by the first bound that they do not pass.  So a walk
up the buckets finds the bucket of a rank, and the bound of that bucket has as many recorded latencies
at or below it as the rank asks for.
-/

namespace AgentProbe.Latency

/-! ### What the numbers count -/

structure Summarizes (latency : Latency) (recorded : List Nat) : Prop where
  count_eq : latency.count = recorded.length
  total_eq : latency.total = min recorded.sum microsecondLimit
  greatest_eq : latency.greatest = recorded.foldl max 0
  buckets_eq : latency.buckets = (List.range (latencyBounds.length + 1)).map fun bucket =>
    recorded.countP fun microseconds => bucketOf microseconds = bucket

theorem modify_map_range (counts : Nat → Nat) (size place : Nat) :
    ((List.range size).map counts).modify place (· + 1) =
      (List.range size).map fun index => counts index + if place = index then 1 else 0 := by
  refine List.ext_getElem (by simp) fun index _ _ => ?_
  rw [List.getElem_modify]
  split <;> simp_all

theorem Summarizes.record {latency : Latency} {recorded : List Nat}
    (summarizes : latency.Summarizes recorded) (span : Duration) :
    (latency.record span).Summarizes (recorded ++ [microsecondsOf span]) where
  count_eq := by simp [Latency.record, summarizes.count_eq]
  -- A sum at the limit stays there, so that only the whole sum has to be compared with it.
  total_eq := by
    simp only [Latency.record, summarizes.total_eq, List.sum_append, List.sum_singleton]
    omega
  greatest_eq := by simp [Latency.record, summarizes.greatest_eq]
  buckets_eq := by
    simp only [Latency.record, summarizes.buckets_eq, modify_map_range, List.countP_append,
      List.countP_singleton, decide_eq_true_eq]

section

variable {latency : Latency} {recorded : List Nat}

/-- The bucket that a rank falls in: the latencies before the bucket do not reach the rank, and with
those in the bucket they do. -/
structure FallsIn (recorded : List Nat) (rank bucket : Nat) : Prop where
  within : bucket ≤ latencyBounds.length
  below : recorded.countP (fun microseconds => bucketOf microseconds < bucket) < rank
  reached : rank ≤ recorded.countP fun microseconds => bucketOf microseconds ≤ bucket

theorem FallsIn.mono {rank higher bucket next : Nat} (falls : FallsIn recorded rank bucket)
    (falls' : FallsIn recorded higher next) (ordered : rank ≤ higher) : bucket ≤ next := by
  by_contra beyond
  have fewer : recorded.countP (fun microseconds => bucketOf microseconds ≤ next) ≤
      recorded.countP fun microseconds => bucketOf microseconds < bucket := by
    refine List.countP_mono_left fun microseconds _ before => ?_
    simp only [decide_eq_true_eq] at before ⊢
    omega
  have reached := falls'.reached
  have below := falls.below
  omega

end

/-! ### Percentiles -/

abbrev share (latency : Latency) (percent : ℚ) : Nat :=
  ⌈(latency.count : ℚ) * percent / 100⌉₊

end AgentProbe.Latency
