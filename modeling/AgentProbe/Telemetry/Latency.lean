import AgentProbe.Text.Duration

set_option autoImplicit false

/-!
Summaries of latencies: how many there were, their sum, the greatest, and how many fall between
fixed bounds.

A percentile is known only up to its bucket: the bucket's upper bound is given for it, or the
greatest latency if that is smaller.
-/

namespace AgentProbe

def microsecondLimit : Nat := Nat.pow 2 64 - 1

/-- The upper bounds of the buckets in microseconds; one more bucket takes what is above them. -/
def latencyBounds : List Nat :=
  [100, 1000, 10000, 100000, 1000000, 10000000]

structure Latency where
  count : Nat := 0
  total : Nat := 0
  greatest : Nat := 0
  buckets : List Nat := List.replicate (latencyBounds.length + 1) 0
deriving DecidableEq, Repr, Inhabited

namespace Latency

/-- The bucket of a latency: the first whose bound it does not pass. -/
def bucketOf (microseconds : Nat) : Nat :=
  latencyBounds.findIdx fun bound => microseconds ≤ bound

def microsecondsOf (span : Duration) : Nat :=
  min (span.nanoseconds / 1000) microsecondLimit

def record (latency : Latency) (span : Duration) : Latency :=
  let microseconds := microsecondsOf span
  { count := latency.count + 1
    total := min (latency.total + microseconds) microsecondLimit
    greatest := max latency.greatest microseconds
    buckets := latency.buckets.modify (bucketOf microseconds) (· + 1) }

def mean (latency : Latency) : Nat :=
  latency.total / latency.count

/-- The bound of the bucket that holds the latency of a rank.  `seen` is the number of latencies in
the buckets before. -/
def boundOfRank (greatest rank seen : Nat) : List Nat → List Nat → Nat
  | count :: counts, bound :: bounds =>
    if rank ≤ seen + count then min bound greatest
    else boundOfRank greatest rank (seen + count) counts bounds
  | _, _ => greatest

def atRank (latency : Latency) (rank : Nat) : Nat :=
  if latency.count = 0 then 0
  else boundOfRank latency.greatest rank 0 latency.buckets latencyBounds

/-- The rank of a percentile, as a floating-point computation gives it. -/
def rankOf (count : Nat) (percent : Float) : Nat :=
  let share := (Float.ofNat count * percent / 100.0).ceil
  (if share ≥ 1.0 then share else 1.0).toUInt64.toNat

def percentile (latency : Latency) (percent : Float) : Nat :=
  latency.atRank (rankOf latency.count percent)

end Latency

end AgentProbe
