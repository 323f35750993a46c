import AgentProbe.Telemetry.Latency

set_option autoImplicit false

/-!
Metrics of runs: latencies by operation, outcomes by state, and how often a pattern was remembered.
-/

namespace AgentProbe

/-- Changes the value of a key in a list that is sorted by its keys; `change` gets nothing if the
key is new. -/
def adjust {α : Type} (key : String) (change : Option α → α) :
    List (String × α) → List (String × α)
  | [] => [(key, change none)]
  | entry :: entries =>
    if entry.1 == key then (key, change (some entry.2)) :: entries
    else if key < entry.1 then (key, change none) :: entry :: entries
    else entry :: adjust key change entries

structure Metrics where
  /-- Latencies by operation, in the order of the names. -/
  stages : List (String × Latency) := []
  /-- Numbers of files by state, in the order of the names. -/
  outcomes : List (String × Nat) := []
  /-- Patterns that were remembered. -/
  hits : Nat := 0
  /-- Patterns that were resolved. -/
  misses : Nat := 0
deriving DecidableEq, Repr, Inhabited

namespace Metrics

def recordOperation (metrics : Metrics) (operation : String) (span : Duration) : Metrics :=
  { metrics with
    stages := adjust operation (fun latency => (latency.getD {}).record span) metrics.stages }

def recordOutcome (metrics : Metrics) (state : String) : Metrics :=
  { metrics with outcomes := adjust state (fun count => count.getD 0 + 1) metrics.outcomes }

def recordLookup (metrics : Metrics) (remembered : Bool) : Metrics :=
  if remembered then { metrics with hits := metrics.hits + 1 }
  else { metrics with misses := metrics.misses + 1 }

def stage? (metrics : Metrics) (operation : String) : Option Latency :=
  metrics.stages.lookup operation

def outcomeCount (metrics : Metrics) (state : String) : Nat :=
  (metrics.outcomes.lookup state).getD 0

/-! ### The report -/

def alignRight (width : Nat) (text : String) : String :=
  String.ofList (List.replicate (width - text.length) ' ') ++ text

def alignLeft (width : Nat) (text : String) : String :=
  text ++ String.ofList (List.replicate (width - text.length) ' ')

def timeColumn (microseconds : Nat) : String :=
  alignRight 10 ((Duration.ofMicroseconds microseconds).roundedText 2)

def stageLine (stage : String × Latency) : String :=
  let (operation, latency) := stage
  alignLeft 14 operation ++ " " ++ alignRight 6 (toString latency.count) ++ " ops  mean "
    ++ timeColumn latency.mean ++ "  p99 <= " ++ timeColumn (latency.percentile 99.0) ++ "  max "
    ++ timeColumn latency.greatest

def reportLines (metrics : Metrics) : List String :=
  ("pattern lookups: " ++ toString metrics.hits ++ " memoised, " ++ toString metrics.misses
    ++ " resolved")
    :: metrics.outcomes.map (fun outcome => "files " ++ outcome.1 ++ ": " ++ toString outcome.2)
    ++ metrics.stages.map stageLine

def reportText (metrics : Metrics) : String :=
  String.join (metrics.reportLines.map (· ++ "\n"))

end Metrics

end AgentProbe
