import AgentProbe.Data.Fields
import AgentProbe.Telemetry.Metrics

set_option autoImplicit false

/-!
Metrics as documents.
-/

namespace AgentProbe

def Latency.fields (latency : Latency) : List (String × Value) :=
  [("count", .ofNat latency.count), ("totalUs", .ofNat latency.total),
   ("maxUs", .ofNat latency.greatest), ("buckets", .list (latency.buckets.map Value.ofNat))]

def Metrics.document (metrics : Metrics) : Value :=
  .ofFields [
    ("stages", .ofFields (metrics.stages.map fun stage => (stage.1, .ofFields stage.2.fields))),
    ("outcomes", .ofFields (metrics.outcomes.map fun outcome => (outcome.1, .ofNat outcome.2))),
    ("patternHits", .ofNat metrics.hits), ("patternMisses", .ofNat metrics.misses)]

end AgentProbe
