import AuthGate.Gate.Exchange
import AuthGate.Gate.Metric

namespace AuthGate

namespace Gate

/-- Every request of a session on its own: the gate remembers nothing from one to the next. -/
def session (gate : Gate) (freshId : HeaderValue) (arrivals : List Arrival) : List Exchange :=
  arrivals.map (gate.exchange freshId)

/-- The metrics after a session. -/
def metrics (exchanges : List Exchange) : List Metric :=
  Metric.ofMeasures (exchanges.flatMap (·.measures))

end Gate
end AuthGate
