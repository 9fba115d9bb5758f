import AuthGate.Gate.Event

namespace AuthGate

inductive MetricValue where
  | counter (count : Nat)
  | histogram (samples : Nat)
  deriving DecidableEq, Repr

structure Metric where
  name : String
  labels : List (String × String)
  value : MetricValue
  deriving DecidableEq, Repr

/-- A metric without its value. -/
abbrev MetricKey := String × List (String × String)

namespace Metric

/-- The counter that a measure adds one to. -/
def counterKey : Measure → MetricKey
  | .request route method status =>
    ("proxy_requests_total",
      [("method", method), ("route", route), ("status", toString status.code)])
  | .decision mode outcome =>
    ("proxy_auth_decisions_total", [("mode", mode.label), ("outcome", outcome)])

/-- The histogram that a measure gives a sample to. -/
def histogramKey? : Measure → Option MetricKey
  | .request route _ _ => some ("proxy_request_duration_seconds", [("route", route)])
  | .decision .. => none

/-- The text by which metrics are sorted. -/
def orderKey (metric : Metric) : String :=
  let label (pair : String × String) : String :=
    "[" ++ jsonString pair.1 ++ "," ++ jsonString pair.2 ++ "]"
  let value := match metric.value with
    | .counter count => toString count
    | .histogram samples => jsonObject [("samples", toString samples)]
  jsonObject
    [("labels", "[" ++ String.intercalate "," (metric.labels.map label) ++ "]"),
      ("name", jsonString metric.name), ("value", value)]

def tally (keys : List MetricKey) (value : Nat → MetricValue) : List Metric :=
  keys.eraseDups.map fun key => ⟨key.1, key.2, value (keys.count key)⟩

/-- All metrics of what was counted, sorted by their texts. -/
def ofMeasures (measures : List Measure) : List Metric :=
  let counters := tally (measures.map counterKey) .counter
  let histograms := tally (measures.filterMap histogramKey?) .histogram
  (counters ++ histograms).mergeSort fun a b => a.orderKey ≤ b.orderKey

end Metric
end AuthGate
