import Turnstile.Number.Shortest

/-!
# Metrics

The quantities that a service counts or measures, each with the labels that tell its
series apart.  Some belong to the service of decisions alone.
-/

namespace Turnstile

/-- A quantity that is counted or measured. -/
inductive Metric where
  | serviceInfo
  | requests
  | requestDuration
  | healthChecks
  | errors
  | decisions
  | decisionDuration
  | cacheLookups
  | apiRequests
  deriving DecidableEq, Repr

/-- How a quantity is recorded. -/
inductive MetricKind where
  | info
  | counter
  | histogram
  deriving DecidableEq, Repr

namespace Metric

/-- All metrics. -/
def all : List Metric :=
  [.serviceInfo, .requests, .requestDuration, .healthChecks, .errors, .decisions,
    .decisionDuration, .cacheLookups, .apiRequests]

/-- The name of a metric. -/
def name : Metric → String
  | .serviceInfo => "service_info"
  | .requests => "http_requests_total"
  | .requestDuration => "http_request_duration_seconds"
  | .healthChecks => "health_check_total"
  | .errors => "errors_total"
  | .decisions => "decisions_total"
  | .decisionDuration => "decision_duration_seconds"
  | .cacheLookups => "ip_cache_lookups_total"
  | .apiRequests => "ip_api_requests_total"

/-- The labels of a metric, in order. -/
def labels : Metric → List String
  | .serviceInfo | .decisionDuration => []
  | .requests => ["method", "endpoint", "status_code"]
  | .requestDuration => ["method", "endpoint"]
  | .healthChecks | .apiRequests => ["status"]
  | .errors => ["error_type", "service"]
  | .decisions => ["outcome", "criterion"]
  | .cacheLookups => ["result"]

/-- How a metric is recorded. -/
def kind : Metric → MetricKind
  | .serviceInfo => .info
  | .requestDuration | .decisionDuration => .histogram
  | _ => .counter

/-- The metric belongs to the service of decisions alone. -/
def isOfDecisions : Metric → Bool
  | .decisions | .decisionDuration | .cacheLookups | .apiRequests => true
  | _ => false

/-- The name of the service of decisions. -/
def decisionsService : String := "decisions"

/-- The metrics of a service. -/
def ofService (service : String) : List Metric :=
  all.filter fun m => !m.isOfDecisions || service == decisionsService

end Metric

/-- One series of a metric: a value for each label. -/
structure Series where
  metric : Metric
  values : List String
  deriving DecidableEq, Repr

/-- Measured amounts: how many fall below each bound and not below an earlier one, and their sum. -/
structure Histogram where
  counts : List Nat
  sum : Double
  deriving DecidableEq

namespace Histogram

/-- The bounds of the buckets; the last one takes all numbers. -/
def bounds : List Double :=
  [Double.ofDecimal false 5 (-3), Double.ofDecimal false 1 (-2), Double.ofDecimal false 25 (-3),
    Double.ofDecimal false 5 (-2), Double.ofDecimal false 75 (-3), Double.ofDecimal false 1 (-1),
    Double.ofDecimal false 25 (-2), Double.ofDecimal false 5 (-1), Double.ofDecimal false 75 (-2),
    Double.ofInt 1, Double.ofDecimal false 25 (-1), Double.ofInt 5, Double.ofDecimal false 75 (-1),
    Double.ofInt 10, .infinite false]

/-- The text of a bound. -/
def boundText : Double → String
  | .infinite false => "+Inf"
  | x => x.text

/-- Nothing measured yet. -/
def empty : Histogram := ⟨bounds.map fun _ => 0, Double.zero⟩

/-- One number is at most another; a NaN is not. -/
def atMost (x y : Double) : Bool := Double.lt x y || Double.sameNumber x y

/-- Counts an amount in the first bucket that takes it. -/
def counted (amount : Double) : List Double → List Nat → List Nat
  | bound :: bounds, n :: counts =>
    if atMost amount bound then (n + 1) :: counts else n :: counted amount bounds counts
  | _, counts => counts

/-- Adds a measured amount. -/
def observe (h : Histogram) (amount : Double) : Histogram :=
  ⟨counted amount bounds h.counts, Double.add h.sum amount⟩

/-- The number of amounts that fall in some bucket. -/
def count (h : Histogram) : Nat := h.counts.foldl (· + ·) 0

/-- How many amounts are at most each bound, starting from those below. -/
def cumulative (below : Nat) : List Double → List Nat → List (Double × Nat)
  | bound :: bounds, n :: counts => (bound, below + n) :: cumulative (below + n) bounds counts
  | _, _ => []

end Histogram

end Turnstile
