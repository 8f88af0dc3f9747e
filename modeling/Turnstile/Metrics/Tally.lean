import Turnstile.Json.Display
import Turnstile.Metrics.Metric

/-!
# Tallies

A tally holds the series of the metrics of one service.  A series is there once it was
touched; a metric without labels has its only series from the start.  `samples` shows
the tally as named values with labels.
-/

namespace Turnstile

/-- The series of the metrics of a service. -/
structure Tally where
  service : String
  counters : List (Series × Nat)
  histograms : List (Series × Histogram)

/-- A named value with labels. -/
structure Sample where
  name : String
  labels : List (String × String)
  value : Double
  deriving DecidableEq

/-- Why something is not recorded. -/
inductive TallyFault where
  /-- The labels are not those of the metric, or it has none. -/
  | wrongLabels
  /-- The metric is no counter. -/
  | notCounter
  | notNumber
  | numberTooLarge
  deriving DecidableEq, Repr

namespace Tally

variable {α : Type}

/-- The value of a series changed, a series that is not there starting from a first value. -/
def updated (series : Series) (first : α) (f : α → α) : List (Series × α) → List (Series × α)
  | [] => [(series, f first)]
  | (s, value) :: rest =>
    if s = series then (s, f value) :: rest else (s, value) :: updated series first f rest

/-- The tally of a service before anything happened. -/
def initial (service : String) : Tally where
  service := service
  counters := []
  histograms :=
    if service = Metric.decisionsService then [(⟨.decisionDuration, []⟩, Histogram.empty)] else []

/-- The service has a metric. -/
def has (t : Tally) (m : Metric) : Bool := (Metric.ofService t.service).contains m

/-- The metric of a name. -/
def metric? (t : Tally) (name : String) : Option Metric :=
  (Metric.ofService t.service).find? (·.name == name)

/-- Counts one more in a series. -/
def increment (t : Tally) (m : Metric) (values : List String) : Tally :=
  { t with counters := updated ⟨m, values⟩ 0 (· + 1) t.counters }

/-- Makes sure that a series of measured amounts is there. -/
def touch (t : Tally) (m : Metric) (values : List String) : Tally :=
  { t with histograms := updated ⟨m, values⟩ Histogram.empty id t.histograms }

/-- Adds a measured amount to a series. -/
def observe (t : Tally) (m : Metric) (values : List String) (amount : Double) : Tally :=
  { t with histograms := updated ⟨m, values⟩ Histogram.empty (·.observe amount) t.histograms }

/-- The amount that a value gives. -/
def amount : Json → Except TallyFault Double
  | .bool b => .ok (Double.ofInt (if b then 1 else 0))
  | .int n =>
    match Double.ofInt n with
    | .infinite _ => .error .numberTooLarge
    | x => .ok x
  | .float x => .ok x
  | _ => .error .notNumber

/-- Adds the amount that a value gives to a series, which is there even if it gives none. -/
def measure (t : Tally) (m : Metric) (values : List String) (v : Json) :
    Tally × Option TallyFault :=
  match amount v with
  | .ok x => (t.observe m values x, none)
  | .error fault => (t.touch m values, some fault)

/-- Records an answered request. -/
def recordRequest (t : Tally) (method endpoint status : String) (duration : Json) :
    Tally × Option TallyFault :=
  (t.increment .requests [method, endpoint, status]).measure .requestDuration [method, endpoint]
    duration

/-- Records a health check. -/
def recordHealthCheck (t : Tally) (status : String) : Tally :=
  t.increment .healthChecks [status]

/-- Records an error, of this service if no other is named. -/
def recordError (t : Tally) (kind : String) (service : Json) : Tally :=
  t.increment .errors [kind, if service.isTruthy then service.display else t.service]

/-- Records a decision, if the service makes any. -/
def recordDecision (t : Tally) (outcome criterion : String) (duration : Json) :
    Tally × Option TallyFault :=
  if t.has .decisions then
    (t.increment .decisions [outcome, criterion]).measure .decisionDuration [] duration
  else (t, none)

/-- The labels given by name, in the order of a metric; none if they are not its labels. -/
def valuesFor? (m : Metric) (given : Members Json) : Option (List String) :=
  if m.labels.isEmpty || given.length != m.labels.length then none
  else m.labels.mapM fun label => (given.get? label).map Json.display

/-- Counts one more in a series given by name; a name that is no metric's is ignored. -/
def incrementNamed (t : Tally) (name : String) (given : Members Json) :
    Tally × Option TallyFault :=
  match t.metric? name with
  | none => (t, none)
  | some m =>
    match valuesFor? m given with
    | none => (t, some .wrongLabels)
    | some values =>
      match m.kind with
      | .counter => (t.increment m values, none)
      | _ => (t.touch m values, some .notCounter)

/-- The labels of a series with their values. -/
def seriesLabels (s : Series) : List (String × String) := s.metric.labels.zip s.values

/-- A whole number as a double. -/
def number (n : Nat) : Double := Double.ofInt n

/-- The samples of a counter. -/
def counterSamples (entry : Series × Nat) : List Sample :=
  [⟨entry.1.metric.name, seriesLabels entry.1, number entry.2⟩]

/-- The samples of the buckets of a histogram. -/
def bucketSamples (entry : Series × Histogram) : List Sample :=
  (Histogram.cumulative 0 Histogram.bounds entry.2.counts).map fun (bound, n) =>
    ⟨entry.1.metric.name ++ "_bucket",
      seriesLabels entry.1 ++ [("le", Histogram.boundText bound)], number n⟩

/-- The name of the sample that counts a histogram's amounts. -/
def countName (m : Metric) : String := m.name ++ "_count"

/-- The name of the sample that sums a histogram's amounts. -/
def sumName (m : Metric) : String := m.name ++ "_sum"

/-- The samples of a histogram. -/
def histogramSamples (entry : Series × Histogram) : List Sample :=
  bucketSamples entry
    ++ [⟨countName entry.1.metric, seriesLabels entry.1, number entry.2.count⟩,
      ⟨sumName entry.1.metric, seriesLabels entry.1, entry.2.sum⟩]

/-- The sample that tells of the service. -/
def infoSample (t : Tally) : Sample :=
  ⟨Metric.serviceInfo.name ++ "_info", [("service", t.service), ("version", "1.0.0")], number 1⟩

/-- All samples of a tally. -/
def samples (t : Tally) : List Sample :=
  t.infoSample :: t.counters.flatMap counterSamples ++ t.histograms.flatMap histogramSamples

/-- The number counted in a series. -/
def count (t : Tally) (m : Metric) (values : List String) : Nat :=
  ((t.counters.find? (·.1 == ⟨m, values⟩)).map (·.2)).getD 0

end Tally

/-- The services for which tallies were asked, each once, in the order of asking. -/
abbrev Tallies := List String

/-- The place of the tally of a service, after asking for it. -/
def Tallies.ask (asked : Tallies) (service : String) : Tallies × Nat :=
  match asked.findIdx? (· == service) with
  | some place => (asked, place)
  | none => (asked ++ [service], asked.length)

end Turnstile
