/-!
# Metrics

What is counted while parsers run, and a way to note it beside a result.

* `Metric`: the quantities, with their names and descriptions.
* `Noted`: a result with the readings taken on the way to it. A result cannot depend on them.
-/

namespace Intake

/-- How a quantity is measured. -/
inductive MetricKind where
  /-- It only grows. -/
  | counter
  /-- It is set. -/
  | gauge
  /-- Its values are counted by size. -/
  | histogram
deriving DecidableEq, Repr

/-- The name of a kind. -/
def MetricKind.name : MetricKind → String
  | counter => "counter"
  | gauge => "gauge"
  | histogram => "histogram"

/-- A quantity. -/
inductive Metric where
  | itemsParsed | itemsDropped | itemsFiltered | parseFailures | transformFailures | filterFailures
  | parseDuration | cacheWrites | cacheHits | cacheEvictions | cacheEntries
deriving DecidableEq, Repr

namespace Metric

/-- All quantities. -/
def all : List Metric :=
  [itemsParsed, itemsDropped, itemsFiltered, parseFailures, transformFailures, filterFailures,
    parseDuration, cacheWrites, cacheHits, cacheEvictions, cacheEntries]

/-- The name of a quantity. -/
def name : Metric → String
  | itemsParsed => "actistream_engine_items_parsed_total"
  | itemsDropped => "actistream_engine_items_dropped_total"
  | itemsFiltered => "actistream_engine_items_filtered_total"
  | parseFailures => "actistream_engine_parse_failures_total"
  | transformFailures => "actistream_engine_transform_failures_total"
  | filterFailures => "actistream_engine_filter_failures_total"
  | parseDuration => "actistream_engine_parse_duration_seconds"
  | cacheWrites => "actistream_cache_writes_total"
  | cacheHits => "actistream_cache_hits_total"
  | cacheEvictions => "actistream_cache_evictions_total"
  | cacheEntries => "actistream_cache_entries"

/-- How a quantity is measured. -/
def kind : Metric → MetricKind
  | parseDuration => .histogram
  | cacheEntries => .gauge
  | _ => .counter

/-- What a quantity is. -/
def description : Metric → String
  | itemsParsed => "Total number of raw items turned into activity records"
  | itemsDropped => "Total number of raw items dropped because a required value was missing"
  | itemsFiltered => "Total number of activity records excluded by the record filter"
  | parseFailures => "Total number of field resolution or format failures"
  | transformFailures => "Total number of value transformation failures (value kept)"
  | filterFailures => "Total number of filter evaluation failures (decision unchanged)"
  | parseDuration => "Time to parse a single raw item in seconds"
  | cacheWrites => "Total number of cross-activity cache writes"
  | cacheHits => "Total number of cross-activity cache hits"
  | cacheEvictions => "Total number of cache entries evicted due to capacity"
  | cacheEntries => "Current number of cross-activity cache entries"

end Metric

/-- One reading of a quantity: how much it grew, or what it was set to. -/
structure Reading where
  metric : Metric
  /-- What the reading belongs to, as names and values. -/
  labels : List (String × String) := []
  amount : Nat := 1
deriving DecidableEq, Repr

namespace Reading

/-- The name of the label for a parser. -/
def parserLabel : String := "parser"

/-- The name of the label for a field. -/
def fieldLabel : String := "field"

/-- The name of the label for a phase. -/
def phaseLabel : String := "phase"

/-- One more of a quantity, for a parser. -/
def ofParser (m : Metric) (parser : String) : Reading :=
  { metric := m, labels := [(parserLabel, parser)] }

/-- One more of a quantity, for a field of a parser. -/
def ofField (m : Metric) (parser field : String) : Reading :=
  { metric := m, labels := [(parserLabel, parser), (fieldLabel, field)] }

/-- The quantity and what the reading belongs to. -/
def series (r : Reading) : String :=
  if r.labels.isEmpty then r.metric.name
  else
    r.metric.name ++ "\x7b" ++ String.intercalate "," (r.labels.map fun l => l.1 ++ "=" ++ l.2) ++
      "\x7d"

end Reading

/-- A result with the readings taken on the way to it. -/
structure Noted (α : Type) where
  value : α
  readings : List Reading := []

namespace Noted

instance : Monad Noted where
  pure a := ⟨a, []⟩
  bind x f := ⟨(f x.value).value, x.readings ++ (f x.value).readings⟩

/-- Takes a reading. -/
def note (r : Reading) : Noted Unit := ⟨(), [r]⟩

@[simp] theorem value_pure {α : Type} (a : α) : (pure a : Noted α).value = a := rfl

@[simp] theorem value_bind {α β : Type} (x : Noted α) (f : α → Noted β) :
    (x >>= f).value = (f x.value).value := rfl

end Noted

end Intake
