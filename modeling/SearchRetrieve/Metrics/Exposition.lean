import SearchRetrieve.Metrics.Counters

/-!
# Exposition

Counters and the latencies of page fetches as text, one sample a line under the help and the type
of its family. Families come in the order of their names.
-/
namespace SearchRetrieve

/-- How long page fetches took, in seconds. -/
structure Latencies where
  sum : Float
  all : List Float

structure Metrics where
  counters : Counters
  latencies : Latencies

structure MetricFamily where
  name : String
  help : String
  type : String
  lines : List String
  deriving DecidableEq, Repr

namespace Metrics

def fresh : Metrics := ⟨.zero, ⟨0, []⟩⟩

def page (m : Metrics) (seconds : Float) : Metrics :=
  ⟨m.counters.pageFetched, ⟨m.latencies.sum + seconds, seconds :: m.latencies.all⟩⟩

/-- The upper ends of the ranges that latencies are counted in. -/
def buckets : List Float := [0.01, 0.05, 0.1, 0.25, 0.5, 1, 2.5, 5, 10]

def counterFamily (name help : String) (value : Nat) : MetricFamily :=
  ⟨name, help, "counter", [name ++ " " ++ Decimal.natText value]⟩

/-- A label value between quotes, with backslashes, line ends and quotes escaped. -/
def labelText (value : String) : String :=
  let escaped (c : Char) : List Char :=
    if c = '\\' then ['\\', '\\'] else if c = '\n' then ['\\', 'n']
    else if c = '"' then ['\\', '"'] else [c]
  String.ofList ('"' :: value.toList.flatMap escaped ++ ['"'])

def sample (name label value text : String) : String :=
  name ++ "\x7b" ++ label ++ "=" ++ labelText value ++ "\x7d " ++ text

def fieldsName : String := "cqlindex_fields_emitted_total"

def fieldsFamily (counts : List (String × Nat)) : MetricFamily where
  name := fieldsName
  help := "Physical fields produced by document expansion, by declared type"
  type := "counter"
  lines := counts.map fun entry =>
    sample fieldsName "field_type" entry.1 (Decimal.natText entry.2)

def latencyName : String := "cqlindex_fetch_latency_seconds"

def latencyFamily (l : Latencies) : MetricFamily where
  name := latencyName
  help := "Result page fetch latency"
  type := "histogram"
  lines :=
    let bucket (bound : String) (count : Nat) : String :=
      sample (latencyName ++ "_bucket") "le" bound (toString count)
    (buckets.map fun b => bucket (Decimal.floatText b) (l.all.filter (· ≤ b)).length) ++
      [bucket "+Inf" l.all.length,
        latencyName ++ "_sum " ++ Decimal.floatText l.sum,
        latencyName ++ "_count " ++ toString l.all.length]

def families (m : Metrics) : List MetricFamily :=
  [counterFamily "cqlindex_fetch_attempts_failed_total"
      "Total number of page fetch attempts that failed" m.counters.attemptsFailed,
    counterFamily "cqlindex_fetch_hard_failures_total"
      "Total number of page fetches surfaced to the caller as failures" m.counters.hardFailures,
    latencyFamily m.latencies,
    fieldsFamily m.counters.fieldsEmitted,
    counterFamily "cqlindex_fields_skipped_total"
      "Source fields skipped for an unrecognized type" m.counters.fieldsSkipped,
    counterFamily "cqlindex_missing_records_total"
      "Total number of record slots returned without a payload" m.counters.missingRecords,
    counterFamily "cqlindex_pages_fetched_total"
      "Total number of result pages fetched" m.counters.pagesFetched,
    counterFamily "cqlindex_queries_compiled_total"
      "Total number of queries compiled to native syntax" m.counters.queriesCompiled].filter
    fun f => !f.lines.isEmpty

def familyLines (f : MetricFamily) : List String :=
  ("# HELP " ++ f.name ++ " " ++ f.help) :: ("# TYPE " ++ f.name ++ " " ++ f.type) :: f.lines

def lines (m : Metrics) : List String := m.families.flatMap familyLines

end Metrics

end SearchRetrieve
