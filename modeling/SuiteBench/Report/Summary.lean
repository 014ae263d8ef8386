import SuiteBench.Report.Aggregate
import SuiteBench.Endpoint.Catalog

/-!
# Report.Summary — the benchmark as a whole

Counts and averages over every recorded run, the endpoints with missing runs and those where nothing
succeeded, as a document and as a narrative.
-/

namespace SuiteBench

/-- The benchmark as a whole. -/
structure BenchmarkSummary where
  totalEndpoints : Nat
  totalRuns : Nat
  successfulRuns : Nat
  failedRuns : Nat
  timedOutRuns : Nat
  successRate : Option Float
  generationTime : Stats Float
  cpu : Stats Float
  memory : Stats Float
  tests : Stats Float
  assertions : Stats Float
  coverage : Stats Float
  diagnoses : DiagnosisCounts
  /-- The missing runs of each endpoint that has any, in the order of the ids. -/
  missingRuns : List (Nat × List Nat)
  allFailed : List Nat

namespace BenchmarkSummary

/-- The missing runs with those of one more endpoint; an endpoint that comes again is replaced. -/
def putMissing (id : Nat) (runs : List Nat) : List (Nat × List Nat) → List (Nat × List Nat)
  | [] => [(id, runs)]
  | (k, rs) :: rest =>
    if id = k then (id, runs) :: rest
    else if id < k then (id, runs) :: (k, rs) :: rest
    else (k, rs) :: putMissing id runs rest

/-- The summary of endpoints and of all their records. -/
def of (aggregates : List EndpointAggregate) (records : List RunRecord) : BenchmarkSummary :=
  let successful := records.countP (·.ranWithoutError)
  { totalEndpoints := aggregates.length
    totalRuns := records.length
    successfulRuns := successful
    failedRuns := records.length - successful
    timedOutRuns := records.countP (·.timedOut)
    successRate := Report.rate successful records.length
    generationTime := Stats.of (records.map (·.durationSeconds))
    cpu := Stats.ofAvailable (records.map Report.sampledCpu)
    memory := Stats.ofAvailable (records.map Report.sampledMemory)
    tests := Report.statsOf (·.artifacts.tests) records
    assertions := Report.statsOf (·.artifacts.assertions) records
    coverage := Stats.ofAvailable (records.map (·.coverage.coverage))
    diagnoses := Report.failures records
    missingRuns := (aggregates.filter fun a => !a.missingRuns.isEmpty).foldl
      (fun acc a => putMissing a.endpoint a.missingRuns acc) []
    allFailed := (aggregates.filter EndpointAggregate.allFailed).map (·.endpoint) }

/-- The document of a summary. -/
def toJson (s : BenchmarkSummary) : Json :=
  .object [
    ("total_endpoints", .ofNat s.totalEndpoints),
    ("total_runs", .ofNat s.totalRuns),
    ("successful_runs", .ofNat s.successfulRuns),
    ("failed_runs", .ofNat s.failedRuns),
    ("timed_out_runs", .ofNat s.timedOutRuns),
    ("success_rate", Json.ofOption .ofFloat s.successRate),
    ("generation_time", s.generationTime.toJson),
    ("cpu_usage", s.cpu.toJson),
    ("memory_usage", s.memory.toJson),
    ("tests_generated", s.tests.toJson),
    ("assertions", s.assertions.toJson),
    ("coverage", s.coverage.toJson),
    ("error_distribution", s.diagnoses.toJson),
    ("missing_runs", .object (s.missingRuns.map fun (id, runs) =>
      (Decimal.ofNat id, .array (runs.map .ofNat)))),
    ("all_failed_endpoints", .array (s.allFailed.map .ofNat))]

/-! ### The narrative -/

/-- A row of a table. -/
def row (cells : List String) : String := "| " ++ Text.join " | " cells ++ " |"

/-- The line under the heads of `n` columns. -/
def rule (n : Nat) : String := "|" ++ Text.join "|" (List.replicate n "---") ++ "|"

/-- The lines of the totals. -/
def totalLines (s : BenchmarkSummary) : List String :=
  let count (name : String) (n : Nat) : String := row [name, Decimal.ofNat n]
  let figure (name : String) (places : Nat) (x : Stats Float) : String :=
    row [name, EndpointAggregate.fixedText places x.avg]
  ["## Totals", "", row ["Metric", "Value"], rule 2,
    count "Endpoints" s.totalEndpoints,
    count "Runs recorded" s.totalRuns,
    count "Successful runs" s.successfulRuns,
    count "Failed runs" s.failedRuns,
    count "Timed out" s.timedOutRuns,
    row ["Success rate", EndpointAggregate.percentText s.successRate],
    figure "Avg generation time (s)" 1 s.generationTime,
    figure "Avg CPU (%)" 1 s.cpu,
    figure "Avg peak memory (MB)" 0 s.memory,
    figure "Avg tests generated" 2 s.tests,
    figure "Avg coverage" 4 s.coverage, ""]

/-- The cells of an endpoint. -/
def endpointCells (catalog : Option Catalog) (a : EndpointAggregate) : List String :=
  let (service, method, path) :=
    match catalog.bind fun c => (c.lookup a.endpoint).toOption with
    | some e => (e.service, e.method.name, e.path)
    | none => (notAvailable, notAvailable, notAvailable)
  [Decimal.ofNat a.endpoint, service, method, "\x60" ++ path ++ "\x60", Decimal.ofNat a.totalRuns,
    EndpointAggregate.percentText a.successRate,
    EndpointAggregate.fixedText 1 a.generationTime.avg,
    EndpointAggregate.fixedText 2 a.tests.avg, a.errors.primary.label]

/-- The heads of the table of endpoints. -/
def endpointHeads : List String :=
  ["ID", "Service", "Method", "Path", "Runs", "Success", "Avg time (s)", "Avg tests",
    "Primary error"]

/-- The lines of the endpoints. -/
def endpointLines (catalog : Option Catalog) (aggregates : List EndpointAggregate) : List String :=
  ["## Endpoints", "", row endpointHeads, rule endpointHeads.length] ++
    aggregates.map (fun a => row (endpointCells catalog a)) ++ [""]

/-- The lines of the diagnoses. -/
def errorLines (s : BenchmarkSummary) : List String :=
  ["## Error Distribution", ""] ++
  (if s.diagnoses.isEmpty then ["No failed runs."]
   else row ["Error type", "Runs", "Meaning"] :: rule 3 ::
     s.diagnoses.map fun (d, n) => row [d.label, Decimal.ofNat n, d.description]) ++ [""]

/-- The lines of the missing runs, if there are any. -/
def missingLines (s : BenchmarkSummary) : List String :=
  if s.missingRuns.isEmpty then []
  else ["## Missing Runs", ""] ++ s.missingRuns.map (fun (id, runs) =>
    "- Endpoint " ++ Decimal.ofNat id ++ ": run(s) " ++
      Text.join ", " (runs.map Decimal.ofNat)) ++ [""]

/-- The lines of the notes, if there are any. -/
def caveatLines (s : BenchmarkSummary) (caveats : List String) : List String :=
  if caveats.isEmpty && s.allFailed.isEmpty then []
  else ["## Caveats", ""] ++ caveats.map ("- " ++ ·) ++
    (if s.allFailed.isEmpty then []
     else ["- No run succeeded for endpoint(s) " ++
       Text.join ", " (s.allFailed.map Decimal.ofNat) ++
       ". Listed for context; see the error distribution above."]) ++ [""]

/-- The narrative of a summary. -/
def markdown (s : BenchmarkSummary) (aggregates : List EndpointAggregate)
    (catalog : Option Catalog) (caveats : List String) : String :=
  String.join ((["# Benchmark Summary", ""] ++ s.totalLines ++ endpointLines catalog aggregates ++
    s.errorLines ++ s.missingLines ++ s.caveatLines caveats).map (· ++ "\n"))

end BenchmarkSummary

end SuiteBench
