import SuiteBench.Store.Repository
import SuiteBench.Benchmark.Manifest
import SuiteBench.Suite.Analysis
import SuiteBench.Report.Checklist

/-!
# Report.Collected — what a results tree holds

The endpoints with a directory and those that the manifest asks for, each with its records and with
the run directories that have none.
-/

namespace SuiteBench

/-- The results of one endpoint. -/
structure EndpointResults where
  endpoint : Nat
  /-- The planned number of runs; without a plan the highest number of a run directory. -/
  expectedRuns : Option Nat
  records : List RunRecord
  /-- The runs whose directory has no complete record. -/
  unrecorded : List Nat

/-- The results of a benchmark. -/
structure CollectedResults where
  dir : ResultsDir
  manifest : Option Manifest
  endpoints : List EndpointResults

namespace CollectedResults

/-- All records, by endpoint and run. -/
def records (c : CollectedResults) : List RunRecord := c.endpoints.flatMap (·.records)

/-- The number of records. -/
def recordCount (c : CollectedResults) : Nat := (c.endpoints.flatMap (·.records)).length

end CollectedResults

/-- The tests of an endpoint's runs taken together. -/
structure EndpointTests where
  endpoint : Nat
  runsAnalysed : Nat
  suite : SuiteAnalysis
  deriving DecidableEq, Repr

namespace EndpointTests

/-- The remarks by column, in the order of the columns. -/
def hints (a : EndpointTests) : List (String × String) := a.suite.hints.mergeSort fun x y => x.1 ≤ y.1

/-- The document of the tests. -/
def toJson (a : EndpointTests) : Json :=
  .object [("endpoint_id", .ofNat a.endpoint), ("runs_analysed", .ofNat a.runsAnalysed),
    ("suite", a.suite.toJson),
    ("hints", .object (a.hints.map fun (k, v) => (k, .string v)))]

end EndpointTests

namespace Report

variable (d : ResultsDir) (t : Tree)

/-- The manifest of the benchmark, if there is one that can be read. -/
def manifest? : Option Manifest := do
  let bytes ← (t.read (d.location ++ [Layout.manifest])).toOption
  (Json.ofBytes? bytes).bind Manifest.ofJson?

/-- Ascending ids, each once, with one more. -/
def insertId (n : Nat) : List Nat → List Nat
  | [] => [n]
  | m :: ms => if n < m then n :: m :: ms else if n = m then m :: ms else m :: insertId n ms

/-- The greatest of some numbers. -/
def highest? : List Nat → Option Nat
  | [] => none
  | n :: ns => some (ns.foldl max n)

/-- The planned number of runs of an endpoint, else the highest run there is. -/
def expectedRuns (m : Option Manifest) (endpoint : Nat) (runs : List Store.StoredRun) : Option Nat :=
  ((m.filter fun m => m.endpointIds.contains endpoint).map (·.runsPerEndpoint)).or
    (highest? (runs.map (·.key.run)))

/-- The results of one endpoint. -/
def endpointResults (m : Option Manifest) (endpoint : Nat) :
    Except StoreError EndpointResults := do
  let runs ← Store.listRuns d t endpoint
  return {
    endpoint
    expectedRuns := expectedRuns m endpoint runs
    records := runs.filterMap (·.record)
    unrecorded := (runs.filter fun r => r.record.isNone).map (·.key.run) }

/-- What the results tree holds. -/
def collect : Except ReportError CollectedResults := do
  if !t.isDirectory d.location then throw (.missingResults d.path)
  let m := manifest? d t
  let listed ← (Store.listEndpoints d t).mapError .store
  let ids := (listed ++ (m.map (·.endpointIds)).getD []).foldr insertId []
  let endpoints ← ids.mapM fun id => (endpointResults d t m id).mapError ReportError.store
  return ⟨d, m, endpoints⟩

/-- What is said about the faults of a results tree that do not stop its collection. -/
def collectWarnings (c : CollectedResults) : List String :=
  let manifestAt := d.location ++ [Layout.manifest]
  let manifest := if (t.read manifestAt).isOk && c.manifest.isNone
    then ["Ignoring unreadable manifest " ++ (d.path.join Layout.manifest).text] else []
  let absent := (c.endpoints.filter fun e => !t.isDirectory (d.endpointLocation e.endpoint)).map
    fun e => "Requested endpoint " ++ Decimal.ofNat e.endpoint ++ " has no results directory"
  let partly := (c.endpoints.filter fun e => !e.unrecorded.isEmpty).map fun e =>
    "Run directories of endpoint " ++ Decimal.ofNat e.endpoint ++ " without a complete record: " ++
      Text.join ", " (e.unrecorded.map Decimal.ofNat)
  manifest ++ absent ++ partly

/-- The location of the generated tests of a run. -/
def testsLocation (k : RunKey) : Location := d.runLocation k ++ [Layout.generatedTests]

/-- The tests of every recorded run of an endpoint. -/
def endpointTests (e : EndpointResults) : EndpointTests :=
  ⟨e.endpoint, e.records.length,
    (e.records.map fun r =>
      SuiteAnalysis.ofDirectory t (testsLocation d ⟨e.endpoint, r.key.run⟩)).foldl
        SuiteAnalysis.merge .empty⟩

end Report

end SuiteBench
