import SuiteBench.Store.Path
import SuiteBench.Run.Record

/-!
# Store.Layout — names in a results tree

A results directory holds `endpoint_NN` directories, each with `run_NN` directories; reports stand
beside them.  The number in a name has at least two digits.
-/

namespace SuiteBench.Layout

/-! ### File names -/

def resourceMetrics : String := "resource-metrics.json"
def exitStatus : String := "exit-status.json"
def generatedTests : String := "generated-tests"
def toolReport : String := "evosuite-report"
def toolStatistics : String := "statistics.csv"
def averagesJson : String := "run-averages.json"
def averagesText : String := "run-averages.txt"
def manualEvaluation : String := "manual-evaluation.md"
def testAnalysis : String := "test-analysis.json"
def manifest : String := "benchmark-run.json"
def resultsTable : String := "benchmark-results.csv"
def detailedTable : String := "detailed-metrics.csv"
def summaryReport : String := "summary-report.md"
def metricsSummary : String := "metrics-summary.json"

/-! ### Directory names -/

/-- The directory name of an endpoint. -/
def endpointName (id : Nat) : String := "endpoint_" ++ Decimal.padded 2 id

/-- The directory name of a run. -/
def runName (n : Nat) : String := "run_" ++ Decimal.padded 2 n

/-- The directory of an endpoint below the results root. -/
def endpointDir (root : Path) (id : Nat) : Path := root.join (endpointName id)

/-- The directory of a run below the results root. -/
def runDir (root : Path) (k : RunKey) : Path := (endpointDir root k.endpoint).join (runName k.run)

/-- The location of an endpoint's directory. -/
def endpointLocation (root : Location) (id : Nat) : Location := root ++ [endpointName id]

/-- The location of a run's directory. -/
def runLocation (root : Location) (k : RunKey) : Location :=
  root ++ [endpointName k.endpoint, runName k.run]

/-- The positive number in a directory name `stem_number`. -/
def number? (name stem : String) : Option Nat := do
  let rest ← Text.stripFront? stem.toList name.toList
  let rest ← Text.stripFront? ['_'] rest
  match Decimal.readNat Decimal.max32 rest with
  | .ok n => if 0 < n then some n else none
  | .error _ => none

end SuiteBench.Layout
