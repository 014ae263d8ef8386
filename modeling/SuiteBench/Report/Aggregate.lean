import SuiteBench.Benchmark.Manifest
import SuiteBench.Decimal.Layout
import SuiteBench.Report.Stats

/-!
# Report.Aggregate — the runs of one endpoint taken together

The records of an endpoint are put in the order of their run numbers, the first of each number
stands, and all figures are taken from that list.  Nothing else goes in, so that the same records
give the same aggregate.
-/

namespace SuiteBench

/-- The exit codes of some runs. -/
structure ExitCodes where
  values : List Int
  /-- Each code once, in ascending order. -/
  unique : List Int
  deriving DecidableEq, Repr

/-- What went wrong in some runs. -/
structure ErrorSummary where
  /-- The most frequent failure; of equally frequent ones the first in the taxonomy. -/
  primary : Diagnosis
  diagnoses : DiagnosisCounts
  totalErrors : Stats Float
  missingPackages : Stats Float
  missingSymbols : Stats Float
  messages : List String

/-- One run in the table of an aggregate. -/
structure RunLine where
  run : Nat
  duration : Float
  cpu : Option Float
  memory : Option Float
  tests : Nat
  exitCode : Int
  timedOut : Bool
  diagnosis : Diagnosis
  message : String

/-- The runs of one endpoint taken together. -/
structure EndpointAggregate where
  endpoint : Nat
  totalRuns : Nat
  expectedRuns : Option Nat
  successfulRuns : Nat
  failedRuns : Nat
  successRate : Option Float
  timedOut : Nat
  hungUp : Nat
  /-- The expected runs without a record. -/
  missingRuns : List Nat
  generationTime : Stats Float
  cpu : Stats Float
  memory : Stats Float
  tests : Stats Float
  methods : Stats Float
  assertions : Stats Float
  coverage : Stats Float
  totalGoals : Stats Float
  coveredGoals : Stats Float
  exitCodes : ExitCodes
  errors : ErrorSummary
  runs : List RunLine

namespace Report

/-- The list without neighbours of the same number; the first of them stands. -/
def dropRepeatedRuns : List RunRecord → List RunRecord
  | [] => []
  | r :: rs =>
    match dropRepeatedRuns rs with
    | [] => [r]
    | s :: ss => if r.key.run = s.key.run then r :: ss else r :: s :: ss

/-- The records of one endpoint in the order of their runs, one for each. -/
def runsOf (endpoint : Nat) (records : List RunRecord) : List RunRecord :=
  dropRepeatedRuns ((records.filter fun r => r.key.endpoint = endpoint).mergeSort
    fun a b => a.key.run ≤ b.key.run)

/-- The share of `n` in `total`, where there is any. -/
def rate (n total : Nat) : Option Float :=
  if total = 0 then none
  else some (Decimal.roundTo
    (Decimal.Figures.div (Decimal.Figures.ofNat n) (Decimal.Figures.ofNat total)) Stats.places)

/-- How often each failure occurs. -/
def failures (records : List RunRecord) : DiagnosisCounts :=
  (records.filter fun r => r.diagnosis.isFailure).foldl (fun cs r => cs.add r.diagnosis) []

/-- The diagnosis with the greatest count, the first of equal ones. -/
def mostFrequent (cs : DiagnosisCounts) : Diagnosis :=
  match cs.foldl (fun best x =>
      match best with
      | some (d, n) => if x.2 ≤ n then some (d, n) else some x
      | none => some x) (none : Option (Diagnosis × Nat)) with
  | some (d, _) => d
  | none => .noError

/-- The most messages kept of an endpoint. -/
def mostMessages : Nat := 5

/-- The first distinct messages that hold something, trimmed. -/
def distinctMessages (records : List RunRecord) : List String :=
  ((records.map fun r => Text.trim r.message).foldl (fun acc m =>
    if m.isEmpty || acc.contains m then acc else acc ++ [m]) []).take mostMessages

/-- The CPU figure of a run whose resources were sampled. -/
def sampledCpu (r : RunRecord) : Option Float :=
  if r.resources.samples = 0 then none else some r.resources.cpuAverage

/-- The memory figure of a run whose resources were sampled. -/
def sampledMemory (r : RunRecord) : Option Float :=
  if r.resources.samples = 0 then none else some r.resources.memoryPeak

/-- Ascending whole numbers, each once, with one more. -/
def insertOnce (n : Int) : List Int → List Int
  | [] => [n]
  | m :: ms => if n < m then n :: m :: ms else if n = m then m :: ms else m :: insertOnce n ms

/-- Whether a run ended badly: it threw errors or the deadline killed it. -/
def endedBadly (r : RunRecord) : Bool := r.threwErrors || r.timedOut

/-- The longest message in the table of runs. -/
def tableMessage : Nat := 200

/-- The line of a run. -/
def runLine (r : RunRecord) : RunLine :=
  ⟨r.key.run, r.durationSeconds, sampledCpu r, sampledMemory r, r.artifacts.tests, r.exitCode,
    r.timedOut, r.diagnosis, Text.truncate r.message tableMessage⟩

/-- The summary of a whole number over some runs. -/
def statsOf (f : RunRecord → Nat) (records : List RunRecord) : Stats Float :=
  Stats.of (records.map fun r => Decimal.Figures.ofNat (f r))

/-- What went wrong in some runs. -/
def errorSummary (records : List RunRecord) : ErrorSummary :=
  let failed := records.filter endedBadly
  { primary := mostFrequent (failures records)
    diagnoses := failures records
    totalErrors := statsOf (·.errorCounts.total) failed
    missingPackages := statsOf (·.errorCounts.missingPackages) failed
    missingSymbols := statsOf (·.errorCounts.missingSymbols) failed
    messages := distinctMessages records }

/-- The expected runs without a record. -/
def missingRuns (expected : Option Nat) (records : List RunRecord) : List Nat :=
  let present := records.map (·.key.run)
  ((List.range (expected.getD 0)).map (· + 1)).filter fun n => !present.contains n

/-- The aggregate of runs in order. -/
def ofRuns (endpoint : Nat) (expected : Option Nat) (runs : List RunRecord) : EndpointAggregate :=
  let successful := runs.countP (·.ranWithoutError)
  let goals (f : RunRecord → Option Nat) : Stats Float :=
    Stats.ofAvailable (runs.map fun r => (f r).map Decimal.Figures.ofNat)
  { endpoint
    totalRuns := runs.length
    expectedRuns := expected
    successfulRuns := successful
    failedRuns := runs.length - successful
    successRate := rate successful runs.length
    timedOut := runs.countP (·.timedOut)
    hungUp := runs.countP (·.hungUp)
    missingRuns := missingRuns expected runs
    generationTime := Stats.of (runs.map (·.durationSeconds))
    cpu := Stats.ofAvailable (runs.map sampledCpu)
    memory := Stats.ofAvailable (runs.map sampledMemory)
    tests := statsOf (·.artifacts.tests) runs
    methods := statsOf (·.artifacts.methods) runs
    assertions := statsOf (·.artifacts.assertions) runs
    coverage := Stats.ofAvailable (runs.map (·.coverage.coverage))
    totalGoals := goals (·.coverage.totalGoals)
    coveredGoals := goals (·.coverage.coveredGoals)
    exitCodes := ⟨runs.map (·.exitCode), (runs.map (·.exitCode)).foldr insertOnce []⟩
    errors := errorSummary runs
    runs := runs.map runLine }

/-- The aggregate of an endpoint over the records that belong to it. -/
def aggregate (endpoint : Nat) (expected : Option Nat) (records : List RunRecord) :
    EndpointAggregate :=
  ofRuns endpoint expected (runsOf endpoint records)

end Report

namespace EndpointAggregate

/-- Whether there are runs and none of them succeeded. -/
def allFailed (a : EndpointAggregate) : Bool := 0 < a.totalRuns && a.successfulRuns == 0

/-! ### The document -/

/-- The document of the run table. -/
def runLineJson (r : RunLine) : Json :=
  .object [
    ("run_number", .ofNat r.run), ("duration_sec", .ofFloat r.duration),
    ("cpu_pct", Json.ofOption .ofFloat r.cpu), ("memory_mb", Json.ofOption .ofFloat r.memory),
    ("tests", .ofNat r.tests), ("exit_code", .ofInt r.exitCode), ("timed_out", .bool r.timedOut),
    ("error_type", .string r.diagnosis.label), ("error_message", .string r.message)]

/-- The document of the error summary. -/
def errorsJson (e : ErrorSummary) : Json :=
  .object [
    ("primary_error_type", .string e.primary.label), ("error_types", e.diagnoses.toJson),
    ("total_errors", e.totalErrors.toJson), ("missing_packages", e.missingPackages.toJson),
    ("missing_symbols", e.missingSymbols.toJson), ("unique_error_messages", .ofTexts e.messages)]

/-- The document of an aggregate. -/
def toJson (a : EndpointAggregate) : Json :=
  .object [
    ("endpoint_id", .ofNat a.endpoint),
    ("total_runs", .ofNat a.totalRuns),
    ("expected_runs", Json.ofOption .ofNat a.expectedRuns),
    ("successful_runs", .ofNat a.successfulRuns),
    ("failed_runs", .ofNat a.failedRuns),
    ("success_rate", Json.ofOption .ofFloat a.successRate),
    ("timed_out_count", .ofNat a.timedOut),
    ("hung_up_count", .ofNat a.hungUp),
    ("missing_runs", .array (a.missingRuns.map .ofNat)),
    ("generation_time", a.generationTime.toJson),
    ("cpu_usage", a.cpu.toJson),
    ("memory_usage", a.memory.toJson),
    ("tests_generated", a.tests.toJson),
    ("test_methods", a.methods.toJson),
    ("assertions", a.assertions.toJson),
    ("coverage", a.coverage.toJson),
    ("total_goals", a.totalGoals.toJson),
    ("covered_goals", a.coveredGoals.toJson),
    ("exit_codes", .object [("values", .array (a.exitCodes.values.map .ofInt)),
      ("unique", .array (a.exitCodes.unique.map .ofInt))]),
    ("error_summary", errorsJson a.errors),
    ("individual_runs", .array (a.runs.map runLineJson))]

/-! ### The text -/

/-- A figure with as many digits as it needs, or the marker of a missing one. -/
def figureText (x : Option Float) : String :=
  match x with
  | some x => Decimal.Layout.plain.text x
  | none => notAvailable

/-- A figure with fixed places, or the marker of a missing one. -/
def fixedText (places : Nat) (x : Option Float) : String :=
  match x with
  | some x => Decimal.fixed places x
  | none => notAvailable

/-- A rate as a percentage, or the marker of a missing one. -/
def percentText (x : Option Float) : String :=
  match x with
  | some x => Decimal.fixed 1 (x * 100.0) ++ "%"
  | none => notAvailable

/-- The lines of one summary. -/
def statsLines (title : String) (s : Stats Float) : List String :=
  [title, Text.repeatChar 40 '-',
    "Average:         " ++ figureText s.avg,
    "Min:             " ++ figureText s.min,
    "Max:             " ++ figureText s.max,
    "Std Dev:         " ++ figureText s.deviation, ""]

/-- A message cut to the width of the text, with dots where something is missing. -/
def shortMessage (m : String) : String :=
  let shown := Text.truncate m 100
  shown ++ (if shown.utf8ByteSize < m.utf8ByteSize then "..." else "")

/-- The lines about errors, if there are any. -/
def errorLines (e : ErrorSummary) : List String :=
  if e.diagnoses.isEmpty then []
  else
    ["ERROR SUMMARY", Text.repeatChar 40 '-', "Primary Error:   " ++ e.primary.label,
      "Error Types:"] ++
    e.diagnoses.map (fun (d, n) => "  - " ++ d.label ++ ": " ++ Decimal.ofNat n) ++
    (match e.totalErrors.avg with
      | some x => ["Avg Errors per Failed Run: " ++ Decimal.Layout.plain.text x]
      | none => []) ++
    (if e.messages.isEmpty then []
     else "" :: "Sample Error Messages:" ::
       (e.messages.take 3).map fun m => "  * " ++ shortMessage m) ++ [""]

/-- The lines about the runs as a whole. -/
def executionLines (a : EndpointAggregate) : List String :=
  ["EXECUTION SUMMARY", Text.repeatChar 40 '-',
    "Total Runs:      " ++ Decimal.ofNat a.totalRuns] ++
  (match a.expectedRuns with
    | some n => ["Expected Runs:   " ++ Decimal.ofNat n]
    | none => []) ++
  ["Successful:      " ++ Decimal.ofNat a.successfulRuns,
    "Failed:          " ++ Decimal.ofNat a.failedRuns,
    "Success Rate:    " ++ percentText a.successRate,
    "Timed Out:       " ++ Decimal.ofNat a.timedOut,
    "Hung Up:         " ++ Decimal.ofNat a.hungUp] ++
  (if a.missingRuns.isEmpty then []
   else ["Missing Runs:    " ++ Text.join ", " (a.missingRuns.map Decimal.ofNat)]) ++ [""]

/-- A line of the table of runs. -/
def tableLine (run time cpu memory tests exit error : String) : String :=
  Text.join " " [Text.padBack 6 run, Text.padBack 10 time, Text.padBack 10 cpu,
    Text.padBack 10 memory, Text.padBack 8 tests, Text.padBack 6 exit, error]

/-- The line of a run. -/
def runText (r : RunLine) : String :=
  tableLine (Decimal.ofNat r.run) (Decimal.fixed 1 r.duration) (fixedText 1 r.cpu)
    (fixedText 0 r.memory) (Decimal.ofNat r.tests) (Decimal.ofInt r.exitCode) r.diagnosis.label

/-- The lines of an aggregate. -/
def lines (a : EndpointAggregate) : List String :=
  let rule := Text.repeatChar 60 '='
  let thin := Text.repeatChar 40 '-'
  [rule, "ENDPOINT " ++ Decimal.ofNat a.endpoint ++ " - AGGREGATED RESULTS", rule, ""] ++
  a.executionLines ++ errorLines a.errors ++
  statsLines "GENERATION TIME (seconds)" a.generationTime ++ statsLines "CPU USAGE (%)" a.cpu ++
  statsLines "MEMORY USAGE (MB)" a.memory ++ statsLines "COVERAGE" a.coverage ++
  ["TESTS GENERATED", thin, "Average:         " ++ figureText a.tests.avg,
    "Total:           " ++ Decimal.ofNat (a.runs.foldl (· + ·.tests) 0), "",
    "INDIVIDUAL RUNS", thin,
    tableLine "Run" "Time(s)" "CPU(%)" "Mem(MB)" "Tests" "Exit" "Error",
    Text.repeatChar 70 '-'] ++
  a.runs.map runText ++ ["", rule]

/-- The text of an aggregate. -/
def text (a : EndpointAggregate) : String := String.join (a.lines.map (· ++ "\n"))

end EndpointAggregate

end SuiteBench
