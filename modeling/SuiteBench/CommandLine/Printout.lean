import SuiteBench.Benchmark.Manifest
import SuiteBench.Report.Outputs

/-!
# CommandLine.Printout — what commands print

Each printout is a list of lines; a line that reports success starts with a check mark.
-/

namespace SuiteBench.CommandLine

/-- Lines as a text, each with its end. -/
def linesText (lines : List String) : String := String.join (lines.map (· ++ "\n"))

/-- A line that reports success. -/
def doneLine (what : String) : String := "✓ " ++ what

/-- A line that reports a failure. -/
def failedLine (what : String) : String := "✗ " ++ what

/-- The summary of a benchmark. -/
def benchmarkLines (b : BenchmarkRun) (results : Path) : List String :=
  let t := b.tally
  ["", "Benchmark " ++ b.id,
    "  Recorded:   " ++ Decimal.ofNat t.recorded,
    "  Successful: " ++ Decimal.ofNat t.successful,
    "  Failed:     " ++ Decimal.ofNat t.failed,
    "  Timed out:  " ++ Decimal.ofNat t.timedOut] ++
  (if 0 < t.skipped then ["  Skipped:    " ++ Decimal.ofNat t.skipped] else []) ++
  t.diagnoses.map (fun (d, n) => "    " ++ d.label ++ ": " ++ Decimal.ofNat n) ++
  (if b.interrupted then ["Interrupted before completion"] else []) ++
  ["  Results:    " ++ results.text]

/-- The lines on one recorded run. -/
def recordLines (r : RunRecord) : List String :=
  ("Endpoint " ++ Decimal.ofNat r.key.endpoint ++ " run " ++ Decimal.ofNat r.key.run ++ ": " ++
    r.status.name ++ " (" ++ r.diagnosis.label ++ ") in " ++ Decimal.fixed 1 r.durationSeconds ++
    "s, " ++ Decimal.ofNat r.artifacts.tests ++ " test file(s)") ::
  (if r.message.isEmpty then [] else ["  " ++ r.message])

/-- The line on a run that was interrupted. -/
def discardedLines : List String := ["Run interrupted; partial output discarded"]

/-- The lines on the reports that were written. -/
def reportLines (settings : ReportSettings) (catalog : Option Catalog) (c : CollectedResults) :
    List String :=
  [doneLine ("Reports for " ++ Decimal.ofNat c.recordCount ++ " run(s) across " ++
    Decimal.ofNat c.endpoints.length ++ " endpoint(s)"),
    "  " ++ (Report.resultsFile catalog c).path.text] ++
  (if settings.detailedCsv then ["  " ++ (Report.detailedFile c).path.text] else []) ++
  ["  " ++ (Report.narrativeFile settings catalog c).path.text,
    "  " ++ (Report.metricsFile c).path.text]

/-- The line on the evaluations that were merged. -/
def mergedLines (rows : Nat) : List String :=
  [doneLine ("Manual evaluations merged into " ++ Decimal.ofNat rows ++ " row(s)")]

/-- A row of the table of endpoints. -/
def endpointRow (endpoint runs success time diagnosis : String) : String :=
  Text.padBack 10 endpoint ++ " " ++ Text.padFront 6 runs ++ " " ++ Text.padFront 9 success ++
    " " ++ Text.padFront 12 time ++ " " ++ Text.padBack 24 diagnosis

/-- The table of endpoints with the line on the summary. -/
def collectLines (c : CollectedResults) : List String :=
  endpointRow "Endpoint" "Runs" "Success" "Avg time(s)" "Primary error" ::
  (Report.aggregates c).map (fun a =>
    endpointRow (Decimal.ofNat a.endpoint) (Decimal.ofNat a.totalRuns)
      (EndpointAggregate.percentText a.successRate) (EndpointAggregate.fixedText 1 a.generationTime.avg)
      a.errors.primary.label) ++
  [doneLine (Decimal.ofNat (Report.summary c).totalRuns ++ " run(s), " ++
    Decimal.ofNat (Report.summary c).successfulRuns ++ " successful; summary at " ++
    (Report.metricsFile c).path.text)]

/-- The line on settings that can be used. -/
def validLines : List String := [doneLine "Configuration file is valid"]

/-- The line on settings that cannot be used. -/
def invalidLines (why : String) : List String :=
  [failedLine ("Configuration validation failed: " ++ why)]

/-- The lines on a settings file that was written. -/
def generatedLines (path : Path) : List String :=
  [doneLine ("Configuration generated at: " ++ path.text),
    "Validate with: genbench config validate --config-file " ++ path.text]

end SuiteBench.CommandLine
