import SuiteBench.Run.Halves
import SuiteBench.Endpoint.Catalog
import SuiteBench.Csv.Table
import SuiteBench.Json.Printer
import SuiteBench.Store.Layout

/-!
# Report.Tables — the tables of a benchmark

The results table has a row for each record, with columns left open for a manual evaluation.  The
detailed table has a row for each field of both documents of each record.
-/

namespace SuiteBench.Report

/-- The columns that a manual evaluation fills in. -/
def qualitativeColumns : List String :=
  ["targets_correct_endpoint", "asserts_http_status", "correct_comparator",
    "inline_with_scenarios", "missing_url_params", "missing_request_body",
    "assertions_meaningful", "boundary_conditions", "verifies_authorization",
    "invalid_url_params", "invalid_request_body"]

/-- The column that says whether the manual evaluation is complete. -/
def completeColumn : String := "manual_evaluation_complete"

/-- The columns of the results table. -/
def resultColumns : List String :=
  ["endpoint_id", "service", "http_method", "endpoint_path", "controller_class", "run_number",
    "generation_status", "generation_time_sec", "generation_cpu_pct", "generation_memory_mb",
    "tests_generated", "test_methods_count", "assertions_count", "line_coverage",
    "branch_coverage", "total_goals", "covered_goals", "exit_code", "error_type",
    "error_message"] ++ qualitativeColumns ++
  ["runs_without_error", "threw_errors", "runtime_anomalies", "timed_out", "hung_up",
    "test_flakiness_rate", "test_exec_memory_mb", "test_exec_cpu_sec", "mean_test_exec_time_ms",
    "exec_time_std_dev_ms", completeColumn, "evaluator_notes"]

/-- The longest message in the results table. -/
def resultMessage : Nat := 200

/-- A flag. -/
def flagCell (b : Bool) : String := if b then "TRUE" else "FALSE"

/-- A value, or the marker of a missing one. -/
def cellOf {α : Type} (f : α → String) : Option α → String
  | some a => f a
  | none => notAvailable

/-- The row of a record. -/
def resultRow (catalog : Option Catalog) (r : RunRecord) : List String :=
  let endpoint := catalog.bind fun c => (c.lookup r.key.endpoint).toOption
  let sampled := 0 < r.resources.samples
  let figure := Decimal.Layout.plain.text
  [Decimal.ofNat r.key.endpoint,
    cellOf (·.service) endpoint,
    cellOf (·.method.name) endpoint,
    cellOf (·.path) endpoint,
    cellOf (·.controllerClass) endpoint,
    Decimal.ofNat r.key.run,
    r.status.name,
    figure r.durationSeconds,
    if sampled then figure r.resources.cpuAverage else notAvailable,
    if sampled then figure r.resources.memoryPeak else notAvailable,
    Decimal.ofNat r.artifacts.tests,
    Decimal.ofNat r.artifacts.methods,
    Decimal.ofNat r.artifacts.assertions,
    cellOf figure r.coverage.coverage,
    notAvailable,
    cellOf Decimal.ofNat r.coverage.totalGoals,
    cellOf Decimal.ofNat r.coverage.coveredGoals,
    Decimal.ofInt r.exitCode,
    r.diagnosis.label,
    Text.truncate r.message resultMessage] ++
  qualitativeColumns.map (fun _ => notAvailable) ++
  [flagCell r.ranWithoutError,
    flagCell r.threwErrors,
    if r.threwErrors then r.diagnosis.label else "",
    flagCell r.timedOut,
    flagCell r.hungUp] ++
  List.replicate 5 notAvailable ++ [flagCell false, ""]

/-- The results table. -/
def resultsTable (catalog : Option Catalog) (records : List RunRecord) : String :=
  Csv.write (resultColumns :: records.map (resultRow catalog))

/-- The columns of the detailed table. -/
def detailedColumns : List String :=
  ["endpoint_id", "run_number", "source_file", "metric_name", "metric_value", "metric_type"]

/-- The kind of a value. -/
def valueKind : Json → String
  | .null | .broken => "null"
  | .bool _ => "boolean"
  | .number (.float x) => if x.isFinite then "float" else "null"
  | .number _ => "integer"
  | .string _ => "string"
  | .array _ => "array"
  | .object _ => "object"

/-- The text of a value; a string stands for itself. -/
def valueText : Json → String
  | .string s => s
  | j => j.sorted.compact

/-- The rows of one document of a record. -/
def documentRows (key : RunKey) (file : String) (document : Json) : List (List String) :=
  match document.sorted with
  | .object fs => fs.map fun (name, v) =>
    [Decimal.ofNat key.endpoint, Decimal.ofNat key.run, file, name, valueText v, valueKind v]
  | _ => []

/-- The rows of a record. -/
def detailedRows (r : RunRecord) : List (List String) :=
  documentRows r.key Layout.resourceMetrics r.metrics.toJson ++
    documentRows r.key Layout.exitStatus r.exitStatus.toJson

/-- The detailed table. -/
def detailedTable (records : List RunRecord) : String :=
  Csv.write (detailedColumns :: records.flatMap detailedRows)

end SuiteBench.Report
