import SuiteBench.Run.Record
import SuiteBench.Json.Decoder
import SuiteBench.Text.Lines

/-!
# Run.Halves — the two documents of a record

A record is kept as two documents, the resource metrics and the exit status.  Both name the run, so
that halves of different runs are never joined; a missing coverage figure is written `N/A`.
-/

namespace SuiteBench

/-- The marker of a figure that is not available. -/
def notAvailable : String := "N/A"

/-- The half of a record that holds times, resources, artifacts and coverage. -/
structure ResourceMetrics where
  key : RunKey
  startTime : Moment
  endTime : Moment
  durationSeconds : Float
  searchBudget : Nat
  resources : ResourceSummary
  artifacts : ArtifactCounts
  coverage : CoverageFigures

/-- The half of a record that holds how the run ended. -/
structure ExitStatus where
  key : RunKey
  status : GenerationStatus
  exitCode : Int
  timedOut : Bool
  ranWithoutError : Bool
  threwErrors : Bool
  hungUp : Bool
  diagnosis : Diagnosis
  message : String
  errorCounts : ErrorCounts

/-- Halves of two different runs. -/
structure HalvesMismatch where
  metrics : RunKey
  status : RunKey
  deriving DecidableEq, Repr

/-- The wording of a `HalvesMismatch`. -/
def HalvesMismatch.message (m : HalvesMismatch) : String :=
  "resource metrics for " ++ m.metrics.text ++ " paired with exit status for " ++ m.status.text

namespace RunRecord

/-- The half with times, resources, artifacts and coverage. -/
def metrics (r : RunRecord) : ResourceMetrics :=
  ⟨r.key, r.startedAt, r.finishedAt, r.durationSeconds, r.searchBudget, r.resources, r.artifacts,
    r.coverage⟩

/-- The half with the end of the run; the message is cut to the stored length. -/
def exitStatus (r : RunRecord) : ExitStatus :=
  ⟨r.key, r.status, r.exitCode, r.timedOut, r.ranWithoutError, r.threwErrors, r.hungUp,
    r.diagnosis, Text.truncate r.message maxMessage, r.errorCounts⟩

/-- The record of two halves of one run. -/
def ofHalves (m : ResourceMetrics) (s : ExitStatus) : Except HalvesMismatch RunRecord :=
  if m.key = s.key then
    .ok { key := m.key, startedAt := m.startTime, finishedAt := m.endTime
          durationSeconds := m.durationSeconds, searchBudget := m.searchBudget
          exitCode := s.exitCode, timedOut := s.timedOut, status := s.status
          diagnosis := s.diagnosis, message := s.message, errorCounts := s.errorCounts
          resources := m.resources, artifacts := m.artifacts, coverage := m.coverage }
  else .error ⟨m.key, s.key⟩

/-- The record as it is read back: with its message cut. -/
def stored (r : RunRecord) : RunRecord :=
  { r with message := Text.truncate r.message maxMessage }

theorem ofHalves_halves (r : RunRecord) : ofHalves r.metrics r.exitStatus = .ok r.stored := by
  simp [ofHalves, metrics, exitStatus, stored]

end RunRecord

/-- A figure, or the marker of a missing one. -/
def figureJson {α : Type} (f : α → Json) : Option α → Json
  | some a => f a
  | none => .string notAvailable

/-- Reads a figure, `null` or the marker. -/
def figure? {α : Type} (decode : Json → Option α) : Json → Option (Option α)
  | .null => some none
  | .string s => if s == notAvailable then some none else none
  | j => (decode j).map some

/-- A moment, as a string. -/
def Moment.ofJson? (j : Json) : Option Moment := j.text?.bind Moment.read?

namespace ResourceMetrics

/-- The fields in the order they are written. -/
def fieldNames : List String :=
  ["endpoint_id", "run_number", "start_time", "end_time", "duration_seconds",
    "search_budget_seconds", "cpu_average_percent", "memory_peak_mb", "resource_samples",
    "tests_generated", "test_methods", "assertions", "coverage", "total_goals", "covered_goals"]

/-- The document of this half. -/
def toJson (m : ResourceMetrics) : Json :=
  .object [
    ("endpoint_id", .ofNat m.key.endpoint),
    ("run_number", .ofNat m.key.run),
    ("start_time", .string m.startTime.text),
    ("end_time", .string m.endTime.text),
    ("duration_seconds", .ofFloat m.durationSeconds),
    ("search_budget_seconds", .ofNat m.searchBudget),
    ("cpu_average_percent", .ofFloat m.resources.cpuAverage),
    ("memory_peak_mb", .ofFloat m.resources.memoryPeak),
    ("resource_samples", .ofNat m.resources.samples),
    ("tests_generated", .ofNat m.artifacts.tests),
    ("test_methods", .ofNat m.artifacts.methods),
    ("assertions", .ofNat m.artifacts.assertions),
    ("coverage", figureJson .ofFloat m.coverage.coverage),
    ("total_goals", figureJson .ofNat m.coverage.totalGoals),
    ("covered_goals", figureJson .ofNat m.coverage.coveredGoals)]

/-- The half that a document holds. -/
def ofJson? (j : Json) : Option ResourceMetrics := do
  let fs ← Json.structure? fieldNames j
  let nat32 := Json.nat? Decimal.max32
  let nat64 := Json.nat? Decimal.max64
  some {
    key := ⟨← fs.required "endpoint_id" nat32, ← fs.required "run_number" nat32⟩
    startTime := ← fs.required "start_time" Moment.ofJson?
    endTime := ← fs.required "end_time" Moment.ofJson?
    durationSeconds := ← fs.required "duration_seconds" Json.float?
    searchBudget := ← fs.required "search_budget_seconds" nat64
    resources := ⟨← fs.required "cpu_average_percent" Json.float?,
      ← fs.required "memory_peak_mb" Json.float?, ← fs.optional "resource_samples" 0 nat64⟩
    artifacts := ⟨← fs.required "tests_generated" nat32, ← fs.required "test_methods" nat32,
      ← fs.required "assertions" nat32⟩
    coverage := ⟨← fs.optional "coverage" none (figure? Json.float?),
      ← fs.optional "total_goals" none (figure? nat64),
      ← fs.optional "covered_goals" none (figure? nat64)⟩ }

end ResourceMetrics

namespace ErrorCounts

/-- The document of the counts. -/
def toJson (c : ErrorCounts) : Json :=
  .object [("total_errors", .ofNat c.total), ("missing_packages", .ofNat c.missingPackages),
    ("missing_symbols", .ofNat c.missingSymbols)]

/-- The counts that a document holds. -/
def ofJson? (j : Json) : Option ErrorCounts := do
  let fs ← Json.structure? ["total_errors", "missing_packages", "missing_symbols"] j
  let nat32 := Json.nat? Decimal.max32
  some ⟨← fs.required "total_errors" nat32, ← fs.required "missing_packages" nat32,
    ← fs.required "missing_symbols" nat32⟩

end ErrorCounts

namespace ExitStatus

/-- The fields in the order they are written. -/
def fieldNames : List String :=
  ["endpoint_id", "run_number", "generation_status", "exit_code", "timed_out",
    "runs_without_error", "threw_errors", "hung_up", "error_type", "error_message",
    "error_counts"]

/-- The document of this half. -/
def toJson (s : ExitStatus) : Json :=
  .object [
    ("endpoint_id", .ofNat s.key.endpoint),
    ("run_number", .ofNat s.key.run),
    ("generation_status", .string s.status.name),
    ("exit_code", .ofInt s.exitCode),
    ("timed_out", .bool s.timedOut),
    ("runs_without_error", .bool s.ranWithoutError),
    ("threw_errors", .bool s.threwErrors),
    ("hung_up", .bool s.hungUp),
    ("error_type", .string s.diagnosis.label),
    ("error_message", .string s.message),
    ("error_counts", s.errorCounts.toJson)]

/-- The half that a document holds. -/
def ofJson? (j : Json) : Option ExitStatus := do
  let fs ← Json.structure? fieldNames j
  let nat32 := Json.nat? Decimal.max32
  some {
    key := ⟨← fs.required "endpoint_id" nat32, ← fs.required "run_number" nat32⟩
    status := ← fs.required "generation_status" (Json.named? GenerationStatus.ofName?)
    exitCode := ← fs.required "exit_code" (Json.int? Decimal.maxSigned32)
    timedOut := ← fs.required "timed_out" Json.bool?
    ranWithoutError := ← fs.optional "runs_without_error" false Json.bool?
    threwErrors := ← fs.optional "threw_errors" false Json.bool?
    hungUp := ← fs.optional "hung_up" false Json.bool?
    diagnosis := ← fs.required "error_type" (Json.named? Diagnosis.ofLabel?)
    message := ← fs.optional "error_message" "" Json.text?
    errorCounts := ← fs.optional "error_counts" ⟨0, 0, 0⟩ ErrorCounts.ofJson? }

end ExitStatus

end SuiteBench
