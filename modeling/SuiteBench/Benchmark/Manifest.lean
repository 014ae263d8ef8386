import SuiteBench.Run.Halves

/-!
# Benchmark.Manifest — one benchmark, its running counts and its summary document

Every recorded run is counted once, as a success or under its diagnosis; skipped runs are counted
apart.  A `BenchmarkRun` gathers the records and the skipped keys of one invocation next to a tally; its
manifest is the document that later reports take the plan from.
-/

namespace SuiteBench

/-! ### Running counts -/

/-- Positive counts by diagnosis, in the order of the taxonomy. -/
abbrev DiagnosisCounts := List (Diagnosis × Nat)

namespace DiagnosisCounts

/-- The counts with `n` put down for `d`, replacing what stood there. -/
def put (d : Diagnosis) (n : Nat) : DiagnosisCounts → DiagnosisCounts
  | [] => [(d, n)]
  | (e, m) :: rest =>
    if d = e then (d, n) :: rest
    else if d.rank < e.rank then (d, n) :: (e, m) :: rest
    else (e, m) :: put d n rest

/-- The count of `d`. -/
def count (cs : DiagnosisCounts) (d : Diagnosis) : Nat := (cs.lookup d).getD 0

/-- The counts with one more for `d`. -/
def add (cs : DiagnosisCounts) (d : Diagnosis) : DiagnosisCounts := put d (cs.count d + 1) cs

/-- The document of the counts: an object with a field for each label. -/
def toJson (cs : DiagnosisCounts) : Json := .object (cs.map fun (d, n) => (d.label, .ofNat n))

/-- The counts that a document holds; of a repeated label the last count stands. -/
def ofJson? : Json → Option DiagnosisCounts
  | .object fs => fs.foldlM (fun acc (k, v) => do
      let d ← Diagnosis.ofLabel? k
      let n ← Json.nat? Decimal.max32 v
      some (put d n acc)) []
  | _ => none

end DiagnosisCounts

/-- Running counts over a benchmark. -/
structure RunTally where
  recorded : Nat
  successful : Nat
  failed : Nat
  timedOut : Nat
  skipped : Nat
  diagnoses : DiagnosisCounts
  deriving DecidableEq, Repr

namespace RunTally

/-- Nothing counted yet. -/
def empty : RunTally := ⟨0, 0, 0, 0, 0, []⟩

/-- The tally with one more record. -/
def observe (t : RunTally) (r : RunRecord) : RunTally :=
  { t with
    recorded := t.recorded + 1
    successful := t.successful + (if r.isSuccess then 1 else 0)
    failed := t.failed + (if r.isSuccess then 0 else 1)
    diagnoses := if r.isSuccess then t.diagnoses else t.diagnoses.add r.diagnosis
    timedOut := t.timedOut + (if r.timedOut then 1 else 0) }

/-- The tally with one more skipped run. -/
def skip (t : RunTally) : RunTally := { t with skipped := t.skipped + 1 }

/-- The document of a tally. -/
def toJson (t : RunTally) : Json :=
  .object [("recorded", .ofNat t.recorded), ("successful", .ofNat t.successful),
    ("failed", .ofNat t.failed), ("timed_out", .ofNat t.timedOut), ("skipped", .ofNat t.skipped),
    ("error_types", t.diagnoses.toJson)]

/-- The tally that a document holds. -/
def ofJson? (j : Json) : Option RunTally := do
  let fs ← Json.structure?
    ["recorded", "successful", "failed", "timed_out", "skipped", "error_types"] j
  let nat32 := Json.nat? Decimal.max32
  some ⟨← fs.required "recorded" nat32, ← fs.required "successful" nat32,
    ← fs.required "failed" nat32, ← fs.required "timed_out" nat32, ← fs.required "skipped" nat32,
    ← fs.required "error_types" DiagnosisCounts.ofJson?⟩

end RunTally

/-! ### Benchmarks -/

/-- One benchmark invocation and every record it produced. -/
structure BenchmarkRun where
  endpointIds : List Nat
  runsPerEndpoint : Nat
  searchBudget : Nat
  startedAt : Moment
  finishedAt : Option Moment
  records : List RunRecord
  skipped : List RunKey
  interrupted : Bool
  tally : RunTally

/-- The summary document of a benchmark. -/
structure Manifest where
  id : String
  endpointIds : List Nat
  runsPerEndpoint : Nat
  searchBudget : Nat
  startedAt : Moment
  finishedAt : Option Moment
  recordedRuns : Nat
  skippedRuns : List RunKey
  interrupted : Bool
  tally : RunTally
  deriving DecidableEq, Repr

namespace BenchmarkRun

/-- A benchmark with nothing recorded yet. -/
def new (endpointIds : List Nat) (runs budget : Nat) (startedAt : Moment) : BenchmarkRun :=
  ⟨endpointIds, runs, budget, startedAt, none, [], [], false, .empty⟩

/-- The name of a benchmark, taken from the time of its start. -/
def id (b : BenchmarkRun) : String := "benchmark_" ++ b.startedAt.stamp

/-- The benchmark with one more record. -/
def pushRecord (b : BenchmarkRun) (r : RunRecord) : BenchmarkRun :=
  { b with records := b.records ++ [r], tally := b.tally.observe r }

/-- The benchmark with one more skipped run. -/
def markSkipped (b : BenchmarkRun) (k : RunKey) : BenchmarkRun :=
  { b with skipped := b.skipped ++ [k], tally := b.tally.skip }

/-- The benchmark, stopped before its plan was done. -/
def interrupt (b : BenchmarkRun) : BenchmarkRun := { b with interrupted := true }

/-- The benchmark, ended at `t`. -/
def finish (b : BenchmarkRun) (t : Moment) : BenchmarkRun := { b with finishedAt := some t }

/-- How many records a finished benchmark holds. -/
def expectedRecords (b : BenchmarkRun) : Nat :=
  b.endpointIds.length * b.runsPerEndpoint - b.skipped.length

/-- Whether the plan is done. -/
def isComplete (b : BenchmarkRun) : Bool :=
  !b.interrupted && b.records.length == b.expectedRecords

/-- The summary of a benchmark. -/
def manifest (b : BenchmarkRun) : Manifest :=
  { id := b.id, endpointIds := b.endpointIds, runsPerEndpoint := b.runsPerEndpoint
    searchBudget := b.searchBudget, startedAt := b.startedAt, finishedAt := b.finishedAt
    recordedRuns := b.records.length, skippedRuns := b.skipped, interrupted := b.interrupted
    tally := b.tally }

end BenchmarkRun

namespace RunKey

/-- The document of a key. -/
def toJson (k : RunKey) : Json :=
  .object [("endpoint_id", .ofNat k.endpoint), ("run_number", .ofNat k.run)]

/-- The key that a document holds. -/
def ofJson? (j : Json) : Option RunKey := do
  let fs ← Json.structure? ["endpoint_id", "run_number"] j
  some ⟨← fs.required "endpoint_id" (Json.nat? Decimal.max32),
    ← fs.required "run_number" (Json.nat? Decimal.max32)⟩

end RunKey

namespace Manifest

/-- The document of a manifest. -/
def toJson (m : Manifest) : Json :=
  .object [
    ("id", .string m.id),
    ("endpoint_ids", .array (m.endpointIds.map .ofNat)),
    ("runs_per_endpoint", .ofNat m.runsPerEndpoint),
    ("search_budget_seconds", .ofNat m.searchBudget),
    ("started_at", .string m.startedAt.text),
    ("finished_at", Json.ofOption (fun t => .string t.text) m.finishedAt),
    ("recorded_runs", .ofNat m.recordedRuns),
    ("skipped_runs", .array (m.skippedRuns.map RunKey.toJson)),
    ("interrupted", .bool m.interrupted),
    ("tally", m.tally.toJson)]

/-- The manifest that a document holds; a missing end means that there is none. -/
def ofJson? (j : Json) : Option Manifest := do
  let fs ← Json.structure?
    ["id", "endpoint_ids", "runs_per_endpoint", "search_budget_seconds", "started_at",
      "finished_at", "recorded_runs", "skipped_runs", "interrupted", "tally"] j
  some {
    id := ← fs.required "id" Json.text?
    endpointIds := ← fs.required "endpoint_ids" (Json.list? (Json.nat? Decimal.max32))
    runsPerEndpoint := ← fs.required "runs_per_endpoint" (Json.nat? Decimal.max32)
    searchBudget := ← fs.required "search_budget_seconds" (Json.nat? Decimal.max64)
    startedAt := ← fs.required "started_at" Moment.ofJson?
    finishedAt := ← fs.optional "finished_at" none (Json.nullable? Moment.ofJson?)
    recordedRuns := ← fs.required "recorded_runs" (Json.nat? Decimal.max64)
    skippedRuns := ← fs.required "skipped_runs" (Json.list? RunKey.ofJson?)
    interrupted := ← fs.required "interrupted" Json.bool?
    tally := ← fs.required "tally" RunTally.ofJson? }

end Manifest

end SuiteBench
