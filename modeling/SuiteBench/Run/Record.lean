import SuiteBench.Run.Diagnosis
import SuiteBench.Moment

/-!
# Run.Record — everything kept about one run

A record is written once, when its run has ended.  A run either ran without error, threw errors or
hung up, by its exit code and by whether the deadline killed it.
-/

namespace SuiteBench

/-- The identity of a run: an endpoint and an iteration. -/
structure RunKey where
  endpoint : Nat
  run : Nat
  deriving DecidableEq, Repr

/-- The key as messages show it. -/
def RunKey.text (k : RunKey) : String :=
  "endpoint " ++ Decimal.ofNat k.endpoint ++ " run " ++ Decimal.ofNat k.run

/-- The figures of the resource monitor. -/
structure ResourceSummary where
  /-- Mean CPU percentage over the busy samples. -/
  cpuAverage : Float
  /-- Peak memory in megabytes. -/
  memoryPeak : Float
  samples : Nat

/-- No sample at all. -/
def ResourceSummary.empty : ResourceSummary := ⟨0.0, 0.0, 0⟩

/-- Counts taken from the generated tests. -/
structure ArtifactCounts where
  tests : Nat
  methods : Nat
  assertions : Nat
  deriving DecidableEq, Repr

/-- Coverage as the tool reports it; each figure may be missing. -/
structure CoverageFigures where
  coverage : Option Float
  totalGoals : Option Nat
  coveredGoals : Option Nat

/-- No figure at all. -/
def CoverageFigures.unavailable : CoverageFigures := ⟨none, none, none⟩

/-- Whether any figure is there. -/
def CoverageFigures.isAvailable (c : CoverageFigures) : Bool :=
  c.coverage.isSome || c.totalGoals.isSome || c.coveredGoals.isSome

/-- Counts of diagnostic lines in a log. -/
structure ErrorCounts where
  total : Nat
  missingPackages : Nat
  missingSymbols : Nat
  deriving DecidableEq, Repr

/-- Everything kept about one run. -/
structure RunRecord where
  key : RunKey
  startedAt : Moment
  finishedAt : Moment
  durationSeconds : Float
  searchBudget : Nat
  exitCode : Int
  timedOut : Bool
  status : GenerationStatus
  diagnosis : Diagnosis
  message : String
  errorCounts : ErrorCounts
  resources : ResourceSummary
  artifacts : ArtifactCounts
  coverage : CoverageFigures

namespace RunRecord

/-- The longest message a stored record keeps. -/
def maxMessage : Nat := 500

/-- Whether the tool reported success. -/
def isSuccess (r : RunRecord) : Bool := r.status == .success

/-- The tool ended by itself with exit code zero. -/
def ranWithoutError (r : RunRecord) : Bool := r.exitCode == 0 && !r.timedOut

/-- The tool ended by itself with another exit code. -/
def threwErrors (r : RunRecord) : Bool := r.exitCode != 0 && !r.timedOut

/-- The tool had to be killed at the deadline. -/
def hungUp (r : RunRecord) : Bool := r.timedOut

end RunRecord

end SuiteBench
