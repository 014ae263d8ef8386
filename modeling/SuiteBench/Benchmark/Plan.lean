import SuiteBench.Benchmark.Manifest
import SuiteBench.Endpoint.Catalog

/-!
# Benchmark.Plan — which runs are done, and in which order

A plan runs every endpoint a number of times, one run strictly after another.  Following a plan
needs only five operations of its surroundings; what was settled is kept in the order in which it
happened, and it is always a front part of the plan's keys.
-/

namespace SuiteBench

/-- What is asked of a benchmark; pauses are in milliseconds. -/
structure PlanOptions where
  runsPerEndpoint : Nat
  searchBudget : Nat
  /-- The only endpoint to run, if not all are. -/
  only : Option Nat
  /-- Whether runs that already have a record are kept. -/
  skipExisting : Bool
  runPause : Nat
  endpointPause : Nat
  deriving DecidableEq, Repr

/-- The endpoints of a benchmark with the options for each. -/
structure Plan where
  options : PlanOptions
  endpoints : List Endpoint

/-- A run that a benchmark is done with. -/
inductive Settled where
  | recorded (r : RunRecord)
  /-- The run had a record already. -/
  | skipped (k : RunKey)

/-- The run that is settled. -/
def Settled.key : Settled → RunKey
  | recorded r => r.key
  | skipped k => k

/-- How following a plan ended. -/
inductive PlanEnding (ε : Type) where
  | finished
  | interrupted
  | failed (e : ε)

/-- A stretch of a plan that was followed. -/
structure Course (σ ε : Type) where
  state : σ
  /-- What was settled, in order. -/
  settled : List Settled
  ending : PlanEnding ε

/-- What a plan needs of its surroundings. -/
structure Surroundings (σ ε : Type) where
  /-- Whether the benchmark is to stop. -/
  stopped : σ → Bool
  /-- Lets milliseconds pass. -/
  wait : Nat → σ → σ
  /-- Whether a run has a record that can be read. -/
  hasRecord : RunKey → σ → Bool
  /-- Attempts a run; there is no record if the attempt was interrupted. -/
  attempt : Endpoint → Nat → σ → Except ε (Option RunRecord) × σ
  /-- Does what is due once all runs of an endpoint are settled. -/
  complete : Endpoint → σ → Except ε Unit × σ

namespace Course

variable {σ ε : Type}

/-- Nothing settled, and no reason to stop. -/
def start (s : σ) : Course σ ε := ⟨s, [], .finished⟩

/-- A course followed by another, unless it ended early. -/
def andThen (c : Course σ ε) (next : σ → Course σ ε) : Course σ ε :=
  match c.ending with
  | .finished =>
    let d := next c.state
    { d with settled := c.settled ++ d.settled }
  | _ => c

end Course

namespace Plan

variable {σ ε : Type} (x : Surroundings σ ε) (p : Plan)

/-- The endpoints that the options ask for. -/
def ofCatalog (c : Catalog) (o : PlanOptions) : Except InvalidEndpoint Plan :=
  (c.select o.only).map fun es => ⟨o, es⟩

/-- The keys of an endpoint's runs. -/
def endpointKeys (e : Endpoint) : List RunKey :=
  (List.range p.options.runsPerEndpoint).map fun i => ⟨e.id, i + 1⟩

/-- The keys of all planned runs, in their order. -/
def keys : List RunKey := p.endpoints.flatMap p.endpointKeys

/-- Lets time pass; a signal that has come by then ends the course. -/
def pause (ms : Nat) (s : σ) : Course σ ε :=
  let s := x.wait ms s
  ⟨s, [], if x.stopped s then .interrupted else .finished⟩

/-- Settles one run. -/
def settle (e : Endpoint) (n : Nat) (s : σ) : Course σ ε :=
  if x.stopped s then ⟨s, [], .interrupted⟩
  else if p.options.skipExisting && x.hasRecord ⟨e.id, n⟩ s then
    ⟨s, [.skipped ⟨e.id, n⟩], .finished⟩
  else match x.attempt e n s with
    | (.ok (some r), s) => ⟨s, [.recorded r], .finished⟩
    | (.ok none, s) => ⟨s, [], .interrupted⟩
    | (.error e, s) => ⟨s, [], .failed e⟩

/-- Settles some runs of an endpoint from number `n` on, with a pause before each but the first. -/
def settleRuns (e : Endpoint) : (left n : Nat) → σ → Course σ ε
  | 0, _, s => .start s
  | left + 1, n, s =>
    ((if 1 < n then pause x p.options.runPause s else .start s).andThen (settle x p e n)).andThen
      (settleRuns e left (n + 1))

/-- Ends the work on an endpoint. -/
def close (e : Endpoint) (s : σ) : Course σ ε :=
  match x.complete e s with
  | (.ok (), s) => .start s
  | (.error e, s) => ⟨s, [], .failed e⟩

/-- Settles every run of an endpoint. -/
def settleEndpoint (e : Endpoint) (s : σ) : Course σ ε :=
  (settleRuns x p e p.options.runsPerEndpoint 1 s).andThen (close x e)

/-- Settles some endpoints, with a pause before each but the first. -/
def settleEndpoints : (first : Bool) → List Endpoint → σ → Course σ ε
  | _, [], s => .start s
  | first, e :: rest, s =>
    ((if first then .start s else pause x p.options.endpointPause s).andThen
      (settleEndpoint x p e)).andThen (settleEndpoints false rest)

/-- Follows the plan from its start. -/
def follow (s : σ) : Course σ ε := settleEndpoints x p true p.endpoints s

/-- The benchmark before anything is settled. -/
def benchmark (now : Moment) : BenchmarkRun :=
  .new (p.endpoints.map (·.id)) p.options.runsPerEndpoint p.options.searchBudget now

end Plan

namespace BenchmarkRun

/-- The benchmark with one more run settled. -/
def settle (b : BenchmarkRun) : Settled → BenchmarkRun
  | .recorded r => b.pushRecord r
  | .skipped k => b.markSkipped k

/-- The benchmark after a course. -/
def after {σ ε : Type} (b : BenchmarkRun) (c : Course σ ε) : BenchmarkRun :=
  let b := c.settled.foldl settle b
  match c.ending with
  | .interrupted => b.interrupt
  | _ => b

end BenchmarkRun

end SuiteBench
