import SuiteBench.Benchmark.Causes
import SuiteBench.Benchmark.Plan
import SuiteBench.Execution.Monitor
import SuiteBench.Execution.Programs
import SuiteBench.Log.Classifier
import SuiteBench.Report.Outputs
import SuiteBench.Store.Claims
import SuiteBench.Suite.Coverage

/-!
# Benchmark.Harness — attempts and benchmarks

An attempt claims a run, clears what an earlier attempt left, runs the tool, and records what it
finds or discards the run after an interrupt.  A benchmark follows a plan of attempts, then writes
its manifest and, unless it was interrupted, the reports.
-/

namespace SuiteBench

/-- Why the harness gives up. -/
inductive HarnessError where
  | endpoint (cause : InvalidEndpoint)
  | runZero
  | dependency (program : String)
  /-- The results directory cannot be made; a benchmark names it. -/
  | results (dir : Option Path) (cause : FileError)
  | clear (dir : Path) (cause : FileError)
  | store (cause : StoreError)
  | execution (key : RunKey) (cause : ExecutionError)
  | log (cause : FileError)
  | report (cause : ReportError)
  | manifest (path : Path) (cause : FileError)
  deriving DecidableEq, Repr

/-- The messages of a `HarnessError` and its causes. -/
def HarnessError.chain : HarnessError → List String
  | .endpoint e => [e.message]
  | .runZero => ["Run numbers start at 1"]
  | .dependency p => "Dependency check failed" :: (ExecutionError.missingDependency p).chain
  | .results none e => [e.message]
  | .results (some dir) e => ["Cannot create " ++ dir.text, e.message]
  | .clear dir e => ["Cannot clear " ++ dir.text, e.message]
  | .store e => e.chain
  | .execution k e => ("Executing " ++ k.text) :: e.chain
  | .log e => "Reading run log" :: (ExecutionError.file e).chain
  | .report e => e.chain
  | .manifest p e => ("Writing " ++ p.text) :: (StoreError.file e).chain

/-- The world of a benchmark and the runs that it holds claims on. -/
structure Session where
  world : World
  claims : Claims

/-- A session in which nothing is claimed. -/
def Session.start (w : World) : Session := ⟨w, .none⟩

/-- What runs benchmarks. -/
structure Harness where
  results : ResultsDir
  catalog : Catalog
  executor : Executor
  classifier : Log.Classifier
  monitoring : Bool
  /-- Milliseconds between two samples of the monitor. -/
  sampleInterval : Nat
  /-- The readings of CPU and memory during a run. -/
  probe : Nat → Option (ResourceSample Float)
  reports : ReportSettings

namespace Harness

variable (h : Harness)

/-- The harness of some settings, working in the directory `cwd`. -/
def ofSettings (s : Settings) (cwd : Location) (catalog : Catalog) (executor : Executor)
    (probe : Nat → Option (ResourceSample Float)) : Harness where
  results := .ofPath cwd s.plan.resultsDir
  catalog := catalog
  executor := executor
  classifier := .builtIn s.classifier.maxMessage
  monitoring := s.monitor.enabled
  sampleInterval := s.monitor.pollInterval * 1000
  probe := probe
  reports := s.report

/-- Fails if a program that is needed is not there. -/
def preflight (cwd : Location) (searchPath : Option String) (t : Tree) :
    Except HarnessError Unit :=
  match Programs.missing? t cwd searchPath h.executor.settings.binariesToCheck with
  | none => .ok ()
  | some p => .error (.dependency p)

/-! ### One attempt -/

/-- The samples of a run that lasted some milliseconds. -/
def samples (ms : Nat) : List (ResourceSample Float) :=
  if h.monitoring then (Monitor.stopped h.probe h.sampleInterval ms).samples else []

/-- The log of an execution as text. -/
def logText (t : Tree) (x : Execution) : Except HarnessError String :=
  match t.read (x.logPath.locate []) with
  | .ok bytes => .ok (Text.Utf8.lossy bytes)
  | .error e => .error (.log e)

/-- The record of an execution with this log and these samples. -/
def recordOf (t : Tree) (x : Execution) (log : String) (samples : List (ResourceSample Float)) :
    RunRecord :=
  let c := h.classifier.classify x.exitCode x.timedOut log
  { key := x.key
    startedAt := x.startedAt
    finishedAt := x.finishedAt
    durationSeconds := x.durationSeconds
    searchBudget := x.searchBudget
    exitCode := x.exitCode
    timedOut := x.timedOut
    status := .ofExitCode x.exitCode
    diagnosis := c.diagnosis
    message := c.message
    errorCounts := c.counts
    resources := .of samples
    artifacts := (SuiteAnalysis.ofDirectory t (x.runDir ++ [Layout.generatedTests])).counts
    coverage := .ofReport t (x.runDir ++ [Layout.toolReport]) log }

/-- The warnings about a record. -/
def recordWarnings (r : RunRecord) (log : String) : List String :=
  if (Log.progress log).compilationErrors && r.ranWithoutError then
    ["Tool exited cleanly but its log reports compilation errors"]
  else []

/-- Removes what stands in the directory of a run. -/
def discard (k : RunKey) (w : World) : World × Option FileError :=
  w.perform (Store.discardSteps h.results w.tree k)

/-- Saves the record of an execution. -/
def record (x : Execution) (samples : List (ResourceSample Float)) (w : World) :
    Except HarnessError (Option RunRecord) × World :=
  match logText w.tree x with
  | .error e => (.error e, w)
  | .ok log =>
    let r := h.recordOf w.tree x log samples
    match Claims.save x.key h.results w.tree r with
    | (t, some e) => (.error (.store e), { w with tree := t })
    | (t, none) => (.ok (some r), ({ w with tree := t } : World).warnAll (recordWarnings r log))

/-- Attempts a run whose directory is clear. -/
def attemptClear (e : Endpoint) (run budget : Nat) (w : World) :
    Except HarnessError (Option RunRecord) × World :=
  let k : RunKey := ⟨e.id, run⟩
  match h.executor.execute e run budget (h.results.runLocation k) w with
  | (.error (.cancelled _), w) =>
    match h.discard k (w.warn (k.text ++ " cancelled; discarding partial output")) with
    | (w, some e) => (.error (.store (.file e)), w)
    | (w, none) => (.ok none, w)
  | (.error e, w) => (.error (.execution k e), w)
  | (.ok x, w') => h.record x (h.samples (w.now.millisecondsTo w'.now)) w'

/-- Attempts a run that is claimed. -/
def attemptClaimed (e : Endpoint) (run budget : Nat) (w : World) :
    Except HarnessError (Option RunRecord) × World :=
  let k : RunKey := ⟨e.id, run⟩
  match h.discard k w with
  | (w, some e) => (.error (.clear (h.results.runDir k) e), w)
  | (w, none) => h.attemptClear e run budget w

/-- Attempts a run; nothing comes of an attempt that is interrupted. -/
def attempt (e : Endpoint) (run budget : Nat) (s : Session) :
    Except HarnessError (Option RunRecord) × Session :=
  let k : RunKey := ⟨e.id, run⟩
  match s.claims.claim k.text k with
  | .error e => (.error (.store e), s)
  | .ok claims =>
    let (outcome, w) := h.attemptClaimed e run budget s.world
    (outcome, ⟨w, claims.drop k.text⟩)

/-- Makes the results directory. -/
def openResults (s : Session) (named : Bool) : Except HarnessError Unit × Session :=
  match s.world.perform [.makeDirs h.results.location] with
  | (w, none) => (.ok (), { s with world := w })
  | (w, some e) =>
    (.error (.results (if named then some h.results.path else none) e), { s with world := w })

/-- Attempts one run apart from any benchmark. -/
def runSingle (endpoint run budget : Nat) (s : Session) :
    Except HarnessError (Option RunRecord) × Session :=
  match h.catalog.lookup endpoint with
  | .error e => (.error (.endpoint e), s)
  | .ok e =>
    if run = 0 then (.error .runZero, s)
    else match h.openResults s false with
      | (.error e, s) => (.error e, s)
      | (.ok (), s) => h.attempt e run budget s

/-! ### A benchmark -/

/-- The results of one endpoint with its planned number of runs. -/
def endpointResults (endpoint runs : Nat) (t : Tree) : Except StoreError EndpointResults :=
  (Store.loadEndpoint h.results t endpoint).map fun rs => ⟨endpoint, some runs, rs, []⟩

/-- Writes the files of an endpoint whose runs are settled. -/
def aggregate (endpoint runs : Nat) (w : World) : Except HarnessError Unit × World :=
  match h.endpointResults endpoint runs w.tree with
  | .error e => (.error (.store e), w)
  | .ok results =>
    let w := w.warnAll ((Store.unreadable h.results w.tree endpoint).map fun (k, e) =>
      "Ignoring unreadable record for " ++ k.text ++ ": " ++ e.message)
    let c : CollectedResults := ⟨h.results, none, [results]⟩
    match w.perform (Report.endpointSteps h.reports w.tree c results) with
    | (w, none) => (.ok (), w)
    | (w, some e) => (.error (.report (.file e)), w)

/-- What a plan needs of its surroundings. -/
def surroundings (o : PlanOptions) : Surroundings Session HarnessError where
  stopped s := s.world.shutdown.isShuttingDown
  wait ms s := { s with world := h.executor.operator.wait ms s.world }
  hasRecord k s := Store.hasRecord h.results s.world.tree k
  attempt e n s := h.attempt e n o.searchBudget s
  complete e s :=
    let (outcome, w) := h.aggregate e.id o.runsPerEndpoint s.world
    (outcome, { s with world := w })

/-- The path of the manifest. -/
def manifestPath : Path := h.results.path.join Layout.manifest

/-- The steps that write the manifest of a benchmark. -/
def manifestSteps (b : BenchmarkRun) : List Step :=
  Step.replace (h.results.location ++ [Layout.manifest]) b.manifest.toJson.fileText

/-- Writes the reports about everything in the results directory. -/
def report (w : World) : Except HarnessError Unit × World :=
  match Report.collect h.results w.tree with
  | .error e => (.error (.report e), w)
  | .ok c =>
    let w := w.warnAll (Report.collectWarnings h.results w.tree c)
    match w.perform (Report.reportSteps h.reports (some h.catalog) w.tree c) with
    | (w, none) => (.ok (), w)
    | (w, some e) => (.error (.report (.file e)), w)

/-- Ends a benchmark: its manifest, and its reports unless it was interrupted. -/
def conclude (b : BenchmarkRun) (w : World) : Except HarnessError BenchmarkRun × World :=
  let b := b.finish w.now
  match w.perform (h.manifestSteps b) with
  | (w, some e) => (.error (.manifest h.manifestPath e), w)
  | (w, none) =>
    if b.interrupted then
      (.ok b, w.warn "Benchmark interrupted; reports not regenerated")
    else
      let (outcome, w) := h.report w
      (outcome.map fun _ => b, w)

/-- Ends a benchmark that began at some moment and whose plan was followed. -/
def endCourse (p : Plan) (began : Moment) (c : Course Session HarnessError) :
    Except HarnessError BenchmarkRun × Session :=
  match c.ending with
  | .failed e => (.error e, c.state)
  | _ =>
    let (outcome, w) := h.conclude ((p.benchmark began).after c) c.state.world
    (outcome, { c.state with world := w })

/-- Runs a benchmark whose plan is followed in some way. -/
def runBy (follow : Plan → Session → Course Session HarnessError) (o : PlanOptions) (s : Session) :
    Except HarnessError BenchmarkRun × Session :=
  match Plan.ofCatalog h.catalog o with
  | .error e => (.error (.endpoint e), s)
  | .ok p =>
    match h.openResults s true with
    | (.error e, s) => (.error e, s)
    | (.ok (), s) => h.endCourse p s.world.now (follow p s)

/-- Runs a benchmark. -/
def run (o : PlanOptions) (s : Session) : Except HarnessError BenchmarkRun × Session :=
  h.runBy (fun p => p.follow (h.surroundings p.options)) o s

end Harness

end SuiteBench
