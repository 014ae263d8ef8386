import SuiteBench.Benchmark.Harness
import SuiteBench.CommandLine.Command
import SuiteBench.CommandLine.LogFiles
import SuiteBench.CommandLine.Printout
import SuiteBench.Settings.Basic
import SuiteBench.Yaml.Printer

/-!
# CommandLine.Application — requests carried out

A request is carried out in a world: the settings are loaded, the log files opened, and then the
command runs.  Whatever was printed before a command fails stays printed.
-/

namespace SuiteBench.CommandLine

/-- Where the program runs. -/
structure Site where
  cwd : Location
  vars : List (String × String)
  tool : Tool
  operator : Operator
  probe : Nat → Option (ResourceSample Float)

/-- How a command ends that does not fail. -/
inductive Completion where
  | done
  | interrupted
  deriving DecidableEq, Repr

/-- What a command leaves: its printout, and how it ended or why it failed. -/
structure Outcome where
  output : String
  ending : Except (List String) Completion

/-- What the program leaves when it ends. -/
structure Answer where
  exitCode : Nat
  output : String
  /-- The error that is shown, if there is one. -/
  error : Option String
  deriving DecidableEq, Repr

namespace Outcome

/-- A command that printed lines and is done. -/
def done (lines : List String) : Outcome := ⟨linesText lines, .ok .done⟩

/-- A command that failed after it printed lines. -/
def failed (chain : List String) (lines : List String) : Outcome := ⟨linesText lines, .error chain⟩

/-- What the program leaves after a command. -/
def answer (o : Outcome) : Answer :=
  match o.ending with
  | .ok .done => ⟨0, o.output, none⟩
  | .ok .interrupted => ⟨130, o.output, none⟩
  | .error chain => ⟨1, o.output, some (chainText chain)⟩

end Outcome

namespace Site

variable (site : Site)

/-- The value of a variable. -/
def variableOf (name : String) : Option String := site.vars.lookup name

/-- The file at a path. -/
def file? (t : Tree) (p : Path) : Option ByteArray :=
  match Programs.reach t site.cwd p with
  | .ok (_, .file content _) => some content
  | _ => none

/-! ### Settings and catalogs -/

/-- The settings of a file, or of the variables alone. -/
def settings (t : Tree) (file : Option Path) : Except (List String) Settings :=
  let e := Environment.standard site.vars
  match file with
  | none => (Settings.ofEnvironment e).mapError fun e =>
      "Failed to load configuration from environment" :: e.chain
  | some p =>
    let loaded (s : Except SettingsError Settings) : Except (List String) Settings :=
      s.mapError fun e => ("Failed to load configuration from " ++ p.text) :: e.chain
    match Programs.reach t site.cwd p with
    | .error _ => .error ["Configuration file not found: " ++ p.text]
    | .ok (_, .directory) => loaded (.error (.unreadable FileError.isADirectory.message))
    | .ok (_, .file content _) => loaded (Settings.ofFile content e)

/-- The catalog that the settings name. -/
def catalog (s : Settings) (t : Tree) : Except CatalogError Catalog :=
  let p := s.plan.catalogPath
  match site.file? t p with
  | none => .error (.missing p.text)
  | some content => Catalog.ofBytes content

/-- The settings of a benchmark with its catalog. -/
def benchmarkInputs (s : Settings) (o : RunOverrides) (t : Tree) :
    Except (List String) (Settings × Catalog) := do
  let s ← (o.apply s).mapError fun e =>
    "Invalid settings after applying command-line flags" :: e.chain
  let c ← (site.catalog s t).mapError fun e =>
    ("Failed to load endpoint catalog " ++ s.plan.catalogPath.text) :: e.chain
  return (s, c)

/-- The harness of some settings. -/
def harness (s : Settings) (c : Catalog) : Harness :=
  .ofSettings s site.cwd c (.ofSettings s.execution site.tool site.operator) site.probe

/-- The harness of a benchmark, if its endpoint and its programs are there. -/
def readyHarness (s : Settings) (o : RunOverrides) (endpoint : Option Nat) (t : Tree) :
    Except (List String) (Settings × Harness) := do
  let (s, c) ← site.benchmarkInputs s o t
  let _ ← (c.select endpoint).mapError fun e => [e.message]
  let h := site.harness s c
  (h.preflight site.cwd (site.variableOf "PATH") t).mapError HarnessError.chain
  return (s, h)

/-! ### Commands -/

/-- The plan of a benchmark. -/
def planOptions (s : Settings) (only : Option Nat) : PlanOptions where
  runsPerEndpoint := s.plan.runsPerEndpoint
  searchBudget := s.plan.searchBudget
  only := only
  skipExisting := s.plan.skipExisting
  runPause := s.plan.interRunPause * 1000
  endpointPause := s.plan.interEndpointPause * 1000

/-- Runs a benchmark. -/
def run (s : Settings) (o : RunOverrides) (w : World) : Outcome × World :=
  match site.readyHarness s o o.endpoint w.tree with
  | .error chain => (.failed chain [], w)
  | .ok (s, h) =>
    match h.run (planOptions s o.endpoint) (.start w) with
    | (.error e, x) => (.failed e.chain [], x.world)
    | (.ok b, x) =>
      (⟨linesText (benchmarkLines b h.results.path),
        .ok (if b.interrupted then .interrupted else .done)⟩, x.world)

/-- Runs the tool once for one endpoint. -/
def runOne (s : Settings) (endpoint run : Nat) (o : RunOverrides) (w : World) : Outcome × World :=
  match site.readyHarness s o (some endpoint) w.tree with
  | .error chain => (.failed chain [], w)
  | .ok (s, h) =>
    match h.runSingle endpoint run s.plan.searchBudget (.start w) with
    | (.error e, x) => (.failed e.chain [], x.world)
    | (.ok (some r), x) => (.done (recordLines r), x.world)
    | (.ok none, x) => (⟨linesText discardedLines, .ok .interrupted⟩, x.world)

/-- What the results directory holds. -/
def collected (s : Settings) (results : Option Path) (w : World) :
    Except (List String) CollectedResults × World :=
  let d := ResultsDir.ofPath site.cwd (results.getD s.plan.resultsDir)
  match Report.collect d w.tree with
  | .error e => (.error ("Failed to collect results" :: e.chain), w)
  | .ok c => (.ok c, w.warnAll (Report.collectWarnings d w.tree c))

/-- Puts the evaluations into the results table. -/
def mergeEvaluations (d : ResultsDir) (w : World) : Except ReportError Nat × World :=
  let table := d.path.join Layout.resultsTable
  match Report.mergeSteps d w.tree table (d.location ++ [Layout.resultsTable]) with
  | .error e => (.error e, w)
  | .ok (n, steps) =>
    match w.perform steps with
    | (w, some e) => (.error (.file e), w)
    | (w, none) => (.ok n, w)

/-- Writes the reports about what the results directory holds. -/
def report (s : Settings) (results : Option Path) (merge : Bool) (w : World) : Outcome × World :=
  match site.collected s results w with
  | (.error chain, w) => (.failed chain [], w)
  | (.ok c, w) =>
    let (catalog, w) := match site.catalog s w.tree with
      | .ok catalog => (some catalog, w)
      | .error e => (none, w.warn ("Reporting without endpoint details: " ++ e.message))
    let lines := reportLines s.report catalog c
    match w.perform (Report.reportSteps s.report catalog w.tree c) with
    | (w, some e) => (.failed (ReportError.file e).chain [], w)
    | (w, none) =>
      if !merge then (.done lines, w)
      else match mergeEvaluations c.dir w with
        | (.error e, w) => (.failed e.chain lines, w)
        | (.ok n, w) => (.done (lines ++ mergedLines n), w)

/-- Writes the aggregates of what the results directory holds. -/
def collect (s : Settings) (results : Option Path) (w : World) : Outcome × World :=
  match site.collected s results w with
  | (.error chain, w) => (.failed chain [], w)
  | (.ok c, w) =>
    match w.perform (Report.metricsSteps s.report w.tree c) with
    | (w, some e) => (.failed (ReportError.file e).chain [], w)
    | (w, none) => (.done (collectLines c), w)

/-- Says whether the settings of a file can be used. -/
def validate (p : Path) (w : World) : Outcome × World :=
  match site.settings w.tree (some p) with
  | .ok _ => (.done validLines, w)
  | .error chain =>
    let lines := invalidLines (chainText chain)
    (.failed chain lines, w.note .error (chainText chain))

/-- Writes the built-in settings to a file. -/
def generate (p : Path) (force : Bool) (w : World) : Outcome × World :=
  if (Programs.reach w.tree site.cwd p).isOk && !force then
    (.failed ["Output file already exists: " ++ p.text ++ ". Use --force to overwrite."] [], w)
  else
    let parents := match p.parent? with
      | some q => if q.text.isEmpty then [] else [Step.makeDirs (q.locate site.cwd)]
      | none => []
    match w.perform parents with
    | (w, some e) => (.failed ["Failed to create output directory", e.message] [], w)
    | (w, none) =>
      let write := Step.write (p.locate site.cwd) (Yaml.write Settings.builtIn.toJson).toUTF8
      let (w, fault) := if p.endsInDirectory then (w, some .isADirectory) else w.perform [write]
      match fault with
      | some e => (.failed ["Failed to write configuration file", e.message] [], w)
      | none => (.done (generatedLines p), w)

/-- Shows the settings in a format. -/
def showSettings (s : Settings) (format : String) : Outcome :=
  match Text.lower format with
  | "yaml" | "yml" => .done [Yaml.write s.toJson]
  | "json" => .done [s.toJson.pretty]
  | _ => .failed ["Unknown output format: " ++ format ++ ". Valid formats: yaml, json"] []

/-- Carries out a command under some settings. -/
def perform (s : Settings) (c : Option Command) (w : World) : Outcome × World :=
  match c with
  | none => (.done [grammar.help [programName]], w)
  | some (.run o) => site.run s o w
  | some (.runOne endpoint run budget output) =>
    site.runOne s endpoint run { RunOverrides.none with budget, output } w
  | some (.report results merge) => site.report s results merge w
  | some (.collect results) => site.collect s results w
  | some (.validate p) => site.validate p w
  | some (.generate p force) => site.generate p force w
  | some (.showSettings format) => (showSettings s format, w)

/-- Carries out a request. -/
def carryOut (r : Request) (w : World) : Outcome × World :=
  match site.settings w.tree r.config with
  | .error chain => (.failed chain [], w)
  | .ok s =>
    let filter := LogFilter.choose (r.logLevel.getD s.logging.level.name)
      (site.variableOf "RUST_LOG")
    match openLogs site.cwd s.logging.targets w with
    | (.error chain, w) => (.failed chain [], w)
    | (.ok files, w) =>
      let starting := programName ++ " " ++ programVersion ++ " starting"
      let (outcome, w) := site.perform s r.command (w.note .info starting)
      (outcome, closeLogs filter files w)

/-- Answers the words after the program's name. -/
def answer (words : List String) (w : World) : Answer × World :=
  match Request.ofWords words with
  | .error stop => (⟨stop.exitCode, stop.output, none⟩, w)
  | .ok r =>
    let (outcome, w) := site.carryOut r w
    (outcome.answer, w)

end Site

end SuiteBench.CommandLine
