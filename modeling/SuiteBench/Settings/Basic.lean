import SuiteBench.Decimal.Natural
import SuiteBench.Json.Value
import SuiteBench.Settings.Logging
import SuiteBench.Store.Path

/-!
# Settings.Basic — the settings of the harness

The settings come in six domains.  Each field has a built-in value; times are whole seconds.  The
document of the settings has a field for each, in the order of the domains.
-/

namespace SuiteBench

/-- What to run, how often, and where results go. -/
structure PlanSettings where
  catalogPath : Path
  resultsDir : Path
  runsPerEndpoint : Nat
  searchBudget : Nat
  interRunPause : Nat
  interEndpointPause : Nat
  /-- Whether runs that already have a record are kept. -/
  skipExisting : Bool
  deriving DecidableEq, Repr

/-- The command of the external tool; every text may hold fields to fill in. -/
structure ToolCommand where
  program : String
  args : List String
  /-- Variables by name, in the order of the names. -/
  env : List (String × String)
  workingDir : Option Path
  /-- The command run after a kill at the deadline. -/
  cleanup : List String
  deriving DecidableEq, Repr

/-- How a run of the tool is launched and bounded. -/
structure ExecutionSettings where
  tool : ToolCommand
  deadlineMultiplier : Nat
  /-- The exit code recorded for runs killed at the deadline. -/
  timeoutExitCode : Int
  killGracePeriod : Nat
  logFileName : String
  requiredBinaries : List String
  deriving DecidableEq, Repr

/-- Whether and how often resources are sampled. -/
structure MonitorSettings where
  enabled : Bool
  pollInterval : Nat
  deriving DecidableEq, Repr

/-- The longest message kept of a failed run. -/
structure ClassifierSettings where
  maxMessage : Nat
  deriving DecidableEq, Repr

/-- What reports contain. -/
structure ReportSettings where
  /-- Notes about known limits of the tool, shown in the summary. -/
  caveats : List String
  detailedCsv : Bool
  endpointTextSummary : Bool
  deriving DecidableEq, Repr

/-- The settings of the harness. -/
structure Settings where
  plan : PlanSettings
  execution : ExecutionSettings
  monitor : MonitorSettings
  classifier : ClassifierSettings
  report : ReportSettings
  logging : LogSettings
  deriving DecidableEq, Repr

/-! ### Built-in values -/

/-- The built-in plan. -/
def PlanSettings.builtIn : PlanSettings :=
  ⟨⟨"config/endpoints.csv"⟩, ⟨"results"⟩, 5, 60, 5, 10, false⟩

/-- The built-in command. -/
def ToolCommand.builtIn : ToolCommand where
  program := "docker"
  args := ["run", "--rm", "--name", "genbench-\x7bendpoint_id\x7d-\x7brun_number\x7d", "-v",
    "\x7boutput_dir\x7d:/results", "evosuite-runner:latest", "-class", "\x7bcontroller_class\x7d",
    "-Dsearch_budget=\x7bsearch_budget\x7d", "-Dtest_dir=/results/generated-tests",
    "-Dreport_dir=/results/evosuite-report"]
  env := []
  workingDir := none
  cleanup := ["docker", "rm", "-f", "genbench-\x7bendpoint_id\x7d-\x7brun_number\x7d"]

/-- The built-in bounds of a run. -/
def ExecutionSettings.builtIn : ExecutionSettings :=
  ⟨.builtIn, 3, 124, 5, "evosuite-output.log", []⟩

/-- The built-in sampling. -/
def MonitorSettings.builtIn : MonitorSettings := ⟨true, 5⟩

/-- The highest limit on messages, which is also the built-in one. -/
def ClassifierSettings.highest : Nat := 500

/-- The built-in limit on messages. -/
def ClassifierSettings.builtIn : ClassifierSettings := ⟨highest⟩

/-- The built-in notes. -/
def ReportSettings.builtInCaveats : List String := [
  "EvoSuite runs the generated code in a separate client JVM and passes values over RMI; " ++
    "endpoints whose signatures use Spring web types such as HttpEntity or ResponseEntity " ++
    "commonly fail with RMI_SERIALIZATION regardless of the endpoint's own behaviour.",
  "Coverage is only available when the tool writes its statistics report; " ++
    "N/A marks runs where it did not."]

/-- The built-in reports. -/
def ReportSettings.builtIn : ReportSettings := ⟨builtInCaveats, true, true⟩

/-- The built-in log: lines of level `info` and above on the console. -/
def LogSettings.builtIn : LogSettings := ⟨.info, .text, [.console none], false⟩

/-- The built-in settings. -/
def Settings.builtIn : Settings := ⟨.builtIn, .builtIn, .builtIn, .builtIn, .builtIn, .builtIn⟩

namespace ExecutionSettings

/-- The programs that have to be there before a benchmark starts. -/
def binariesToCheck (e : ExecutionSettings) : List String :=
  if e.requiredBinaries.isEmpty then [e.tool.program] else e.requiredBinaries

/-- The deadline of a run with a search budget, in seconds. -/
def deadlineFor (e : ExecutionSettings) (budget : Nat) : Nat :=
  min (budget * e.deadlineMultiplier) Decimal.max64

end ExecutionSettings

/-! ### Documents -/

/-- The document of the plan. -/
def PlanSettings.toJson (p : PlanSettings) : Json :=
  .object [
    ("catalog_path", .string p.catalogPath.text),
    ("results_dir", .string p.resultsDir.text),
    ("runs_per_endpoint", .ofNat p.runsPerEndpoint),
    ("search_budget_seconds", .ofNat p.searchBudget),
    ("inter_run_pause", .ofNat p.interRunPause),
    ("inter_endpoint_pause", .ofNat p.interEndpointPause),
    ("skip_existing", .bool p.skipExisting)]

/-- The document of the command; a missing working directory is left out. -/
def ToolCommand.toJson (t : ToolCommand) : Json :=
  .object ([
    ("program", .string t.program),
    ("args", .ofTexts t.args),
    ("env", .object (t.env.map fun (k, v) => (k, .string v)))] ++
    (match t.workingDir with
      | some p => [("working_dir", .string p.text)]
      | none => []) ++
    [("cleanup", .ofTexts t.cleanup)])

/-- The document of the bounds of a run. -/
def ExecutionSettings.toJson (e : ExecutionSettings) : Json :=
  .object [
    ("tool", e.tool.toJson),
    ("deadline_multiplier", .ofNat e.deadlineMultiplier),
    ("timeout_exit_code", .ofInt e.timeoutExitCode),
    ("kill_grace_period", .ofNat e.killGracePeriod),
    ("log_file_name", .string e.logFileName),
    ("required_binaries", .ofTexts e.requiredBinaries)]

/-- The document of a log target. -/
def LogTarget.toJson : LogTarget → Json
  | console level =>
    .object [("type", .string "console"), ("level", levelJson level)]
  | file path level rotation =>
    .object [("type", .string "file"), ("path", .string path), ("level", levelJson level),
      ("rotation", .string rotation.name)]
where
  levelJson (level : Option LogLevel) : Json := Json.ofOption (fun l => .string l.name) level

/-- The document of the log. -/
def LogSettings.toJson (l : LogSettings) : Json :=
  .object [
    ("level", .string l.level.name),
    ("format", .string l.format.name),
    ("targets", .array (l.targets.map LogTarget.toJson)),
    ("include_location", .bool l.includeLocation)]

/-- The document of the settings. -/
def Settings.toJson (s : Settings) : Json :=
  .object [
    ("benchmark", s.plan.toJson),
    ("execution", s.execution.toJson),
    ("monitor", .object [("enabled", .bool s.monitor.enabled),
      ("poll_interval", .ofNat s.monitor.pollInterval)]),
    ("classifier", .object [("max_message_chars", .ofNat s.classifier.maxMessage)]),
    ("report", .object [("caveats", .ofTexts s.report.caveats),
      ("detailed_csv", .bool s.report.detailedCsv),
      ("endpoint_text_summary", .bool s.report.endpointTextSummary)]),
    ("logging", s.logging.toJson)]

end SuiteBench
