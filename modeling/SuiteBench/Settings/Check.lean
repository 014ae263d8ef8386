import SuiteBench.Execution.Invocation
import SuiteBench.Settings.Basic

/-!
# Settings.Check — settings that can be used

The domains are checked in order and the first fault is reported.
-/

namespace SuiteBench

/-- Why settings cannot be used. -/
inductive SettingsError where
  /-- The file cannot be read as text. -/
  | unreadable (cause : String)
  /-- The text does not describe settings. -/
  | malformed
  | variable (what : String)
  | domain (name what : String)
  deriving DecidableEq, Repr

/-- A domain refuses a setting for which a condition does not hold. -/
def SettingsError.demand (holds : Bool) (domain what : String) : Except SettingsError Unit :=
  if holds then .ok () else .error (.domain domain what)

open SettingsError

/-- The fault of a text that is missing. -/
def missingText (field : String) : String := field ++ " cannot be empty"

/-- The fault of a number that is zero. -/
def notPositive (field : String) (n : Nat) : String :=
  field ++ " must be greater than 0, got " ++ Decimal.ofNat n

/-- The fault of a number beyond a limit. -/
def beyond (field : String) (limit n : Nat) : String :=
  field ++ " must be at most " ++ Decimal.ofNat limit ++ ", got " ++ Decimal.ofNat n

/-- The most runs of an endpoint. -/
def PlanSettings.mostRuns : Nat := 99

/-- Checks the plan. -/
def PlanSettings.check (p : PlanSettings) : Except SettingsError Unit := do
  let domain := "benchmark"
  demand (0 < p.runsPerEndpoint) domain (notPositive "runs_per_endpoint" p.runsPerEndpoint)
  demand (0 < p.searchBudget) domain (notPositive "search_budget_seconds" p.searchBudget)
  demand (p.catalogPath.text != "") domain (missingText "catalog_path")
  demand (p.resultsDir.text != "") domain (missingText "results_dir")
  demand (p.runsPerEndpoint ≤ mostRuns) domain
    (beyond "runs_per_endpoint" mostRuns p.runsPerEndpoint)

namespace ToolCommand

/-- The texts that may hold fields, apart from the working directory. -/
def templates (t : ToolCommand) : List String :=
  t.program :: t.args ++ t.env.map (·.2) ++ t.cleanup

/-- The fault of a field that is not known. -/
def unknownField (name template : String) : String :=
  "unknown placeholder '\x7b" ++ name ++ "\x7d' in '" ++ template ++
    "'. Valid placeholders: " ++ Text.join ", " Template.knownFields

/-- The first field in a list of texts that is not known, with its text. -/
def unknownField? (ts : List String) : Option (String × String) :=
  ts.findSome? fun t =>
    ((Template.placeholders t).find? fun n => !Template.knownFields.contains n).map fun n => (n, t)

/-- Checks the command. -/
def check (t : ToolCommand) : Except SettingsError Unit := do
  let domain := "execution.tool"
  demand (!Text.isBlankText t.program) domain (missingText "program")
  match unknownField? t.templates with
  | some (name, template) => throw (.domain domain (unknownField name template))
  | none => return ()

end ToolCommand

/-- Checks the bounds of a run. -/
def ExecutionSettings.check (e : ExecutionSettings) : Except SettingsError Unit := do
  let domain := "execution"
  demand (0 < e.deadlineMultiplier) domain (notPositive "deadline_multiplier" e.deadlineMultiplier)
  demand (!Text.isBlankText e.logFileName) domain (missingText "log_file_name")
  demand (e.timeoutExitCode != 0) domain "timeout_exit_code must be non-zero"
  demand (!e.logFileName.toList.any fun c => c == '/' || c == '\\') domain
    "log_file_name must be a bare file name"
  e.tool.check

/-- Checks the sampling. -/
def MonitorSettings.check (m : MonitorSettings) : Except SettingsError Unit :=
  demand (!m.enabled || 0 < m.pollInterval) "monitor" "poll_interval must be greater than 0"

/-- Checks the limit on messages. -/
def ClassifierSettings.check (c : ClassifierSettings) : Except SettingsError Unit := do
  demand (0 < c.maxMessage) "classifier" (notPositive "max_message_chars" c.maxMessage)
  demand (c.maxMessage ≤ highest) "classifier" (beyond "max_message_chars" highest c.maxMessage)

/-- Checks the reports. -/
def ReportSettings.check (r : ReportSettings) : Except SettingsError Unit :=
  demand (!r.caveats.any Text.isBlankText) "report" (missingText "caveats[]")

/-- Checks one log target. -/
def LogTarget.check : LogTarget → Except SettingsError Unit
  | console _ => .ok ()
  | file path .. => demand (!Text.isBlankText path) "logging.target" (missingText "path")

/-- Checks the log. -/
def LogSettings.check (l : LogSettings) : Except SettingsError Unit := do
  l.targets.forM LogTarget.check
  demand (!l.targets.isEmpty) "logging" "At least one log target must be configured"

/-- Checks every domain. -/
def Settings.check (s : Settings) : Except SettingsError Unit := do
  s.plan.check
  s.execution.check
  s.monitor.check
  s.classifier.check
  s.report.check
  s.logging.check

/-- The wording of a `SettingsError` that has one of its own. -/
def SettingsError.message : SettingsError → String
  | .unreadable cause => "Failed to read config file: " ++ cause
  | .malformed => "Failed to parse config"
  | .variable what => "Environment variable error: " ++ what
  | .domain name what => "Domain configuration error in " ++ name ++ ": " ++ what

end SuiteBench
