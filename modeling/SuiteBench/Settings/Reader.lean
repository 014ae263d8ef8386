import SuiteBench.Settings.Check
import SuiteBench.Yaml.Decoder

/-!
# Settings.Reader — settings from a YAML text and from variables

The text comes first, the variables override it, and the outcome is checked.  Fields that the text
leaves out keep their built-in value.
-/

namespace SuiteBench

open Yaml

/-! ### The text -/

/-- A path, as a text. -/
def pathOf (n : Node) : Reading Path := do return ⟨← n.text⟩

/-- A list of texts. -/
def textsOf : Node → Reading (List String) := Node.list Node.text

/-- A number of thirty-two bits. -/
def nat32 : Node → Reading Nat := Node.nat Decimal.max32

/-- A number of sixty-four bits. -/
def nat64 : Node → Reading Nat := Node.nat Decimal.max64

/-- The plan that a node describes. -/
def PlanSettings.ofNode (n : Node) : Reading PlanSettings := do
  let d := builtIn
  let fs ← n.fields ["catalog_path", "results_dir", "runs_per_endpoint",
    "search_budget_seconds", "inter_run_pause", "inter_endpoint_pause", "skip_existing"]
  return {
    catalogPath := ← field fs "catalog_path" d.catalogPath pathOf
    resultsDir := ← field fs "results_dir" d.resultsDir pathOf
    runsPerEndpoint := ← field fs "runs_per_endpoint" d.runsPerEndpoint nat32
    searchBudget := ← field fs "search_budget_seconds" d.searchBudget nat64
    interRunPause := ← field fs "inter_run_pause" d.interRunPause nat64
    interEndpointPause := ← field fs "inter_endpoint_pause" d.interEndpointPause nat64
    skipExisting := ← field fs "skip_existing" d.skipExisting Node.bool }

/-- The pairs in the order of their names, the last of those with one name. -/
def sortPairs (ps : List (String × String)) : List (String × String) :=
  ps.foldl (fun acc p =>
    (acc.takeWhile fun q => q.1 < p.1) ++ p ::
      (acc.dropWhile fun q => q.1 < p.1).dropWhile fun q => q.1 == p.1) []

/-- The variables that a node describes. -/
def variablesOf (n : Node) : Reading (List (String × String)) := do
  let ps ← (← n.pairs).mapM fun (k, v) => do return (k, ← v.text)
  return sortPairs ps

/-- The command that a node describes. -/
def ToolCommand.ofNode (n : Node) : Reading ToolCommand := do
  let d := builtIn
  let fs ← n.fields ["program", "args", "env", "working_dir", "cleanup"]
  return {
    program := ← field fs "program" d.program Node.text
    args := ← field fs "args" d.args textsOf
    env := ← field fs "env" d.env variablesOf
    workingDir := ← field fs "working_dir" d.workingDir fun n => do
      return (← n.optionalText).map Path.mk
    cleanup := ← field fs "cleanup" d.cleanup textsOf }

/-- The bounds of a run that a node describes. -/
def ExecutionSettings.ofNode (n : Node) : Reading ExecutionSettings := do
  let d := builtIn
  let fs ← n.fields ["tool", "deadline_multiplier", "timeout_exit_code", "kill_grace_period",
    "log_file_name", "required_binaries"]
  return {
    tool := ← field fs "tool" d.tool ToolCommand.ofNode
    deadlineMultiplier := ← field fs "deadline_multiplier" d.deadlineMultiplier nat32
    timeoutExitCode := ← field fs "timeout_exit_code" d.timeoutExitCode
      (Node.int Decimal.maxSigned32)
    killGracePeriod := ← field fs "kill_grace_period" d.killGracePeriod nat64
    logFileName := ← field fs "log_file_name" d.logFileName Node.text
    requiredBinaries := ← field fs "required_binaries" d.requiredBinaries textsOf }

/-- The sampling that a node describes. -/
def MonitorSettings.ofNode (n : Node) : Reading MonitorSettings := do
  let d := builtIn
  let fs ← n.fields ["enabled", "poll_interval"]
  return ⟨← field fs "enabled" d.enabled Node.bool, ← field fs "poll_interval" d.pollInterval nat64⟩

/-- The limit on messages that a node describes. -/
def ClassifierSettings.ofNode (n : Node) : Reading ClassifierSettings := do
  let fs ← n.fields ["max_message_chars"]
  return ⟨← field fs "max_message_chars" builtIn.maxMessage nat64⟩

/-- The reports that a node describes. -/
def ReportSettings.ofNode (n : Node) : Reading ReportSettings := do
  let d := builtIn
  let fs ← n.fields ["caveats", "detailed_csv", "endpoint_text_summary"]
  return ⟨← field fs "caveats" d.caveats textsOf, ← field fs "detailed_csv" d.detailedCsv Node.bool,
    ← field fs "endpoint_text_summary" d.endpointTextSummary Node.bool⟩

namespace LogTarget

/-- The level of a target, which may be null. -/
def levelOf? : Value → Option (Option LogLevel) :=
  Value.nullable? (Value.named? LogLevel.all LogLevel.name)

/-- The value of a field of a target, or `fallback` when the field is absent. -/
def fieldOf? {α : Type} (fs : List (String × Value)) (name : String) (fallback : α)
    (decode : Value → Option α) : Option α :=
  match fs.lookup name with
  | some v => decode v
  | none => some fallback

/-- The fields of a kind of target, in order. -/
def fieldNames? : String → Option (List String)
  | "console" => some ["level"]
  | "file" => some ["path", "level", "rotation"]
  | _ => none

/-- The target of a kind with these fields. -/
def ofFields? (kind : String) (fs : List (String × Value)) : Option LogTarget :=
  match kind with
  | "console" => do return .console (← fieldOf? fs "level" none levelOf?)
  | "file" => do
    return .file (← (fs.lookup "path").bind Value.text?) (← fieldOf? fs "level" none levelOf?)
      (← fieldOf? fs "rotation" .never (Value.named? LogRotation.all LogRotation.name))
  | _ => none

/-- The target of a kind that named fields describe. -/
def ofPairs? (kind : String) (pairs : List (Value × Value)) : Option LogTarget := do
  ofFields? kind (← Value.fields? (← fieldNames? kind) pairs)

/-- The target of a kind whose fields are given in order. -/
def ofItems? (kind : String) (items : List Value) : Option LogTarget := do
  let names ← fieldNames? kind
  if names.length < items.length then none else ofFields? kind (names.zip items)

/-- How deep the collections inside a target may nest: a target stands in a list inside a mapping
inside the whole. -/
def depth : Nat := Reading.deepest - 4

/-- A pair of a target: its kind, or a field. -/
def entry (p : Node × Node) : Reading (String ⊕ Value × Value) := do
  match ← p.1.value depth with
  | .text "type" => return .inl (← p.2.text)
  | k => return .inr (k, ← p.2.value depth)

/-- The target that a node describes: its kind stands beside its other fields, or in front of
them. -/
def ofNode (n : Node) : Reading LogTarget := do
  match ← Reading.follow n with
  | .mapping tag pairs =>
    let entries ← pairs.mapM entry
    match isOwnTag tag, entries.filterMap Sum.getLeft? with
    | false, [kind] => Reading.ofOption (ofPairs? kind (entries.filterMap Sum.getRight?))
    | _, _ => Reading.fail
  | .sequence tag (kind :: items) =>
    if isOwnTag tag then Reading.fail
    else Reading.ofOption (ofItems? (← kind.text) (← items.mapM (·.value depth)))
  | _ => Reading.fail

end LogTarget

/-- The log that a node describes. -/
def LogSettings.ofNode (n : Node) : Reading LogSettings := do
  let d := builtIn
  let fs ← n.fields ["level", "format", "targets", "include_location"]
  return {
    level := ← field fs "level" d.level (Node.named LogLevel.ofName?)
    format := ← field fs "format" d.format (Node.named LogFormat.ofName?)
    targets := ← field fs "targets" d.targets (Node.list LogTarget.ofNode)
    includeLocation := ← field fs "include_location" d.includeLocation Node.bool }

namespace Settings

/-- The settings that a node describes. -/
def ofNode (n : Node) : Reading Settings := do
  let d := builtIn
  let fs ← n.fields ["benchmark", "execution", "monitor", "classifier", "report", "logging"]
  return {
    plan := ← field fs "benchmark" d.plan PlanSettings.ofNode
    execution := ← field fs "execution" d.execution ExecutionSettings.ofNode
    monitor := ← field fs "monitor" d.monitor MonitorSettings.ofNode
    classifier := ← field fs "classifier" d.classifier ClassifierSettings.ofNode
    report := ← field fs "report" d.report ReportSettings.ofNode
    logging := ← field fs "logging" d.logging LogSettings.ofNode }

/-- The settings that a text describes; an empty text leaves the built-in ones. -/
def ofText? (text : String) : Option Settings := do
  match ← Document.ofText? text with
  | some d => Reading.run (ofNode d.root) d
  | none => some builtIn

end Settings

/-! ### Variables -/

/-- The variables that override settings. -/
structure Environment where
  /-- What the names of the variables start with, in front of an underscore. -/
  start : String
  vars : List (String × String)

namespace Environment

/-- The usual start of the names. -/
def standard (vars : List (String × String)) : Environment := ⟨"GENBENCH", vars⟩

/-- The value of a variable. -/
def get? (e : Environment) (name : String) : Option String :=
  e.vars.lookup (e.start ++ "_" ++ name)

/-- The value of a variable that is read by `read`, or `fallback` when it is not set. -/
def parse {α : Type} (e : Environment) (name : String) (fallback : α)
    (read : List Char → Except String α) : Except SettingsError α :=
  match e.get? name with
  | none => .ok fallback
  | some raw => (read (Text.trimChars raw.toList)).mapError fun why =>
      .variable ("Invalid " ++ name ++ ": " ++ why)

/-- Reads a whole number. -/
def number (bound : Nat) (cs : List Char) : Except String Nat :=
  (Decimal.readNat bound cs).mapError Decimal.NumberError.message

/-- Reads a boolean. -/
def flag (cs : List Char) : Except String Bool :=
  match String.ofList cs with
  | "true" => .ok true
  | "false" => .ok false
  | _ => .error "provided string was not \x60true\x60 or \x60false\x60"

/-- The value of a variable that names one of a set, or `fallback` when it is not set. -/
def choice {α : Type} (e : Environment) (name : String) (fallback : α) (read? : String → Option α) :
    Except SettingsError α :=
  match e.get? name with
  | none => .ok fallback
  | some raw => match read? raw with
    | some a => .ok a
    | none => .error (.variable ("Invalid " ++ name ++ ": " ++ raw))

end Environment

/-- The settings with the variables put in. -/
def Settings.override (s : Settings) (e : Environment) : Except SettingsError Settings := do
  let p := s.plan
  let plan : PlanSettings :=
    { p with
      catalogPath := ((e.get? "CATALOG").map Path.mk).getD p.catalogPath
      resultsDir := ((e.get? "RESULTS_DIR").map Path.mk).getD p.resultsDir
      runsPerEndpoint := ← e.parse "RUNS" p.runsPerEndpoint (Environment.number Decimal.max32)
      searchBudget := ← e.parse "SEARCH_BUDGET" p.searchBudget (Environment.number Decimal.max64)
      skipExisting := ← e.parse "SKIP_EXISTING" p.skipExisting Environment.flag }
  let x := s.execution
  let execution : ExecutionSettings :=
    { x with
      tool := { x.tool with program := (e.get? "TOOL_PROGRAM").getD x.tool.program }
      deadlineMultiplier := ←
        e.parse "DEADLINE_MULTIPLIER" x.deadlineMultiplier (Environment.number Decimal.max32) }
  let poll ← e.parse "POLL_INTERVAL" s.monitor.pollInterval (Environment.number Decimal.max64)
  let enabled ← e.parse "MONITOR_ENABLED" s.monitor.enabled Environment.flag
  let level ← e.choice "LOG_LEVEL" s.logging.level LogLevel.read?
  let format ← e.choice "LOG_FORMAT" s.logging.format LogFormat.read?
  return { s with plan, execution, monitor := ⟨enabled, poll⟩
                  logging := { s.logging with level, format } }

/-- The settings with the variables put in, if they can be used. -/
def Settings.complete (s : Settings) (e : Environment) : Except SettingsError Settings := do
  let s ← s.override e
  s.check
  return s

/-- The settings of a file with this content. -/
def Settings.ofFile (content : ByteArray) (e : Environment) : Except SettingsError Settings :=
  match String.fromUTF8? content with
  | none => .error (.unreadable "stream did not contain valid UTF-8")
  | some text => match Settings.ofText? text with
    | some s => s.complete e
    | none => .error .malformed

/-- The settings of the variables alone. -/
def Settings.ofEnvironment (e : Environment) : Except SettingsError Settings :=
  Settings.builtIn.complete e

/-- What the command line overrides. -/
structure RunOverrides where
  runs : Option Nat
  budget : Option Nat
  output : Option Path
  endpoint : Option Nat
  skipExisting : Bool
  catalog : Option Path
  deriving DecidableEq, Repr

/-- Nothing overridden. -/
def RunOverrides.none : RunOverrides := ⟨.none, .none, .none, .none, false, .none⟩

/-- The settings with the command line put in. -/
def RunOverrides.put (o : RunOverrides) (s : Settings) : Settings :=
  let p := s.plan
  { s with plan :=
    { p with
      runsPerEndpoint := o.runs.getD p.runsPerEndpoint
      searchBudget := o.budget.getD p.searchBudget
      resultsDir := o.output.getD p.resultsDir
      catalogPath := o.catalog.getD p.catalogPath
      skipExisting := o.skipExisting || p.skipExisting } }

/-- The settings with the command line put in, if they can be used. -/
def RunOverrides.apply (o : RunOverrides) (s : Settings) : Except SettingsError Settings := do
  let s := o.put s
  s.check
  return s

end SuiteBench
