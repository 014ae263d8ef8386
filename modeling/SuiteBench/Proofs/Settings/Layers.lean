import SuiteBench.Proofs.Settings.Check
import SuiteBench.Proofs.Yaml.Reading
import SuiteBench.Settings.Reader

/-!
# Proofs.Settings.Layers — which layer decides a setting

A setting is decided by the first layer that sets it: the command line, a variable, the text, or else by
the built-in value.  Each layer is put over the ones below it by a function of its own, so that what is
known of the settings by the layers below is known by one more layer afterwards.
-/

namespace SuiteBench

open Yaml Yaml.Reading

variable {α : Type}

/-! ### Layers -/

/-- The value that layers leave: what the first of them says that says anything, which may be no value, or
`fallback` where none does. -/
def layered (layers : List (Option (Option α))) (fallback : α) : Option α :=
  (layers.findSome? id).getD (some fallback)

/-- What a document says at the end of a path, if that can be read. -/
def Yaml.Document.says? (d? : Option Document) (path : List String) (decode : Node → Reading α) :
    Option (Option α) :=
  d?.bind fun d => (d.at? path).map fun n => (decode n).run d

namespace Environment

/-- What a variable says, if that can be read. -/
def says? (e : Environment) (name : String) (read? : String → Option α) : Option (Option α) :=
  (e.get? name).map read?

/-- Reads a text without the blanks around it. -/
def trimmed? (read : List Char → Except String α) (raw : String) : Option α :=
  (read (Text.trimChars raw.toList)).toOption

end Environment

open Environment (number flag trimmed?)

section Domains

variable (d? : Option Document) (e : Environment) (o : RunOverrides)

/-- Whether each part of the plan is what its layers leave. -/
structure PlanSettings.Layered (p : PlanSettings) : Prop where
  catalogPath : layered [o.catalog.map some, e.says? "CATALOG" fun raw => some ⟨raw⟩,
    Document.says? d? ["benchmark", "catalog_path"] pathOf] builtIn.catalogPath = some p.catalogPath
  resultsDir : layered [o.output.map some, e.says? "RESULTS_DIR" fun raw => some ⟨raw⟩,
    Document.says? d? ["benchmark", "results_dir"] pathOf] builtIn.resultsDir = some p.resultsDir
  runsPerEndpoint : layered [o.runs.map some, e.says? "RUNS" (trimmed? (number Decimal.max32)),
    Document.says? d? ["benchmark", "runs_per_endpoint"] nat32] builtIn.runsPerEndpoint =
      some p.runsPerEndpoint
  searchBudget : layered [o.budget.map some, e.says? "SEARCH_BUDGET" (trimmed? (number Decimal.max64)),
    Document.says? d? ["benchmark", "search_budget_seconds"] nat64] builtIn.searchBudget =
      some p.searchBudget
  interRunPause : layered [Document.says? d? ["benchmark", "inter_run_pause"] nat64]
    builtIn.interRunPause = some p.interRunPause
  interEndpointPause : layered [Document.says? d? ["benchmark", "inter_endpoint_pause"] nat64]
    builtIn.interEndpointPause = some p.interEndpointPause
  /-- The command line can say that records are kept, and not that they are not. -/
  skipExisting : layered [if o.skipExisting then some (some true) else none,
    e.says? "SKIP_EXISTING" (trimmed? flag), Document.says? d? ["benchmark", "skip_existing"] Node.bool]
      builtIn.skipExisting = some p.skipExisting

/-- Whether each part of the command is what its layers leave. -/
structure ToolCommand.Layered (t : ToolCommand) : Prop where
  program : layered [e.says? "TOOL_PROGRAM" some,
    Document.says? d? ["execution", "tool", "program"] Node.text] builtIn.program = some t.program
  args : layered [Document.says? d? ["execution", "tool", "args"] textsOf] builtIn.args = some t.args
  env : layered [Document.says? d? ["execution", "tool", "env"] variablesOf] builtIn.env = some t.env
  workingDir : layered [Document.says? d? ["execution", "tool", "working_dir"] fun n => do
    return (← n.optionalText).map Path.mk] builtIn.workingDir = some t.workingDir
  cleanup : layered [Document.says? d? ["execution", "tool", "cleanup"] textsOf] builtIn.cleanup =
    some t.cleanup

/-- Whether each bound of a run is what its layers leave. -/
structure ExecutionSettings.Layered (x : ExecutionSettings) : Prop where
  tool : x.tool.Layered d? e
  deadlineMultiplier : layered [e.says? "DEADLINE_MULTIPLIER" (trimmed? (number Decimal.max32)),
    Document.says? d? ["execution", "deadline_multiplier"] nat32] builtIn.deadlineMultiplier =
      some x.deadlineMultiplier
  timeoutExitCode : layered [Document.says? d? ["execution", "timeout_exit_code"]
    (Node.int Decimal.maxSigned32)] builtIn.timeoutExitCode = some x.timeoutExitCode
  killGracePeriod : layered [Document.says? d? ["execution", "kill_grace_period"] nat64]
    builtIn.killGracePeriod = some x.killGracePeriod
  logFileName : layered [Document.says? d? ["execution", "log_file_name"] Node.text]
    builtIn.logFileName = some x.logFileName
  requiredBinaries : layered [Document.says? d? ["execution", "required_binaries"] textsOf]
    builtIn.requiredBinaries = some x.requiredBinaries

/-- Whether the sampling is what its layers leave. -/
structure MonitorSettings.Layered (m : MonitorSettings) : Prop where
  enabled : layered [e.says? "MONITOR_ENABLED" (trimmed? flag),
    Document.says? d? ["monitor", "enabled"] Node.bool] builtIn.enabled = some m.enabled
  pollInterval : layered [e.says? "POLL_INTERVAL" (trimmed? (number Decimal.max64)),
    Document.says? d? ["monitor", "poll_interval"] nat64] builtIn.pollInterval = some m.pollInterval

/-- Whether the limit on messages is that of the text, or else the built-in one. -/
structure ClassifierSettings.Layered (c : ClassifierSettings) : Prop where
  maxMessage : layered [Document.says? d? ["classifier", "max_message_chars"] nat64]
    builtIn.maxMessage = some c.maxMessage

/-- Whether the reports are those of the text, or else the built-in ones. -/
structure ReportSettings.Layered (r : ReportSettings) : Prop where
  caveats : layered [Document.says? d? ["report", "caveats"] textsOf] builtIn.caveats = some r.caveats
  detailedCsv : layered [Document.says? d? ["report", "detailed_csv"] Node.bool] builtIn.detailedCsv =
    some r.detailedCsv
  endpointTextSummary : layered [Document.says? d? ["report", "endpoint_text_summary"] Node.bool]
    builtIn.endpointTextSummary = some r.endpointTextSummary

/-- Whether each part of the log is what its layers leave. -/
structure LogSettings.Layered (l : LogSettings) : Prop where
  level : layered [e.says? "LOG_LEVEL" LogLevel.read?,
    Document.says? d? ["logging", "level"] (Node.named LogLevel.ofName?)] builtIn.level = some l.level
  format : layered [e.says? "LOG_FORMAT" LogFormat.read?,
    Document.says? d? ["logging", "format"] (Node.named LogFormat.ofName?)] builtIn.format = some l.format
  targets : layered [Document.says? d? ["logging", "targets"] (Node.list LogTarget.ofNode)]
    builtIn.targets = some l.targets
  includeLocation : layered [Document.says? d? ["logging", "include_location"] Node.bool]
    builtIn.includeLocation = some l.includeLocation

/-- Whether each setting is what its layers leave. -/
structure Settings.Layered (s : Settings) : Prop where
  plan : s.plan.Layered d? e o
  execution : s.execution.Layered d? e
  monitor : s.monitor.Layered d? e
  classifier : s.classifier.Layered d?
  report : s.report.Layered d?
  logging : s.logging.Layered d? e

end Domains

/-! ### The text -/

section Text

variable {d : Document} {d? : Option Document} {n : Node} {path : List String} {name : String}
  {names : List String} {fs : List (String × Node)} {decode : Node → Reading α} {a fallback : α}
  {k k' k₀ k₁ : Nat}

theorem steady_pathOf (n : Node) : Steady (pathOf n) := (Node.steady_text n).bind fun _ => steady_pure _

theorem steady_textsOf (n : Node) : Steady (textsOf n) := Node.steady_list Node.steady_text n

theorem steady_variablesOf (n : Node) : Steady (variablesOf n) :=
  (Node.steady_pairs n).bind fun _ => (steady_mapM fun p _ =>
    (Node.steady_text p.2).bind fun _ => steady_pure _).bind fun _ => steady_pure _

theorem LogTarget.steady_entry (p : Node × Node) : Steady (entry p) := by
  refine (Node.steady_value depth p.1).bind fun key => ?_
  split
  · exact (Node.steady_text p.2).bind fun _ => steady_pure _
  · exact (Node.steady_value depth p.2).bind fun _ => steady_pure _

theorem LogTarget.steady_ofNode (n : Node) : Steady (ofNode n) := by
  refine (steady_follow n).bind fun m => ?_
  split
  · refine (steady_mapM fun p _ => steady_entry p).bind fun entries => ?_
    split
    · exact steady_ofOption _
    · exact steady_fail
  · split
    · exact steady_fail
    · exact (Node.steady_text _).bind fun kind => (steady_mapM fun item _ =>
        Node.steady_value depth item).bind fun items => steady_ofOption _
  · exact steady_fail

theorem Yaml.Document.at?_concat (d : Document) (path : List String) (name : String) :
    d.at? (path ++ [name]) = (d.at? path).bind (d.member? · name) := by
  simp [at?]

/-- A field that is not there has its fallback, and one that is there is read from its node. -/
theorem field_cases {P : α → Prop} (hn : d.at? path = some n)
    (hfs : n.fields names d k₀ = some (fs, k₁)) (hname : name ∈ names)
    (h : field fs name fallback decode d k = some (a, k'))
    (habsent : (some d).bind (·.at? (path ++ [name])) = none → P fallback)
    (hpresent : ∀ m, d.at? (path ++ [name]) = some m → decode m d k = some (a, k') → P a) : P a := by
  have hat : d.at? (path ++ [name]) = fs.lookup name := by
    rw [Document.at?_concat, hn, Option.bind_some, lookup_fields hfs hname]
  rw [field] at h
  cases hm : fs.lookup name with
  | none =>
    rw [hm] at h
    obtain ⟨rfl, -⟩ := pure_eq_some.mp h
    exact habsent (hat.trans hm)
  | some m =>
    rw [hm] at h
    exact hpresent m (hat.trans hm) h

theorem layered_of_absent (h : d?.bind (·.at? path) = none) :
    layered [Document.says? d? (path ++ [name]) decode] fallback = some fallback := by
  have hnothing : Document.says? d? (path ++ [name]) decode = none := by
    cases d? with
    | none => rfl
    | some d => simp [Document.says?, Document.at?_concat, show d.at? path = none from h]
  rw [hnothing]
  rfl

theorem layered_field (hn : d.at? path = some n) (hfs : n.fields names d k₀ = some (fs, k₁))
    (hdecode : ∀ n, Steady (decode n)) (hname : name ∈ names)
    (h : field fs name fallback decode d k = some (a, k')) :
    layered [Document.says? (some d) (path ++ [name]) decode] fallback = some a := by
  refine field_cases (P := fun a => layered _ fallback = some a) hn hfs hname h ?_ ?_
  · intro hat
    rw [Option.bind_some] at hat
    simp [layered, Document.says?, hat]
  · intro m hat hm
    simp [layered, Document.says?, hat, (hdecode m).run hm]

/-- An environment without variables. -/
def Environment.unset : Environment := ⟨"", []⟩

theorem PlanSettings.layered_builtIn (h : d?.bind (·.at? ["benchmark"]) = none) :
    builtIn.Layered d? .unset .none where
  catalogPath := layered_of_absent h
  resultsDir := layered_of_absent h
  runsPerEndpoint := layered_of_absent h
  searchBudget := layered_of_absent h
  interRunPause := layered_of_absent h
  interEndpointPause := layered_of_absent h
  skipExisting := layered_of_absent h

theorem PlanSettings.layered_ofNode {p : PlanSettings} (hn : d.at? ["benchmark"] = some n)
    (h : ofNode n d k = some (p, k')) : p.Layered (some d) .unset .none := by
  simp only [ofNode, bind_eq_some, pure_eq_some] at h
  obtain ⟨fs, _, hfs, cat, _, hcat, res, _, hres, runs, _, hruns, budget, _, hbudget, rp, _, hrp, ep, _,
    hep, skip, _, hskip, rfl, -⟩ := h
  exact {
    catalogPath := layered_field hn hfs steady_pathOf (by simp) hcat
    resultsDir := layered_field hn hfs steady_pathOf (by simp) hres
    runsPerEndpoint := layered_field hn hfs (Node.steady_nat _) (by simp) hruns
    searchBudget := layered_field hn hfs (Node.steady_nat _) (by simp) hbudget
    interRunPause := layered_field hn hfs (Node.steady_nat _) (by simp) hrp
    interEndpointPause := layered_field hn hfs (Node.steady_nat _) (by simp) hep
    skipExisting := layered_field hn hfs Node.steady_bool (by simp) hskip }

theorem ToolCommand.layered_builtIn (h : d?.bind (·.at? ["execution", "tool"]) = none) :
    builtIn.Layered d? .unset where
  program := layered_of_absent h
  args := layered_of_absent h
  env := layered_of_absent h
  workingDir := layered_of_absent h
  cleanup := layered_of_absent h

theorem ToolCommand.layered_ofNode {t : ToolCommand} (hn : d.at? ["execution", "tool"] = some n)
    (h : ofNode n d k = some (t, k')) : t.Layered (some d) .unset := by
  simp only [ofNode, bind_eq_some, pure_eq_some] at h
  obtain ⟨fs, _, hfs, program, _, hprogram, args, _, hargs, env, _, henv, dir, _, hdir, cleanup, _,
    hcleanup, rfl, -⟩ := h
  exact {
    program := layered_field hn hfs Node.steady_text (by simp) hprogram
    args := layered_field hn hfs steady_textsOf (by simp) hargs
    env := layered_field hn hfs steady_variablesOf (by simp) henv
    workingDir := layered_field hn hfs
      (fun n => (Node.steady_optionalText n).bind fun _ => steady_pure _) (by simp) hdir
    cleanup := layered_field hn hfs steady_textsOf (by simp) hcleanup }

theorem ExecutionSettings.layered_builtIn (h : d?.bind (·.at? ["execution"]) = none) :
    builtIn.Layered d? .unset where
  tool := ToolCommand.layered_builtIn <| by
    cases d? with
    | none => rfl
    | some d => exact (d.at?_concat ["execution"] "tool").trans (by rw [show d.at? _ = none from h]; rfl)
  deadlineMultiplier := layered_of_absent h
  timeoutExitCode := layered_of_absent h
  killGracePeriod := layered_of_absent h
  logFileName := layered_of_absent h
  requiredBinaries := layered_of_absent h

theorem ExecutionSettings.layered_ofNode {x : ExecutionSettings} (hn : d.at? ["execution"] = some n)
    (h : ofNode n d k = some (x, k')) : x.Layered (some d) .unset := by
  simp only [ofNode, bind_eq_some, pure_eq_some] at h
  obtain ⟨fs, _, hfs, tool, _, htool, multiplier, _, hmultiplier, code, _, hcode, grace, _, hgrace, log, _,
    hlog, binaries, _, hbinaries, rfl, -⟩ := h
  exact {
    tool := field_cases (P := (·.Layered (some d) .unset)) hn hfs (by simp) htool
      ToolCommand.layered_builtIn fun _ hm => ToolCommand.layered_ofNode hm
    deadlineMultiplier := layered_field hn hfs (Node.steady_nat _) (by simp) hmultiplier
    timeoutExitCode := layered_field hn hfs (Node.steady_int _) (by simp) hcode
    killGracePeriod := layered_field hn hfs (Node.steady_nat _) (by simp) hgrace
    logFileName := layered_field hn hfs Node.steady_text (by simp) hlog
    requiredBinaries := layered_field hn hfs steady_textsOf (by simp) hbinaries }

theorem MonitorSettings.layered_builtIn (h : d?.bind (·.at? ["monitor"]) = none) :
    builtIn.Layered d? .unset where
  enabled := layered_of_absent h
  pollInterval := layered_of_absent h

theorem MonitorSettings.layered_ofNode {m : MonitorSettings} (hn : d.at? ["monitor"] = some n)
    (h : ofNode n d k = some (m, k')) : m.Layered (some d) .unset := by
  simp only [ofNode, bind_eq_some, pure_eq_some] at h
  obtain ⟨fs, _, hfs, enabled, _, henabled, poll, _, hpoll, rfl, -⟩ := h
  exact {
    enabled := layered_field hn hfs Node.steady_bool (by simp) henabled
    pollInterval := layered_field hn hfs (Node.steady_nat _) (by simp) hpoll }

theorem ClassifierSettings.layered_builtIn (h : d?.bind (·.at? ["classifier"]) = none) :
    builtIn.Layered d? where
  maxMessage := layered_of_absent h

theorem ClassifierSettings.layered_ofNode {c : ClassifierSettings} (hn : d.at? ["classifier"] = some n)
    (h : ofNode n d k = some (c, k')) : c.Layered (some d) := by
  simp only [ofNode, bind_eq_some, pure_eq_some] at h
  obtain ⟨fs, _, hfs, longest, _, hlongest, rfl, -⟩ := h
  exact { maxMessage := layered_field hn hfs (Node.steady_nat _) (by simp) hlongest }

theorem ReportSettings.layered_builtIn (h : d?.bind (·.at? ["report"]) = none) :
    builtIn.Layered d? where
  caveats := layered_of_absent h
  detailedCsv := layered_of_absent h
  endpointTextSummary := layered_of_absent h

theorem ReportSettings.layered_ofNode {r : ReportSettings} (hn : d.at? ["report"] = some n)
    (h : ofNode n d k = some (r, k')) : r.Layered (some d) := by
  simp only [ofNode, bind_eq_some, pure_eq_some] at h
  obtain ⟨fs, _, hfs, caveats, _, hcaveats, csv, _, hcsv, summary, _, hsummary, rfl, -⟩ := h
  exact {
    caveats := layered_field hn hfs steady_textsOf (by simp) hcaveats
    detailedCsv := layered_field hn hfs Node.steady_bool (by simp) hcsv
    endpointTextSummary := layered_field hn hfs Node.steady_bool (by simp) hsummary }

theorem LogSettings.layered_builtIn (h : d?.bind (·.at? ["logging"]) = none) :
    builtIn.Layered d? .unset where
  level := layered_of_absent h
  format := layered_of_absent h
  targets := layered_of_absent h
  includeLocation := layered_of_absent h

theorem LogSettings.layered_ofNode {l : LogSettings} (hn : d.at? ["logging"] = some n)
    (h : ofNode n d k = some (l, k')) : l.Layered (some d) .unset := by
  simp only [ofNode, bind_eq_some, pure_eq_some] at h
  obtain ⟨fs, _, hfs, level, _, hlevel, format, _, hformat, targets, _, htargets, location, _, hlocation,
    rfl, -⟩ := h
  exact {
    level := layered_field hn hfs (Node.steady_named _) (by simp) hlevel
    format := layered_field hn hfs (Node.steady_named _) (by simp) hformat
    targets := layered_field hn hfs (Node.steady_list LogTarget.steady_ofNode) (by simp) htargets
    includeLocation := layered_field hn hfs Node.steady_bool (by simp) hlocation }

theorem Settings.layered_builtIn : builtIn.Layered none .unset .none where
  plan := PlanSettings.layered_builtIn rfl
  execution := ExecutionSettings.layered_builtIn rfl
  monitor := MonitorSettings.layered_builtIn rfl
  classifier := ClassifierSettings.layered_builtIn rfl
  report := ReportSettings.layered_builtIn rfl
  logging := LogSettings.layered_builtIn rfl

theorem Settings.layered_ofNode {s : Settings} (h : ofNode d.root d k = some (s, k')) :
    s.Layered (some d) .unset .none := by
  have hroot : d.at? [] = some d.root := rfl
  simp only [ofNode, bind_eq_some, pure_eq_some] at h
  obtain ⟨fs, _, hfs, plan, _, hplan, execution, _, hexecution, monitor, _, hmonitor, classifier, _,
    hclassifier, report, _, hreport, logging, _, hlogging, rfl, -⟩ := h
  exact {
    plan := field_cases (P := (·.Layered (some d) .unset .none)) hroot hfs (by simp) hplan
      PlanSettings.layered_builtIn fun _ hm => PlanSettings.layered_ofNode hm
    execution := field_cases (P := (·.Layered (some d) .unset)) hroot hfs (by simp) hexecution
      ExecutionSettings.layered_builtIn fun _ hm => ExecutionSettings.layered_ofNode hm
    monitor := field_cases (P := (·.Layered (some d) .unset)) hroot hfs (by simp) hmonitor
      MonitorSettings.layered_builtIn fun _ hm => MonitorSettings.layered_ofNode hm
    classifier := field_cases (P := (·.Layered (some d))) hroot hfs (by simp) hclassifier
      ClassifierSettings.layered_builtIn fun _ hm => ClassifierSettings.layered_ofNode hm
    report := field_cases (P := (·.Layered (some d))) hroot hfs (by simp) hreport
      ReportSettings.layered_builtIn fun _ hm => ReportSettings.layered_ofNode hm
    logging := field_cases (P := (·.Layered (some d) .unset)) hroot hfs (by simp) hlogging
      LogSettings.layered_builtIn fun _ hm => LogSettings.layered_ofNode hm }

/-- The settings of a text are those that it describes, and the built-in ones where it says nothing. -/
theorem Settings.layered_ofText {text : String} {s : Settings} (h : ofText? text = some s) :
    ∃ d?, Document.ofText? text = some d? ∧ s.Layered d? .unset .none := by
  obtain ⟨d?, hd, h⟩ := Option.bind_eq_some_iff.mp h
  refine ⟨d?, hd, ?_⟩
  cases d? with
  | none =>
    obtain rfl := Option.some.inj h
    exact layered_builtIn
  | some d =>
    obtain ⟨k', hrun⟩ := run_eq_some.mp h
    exact layered_ofNode hrun

end Text

/-! ### Variables -/

section Variables

variable {d? : Option Document} {e : Environment} {s s' : Settings} {name : String} {a b fallback : α}
  {below : Option (Option α)}

theorem SettingsError.bind_eq_ok {β : Type} {x : Except SettingsError α}
    {f : α → Except SettingsError β} {b : β} :
    (x >>= f) = .ok b ↔ ∃ a, x = .ok a ∧ f a = .ok b := by
  cases x <;> simp [bind, Except.bind]

/-- A variable that is read as a text comes over the layer below. -/
theorem layered_says (read : String → α) (h : layered [below] fallback = some a) :
    layered [e.says? name fun raw => some (read raw), below] fallback =
      some (((e.get? name).map read).getD a) := by
  cases hget : e.get? name <;> simp [layered, Environment.says?, hget] at h ⊢
  exact h

/-- A variable that is read as a number or a boolean comes over the layer below. -/
theorem layered_parse {read : List Char → Except String α} (hparse : e.parse name a read = .ok b)
    (h : layered [below] fallback = some a) :
    layered [e.says? name (trimmed? read), below] fallback = some b := by
  rw [Environment.parse] at hparse
  cases hget : e.get? name with
  | none =>
    rw [hget] at hparse
    obtain rfl := Except.ok.inj hparse
    simpa [layered, Environment.says?, hget] using h
  | some raw =>
    rw [hget] at hparse
    cases hread : read (Text.trimChars raw.toList) with
    | ok b' =>
      simp only [hread, Except.mapError] at hparse
      obtain rfl := Except.ok.inj hparse
      simp [layered, Environment.says?, hget, trimmed?, hread, Except.toOption]
    | error why => simp [hread, Except.mapError] at hparse

/-- A variable that is read as a name comes over the layer below. -/
theorem layered_choice {read? : String → Option α} (hchoice : e.choice name a read? = .ok b)
    (h : layered [below] fallback = some a) :
    layered [e.says? name read?, below] fallback = some b := by
  rw [Environment.choice] at hchoice
  cases hget : e.get? name with
  | none =>
    rw [hget] at hchoice
    obtain rfl := Except.ok.inj hchoice
    simpa [layered, Environment.says?, hget] using h
  | some raw =>
    rw [hget] at hchoice
    cases hread : read? raw with
    | some b' =>
      simp only [hread] at hchoice
      obtain rfl := Except.ok.inj hchoice
      simp [layered, Environment.says?, hget, hread]
    | none => simp [hread] at hchoice

/-- The variables come over the text. -/
theorem Settings.Layered.override (hs : s.Layered d? .unset .none) (h : s.override e = .ok s') :
    s'.Layered d? e .none := by
  simp only [Settings.override, SettingsError.bind_eq_ok] at h
  obtain ⟨runs, hruns, budget, hbudget, skip, hskip, multiplier, hmultiplier, poll, hpoll, enabled,
    henabled, level, hlevel, format, hformat, h⟩ := h
  obtain rfl := Except.ok.inj h
  exact {
    plan := { hs.plan with
      catalogPath := layered_says Path.mk hs.plan.catalogPath
      resultsDir := layered_says Path.mk hs.plan.resultsDir
      runsPerEndpoint := layered_parse hruns hs.plan.runsPerEndpoint
      searchBudget := layered_parse hbudget hs.plan.searchBudget
      skipExisting := layered_parse hskip hs.plan.skipExisting }
    execution := { hs.execution with
      tool := { hs.execution.tool with
        program := by simpa using layered_says id hs.execution.tool.program }
      deadlineMultiplier := layered_parse hmultiplier hs.execution.deadlineMultiplier }
    monitor := { enabled := layered_parse henabled hs.monitor.enabled
                 pollInterval := layered_parse hpoll hs.monitor.pollInterval }
    classifier := hs.classifier
    report := hs.report
    logging := { hs.logging with
      level := layered_choice hlevel hs.logging.level
      format := layered_choice hformat hs.logging.format } }

end Variables

/-! ### The command line -/

theorem layered_given {layers : List (Option (Option α))} {fallback a : α} (given : Option α)
    (h : layered layers fallback = some a) :
    layered (given.map some :: layers) fallback = some (given.getD a) := by
  cases given with
  | none => exact h
  | some b => rfl

/-- The command line comes over the variables. -/
theorem Settings.Layered.put {d? : Option Document} {e : Environment} {s : Settings}
    (hs : s.Layered d? e .none) (o : RunOverrides) : (o.put s).Layered d? e o where
  plan := { hs.plan with
    catalogPath := layered_given o.catalog hs.plan.catalogPath
    resultsDir := layered_given o.output hs.plan.resultsDir
    runsPerEndpoint := layered_given o.runs hs.plan.runsPerEndpoint
    searchBudget := layered_given o.budget hs.plan.searchBudget
    skipExisting := by
      have h := hs.plan.skipExisting
      cases ho : o.skipExisting with
      | false => simpa [RunOverrides.put, RunOverrides.none, ho] using h
      | true => simp [RunOverrides.put, ho, layered] }
  execution := hs.execution
  monitor := hs.monitor
  classifier := hs.classifier
  report := hs.report
  logging := hs.logging

/-! ### Faults -/

/-- Whether one of the variables that are more than texts is set and cannot be read. -/
def Environment.Unreadable (e : Environment) : Prop :=
  e.says? "RUNS" (trimmed? (number Decimal.max32)) = some none ∨
  e.says? "SEARCH_BUDGET" (trimmed? (number Decimal.max64)) = some none ∨
  e.says? "SKIP_EXISTING" (trimmed? flag) = some none ∨
  e.says? "DEADLINE_MULTIPLIER" (trimmed? (number Decimal.max32)) = some none ∨
  e.says? "POLL_INTERVAL" (trimmed? (number Decimal.max64)) = some none ∨
  e.says? "MONITOR_ENABLED" (trimmed? flag) = some none ∨
  e.says? "LOG_LEVEL" LogLevel.read? = some none ∨
  e.says? "LOG_FORMAT" LogFormat.read? = some none

namespace SettingsError

variable {β : Type} {x : Except SettingsError α} {f : α → Except SettingsError β} {err : SettingsError}

/-- Whether it is the fault of a variable. -/
def OfVariable (err : SettingsError) : Prop := ∃ what, err = .variable what

/-- Whether it is the fault of a setting that is refused. -/
def OfDomain (err : SettingsError) : Prop := ∃ name what, err = .domain name what

/-- Whether a step fails in this way alone. -/
def Fails (P : SettingsError → Prop) (x : Except SettingsError α) : Prop :=
  ∀ err, x = .error err → P err

theorem Fails.ok {P : SettingsError → Prop} (a : α) : Fails P (.ok a) := nofun

theorem Fails.bind {P : SettingsError → Prop} (hx : Fails P x) (hf : ∀ a, Fails P (f a)) :
    Fails P (x >>= f) := by
  intro err h
  cases x with
  | error err' => exact hx err (Except.error.inj h ▸ rfl)
  | ok a => exact hf a err h

theorem fails_demand (holds : Bool) (domain what : String) :
    Fails OfDomain (demand holds domain what) := by
  intro err h
  cases holds with
  | true => cases h
  | false => exact ⟨domain, what, (Except.error.inj h).symm⟩

end SettingsError

open SettingsError

theorem Settings.fails_check (s : Settings) : Fails OfDomain s.check := by
  have hplan : Fails OfDomain s.plan.check :=
    (fails_demand _ _ _).bind fun _ => (fails_demand _ _ _).bind fun _ => (fails_demand _ _ _).bind fun _ =>
      (fails_demand _ _ _).bind fun _ => fails_demand _ _ _
  have htool : Fails OfDomain s.execution.tool.check := by
    refine (fails_demand _ _ _).bind fun _ => ?_
    split
    · exact fun err h => ⟨_, _, (Except.error.inj h).symm⟩
    · exact .ok ()
  have hexecution : Fails OfDomain s.execution.check :=
    (fails_demand _ _ _).bind fun _ => (fails_demand _ _ _).bind fun _ => (fails_demand _ _ _).bind fun _ =>
      (fails_demand _ _ _).bind fun _ => htool
  have htarget : ∀ t : LogTarget, Fails OfDomain t.check := fun t => by
    cases t with
    | console level => exact .ok ()
    | file path level rotation => exact fails_demand _ _ _
  have htargets : ∀ ts : List LogTarget, Fails OfDomain (ts.forM LogTarget.check) := fun ts => by
    induction ts with
    | nil => exact .ok ()
    | cons t ts ih => exact (htarget t).bind fun _ => ih
  exact hplan.bind fun _ => hexecution.bind fun _ => (fails_demand _ _ _).bind fun _ =>
    ((fails_demand _ _ _).bind fun _ => fails_demand _ _ _).bind fun _ => (fails_demand _ _ _).bind fun _ =>
      (htargets _).bind fun _ => fails_demand _ _ _

namespace Environment

variable (e : Environment) (name : String) (fallback : α)

theorem fails_parse (read : List Char → Except String α) :
    Fails OfVariable (e.parse name fallback read) := by
  intro err h
  rw [parse] at h
  split at h
  · cases h
  · next raw _ =>
    cases hread : read (Text.trimChars raw.toList) with
    | ok a => simp [hread, Except.mapError] at h
    | error why =>
      simp only [hread, Except.mapError, Except.error.injEq] at h
      exact ⟨_, h.symm⟩

theorem exists_parse_eq_ok_iff (read : List Char → Except String α) :
    (∃ a, e.parse name fallback read = .ok a) ↔ e.says? name (trimmed? read) ≠ some none := by
  rw [parse, says?]
  cases e.get? name with
  | none => simp
  | some raw =>
    cases hread : read (Text.trimChars raw.toList) <;>
      simp [hread, trimmed?, Except.mapError, Except.toOption]

theorem fails_choice (read? : String → Option α) : Fails OfVariable (e.choice name fallback read?) := by
  intro err h
  rw [choice] at h
  split at h
  · cases h
  · split at h
    · cases h
    · exact ⟨_, (Except.error.inj h).symm⟩

theorem exists_choice_eq_ok_iff (read? : String → Option α) :
    (∃ a, e.choice name fallback read? = .ok a) ↔ e.says? name read? ≠ some none := by
  rw [choice, says?]
  cases e.get? name with
  | none => simp
  | some raw => cases hread : read? raw <;> simp [hread]

end Environment

theorem Settings.fails_override (s : Settings) (e : Environment) : Fails OfVariable (s.override e) :=
  (e.fails_parse _ _ _).bind fun _ => (e.fails_parse _ _ _).bind fun _ =>
    (e.fails_parse _ _ _).bind fun _ => (e.fails_parse _ _ _).bind fun _ =>
      (e.fails_parse _ _ _).bind fun _ => (e.fails_parse _ _ _).bind fun _ =>
      (e.fails_choice _ _ _).bind fun _ => (e.fails_choice _ _ _).bind fun _ => .ok _

/-- The variables can be put in exactly if each one that is set can be read. -/
theorem Settings.exists_override_eq_ok_iff (s : Settings) (e : Environment) :
    (∃ s', s.override e = .ok s') ↔ ¬e.Unreadable := by
  simp only [Settings.override, bind_eq_ok, Environment.Unreadable, not_or, ← ne_eq]
  constructor
  · rintro ⟨s', runs, hruns, budget, hbudget, skip, hskip, multiplier, hmultiplier, poll, hpoll, enabled,
      henabled, level, hlevel, format, hformat, -⟩
    exact ⟨(e.exists_parse_eq_ok_iff ..).mp ⟨_, hruns⟩,
      (e.exists_parse_eq_ok_iff ..).mp ⟨_, hbudget⟩, (e.exists_parse_eq_ok_iff ..).mp ⟨_, hskip⟩,
      (e.exists_parse_eq_ok_iff ..).mp ⟨_, hmultiplier⟩, (e.exists_parse_eq_ok_iff ..).mp ⟨_, hpoll⟩,
      (e.exists_parse_eq_ok_iff ..).mp ⟨_, henabled⟩, (e.exists_choice_eq_ok_iff ..).mp ⟨_, hlevel⟩,
      (e.exists_choice_eq_ok_iff ..).mp ⟨_, hformat⟩⟩
  · rintro ⟨hruns, hbudget, hskip, hmultiplier, hpoll, henabled, hlevel, hformat⟩
    obtain ⟨runs, hruns⟩ := (e.exists_parse_eq_ok_iff _ s.plan.runsPerEndpoint _).mpr hruns
    obtain ⟨budget, hbudget⟩ := (e.exists_parse_eq_ok_iff _ s.plan.searchBudget _).mpr hbudget
    obtain ⟨skip, hskip⟩ := (e.exists_parse_eq_ok_iff _ s.plan.skipExisting _).mpr hskip
    obtain ⟨multiplier, hmultiplier⟩ :=
      (e.exists_parse_eq_ok_iff _ s.execution.deadlineMultiplier _).mpr hmultiplier
    obtain ⟨poll, hpoll⟩ := (e.exists_parse_eq_ok_iff _ s.monitor.pollInterval _).mpr hpoll
    obtain ⟨enabled, henabled⟩ := (e.exists_parse_eq_ok_iff _ s.monitor.enabled _).mpr henabled
    obtain ⟨level, hlevel⟩ := (e.exists_choice_eq_ok_iff _ s.logging.level _).mpr hlevel
    obtain ⟨format, hformat⟩ := (e.exists_choice_eq_ok_iff _ s.logging.format _).mpr hformat
    exact ⟨_, runs, hruns, budget, hbudget, skip, hskip, multiplier, hmultiplier, poll, hpoll, enabled,
      henabled, level, hlevel, format, hformat, rfl⟩

/-- Settings that are completed are refused for a variable exactly if one cannot be read. -/
theorem Settings.exists_complete_eq_variable_iff (s : Settings) (e : Environment) :
    (∃ what, s.complete e = .error (.variable what)) ↔ e.Unreadable := by
  rw [← not_iff_not, ← s.exists_override_eq_ok_iff e, complete]
  cases hs : s.override e with
  | ok s' =>
    simp only [Except.ok.injEq, exists_eq', iff_true]
    rintro ⟨what, h⟩
    have hcheck : Fails OfDomain (s'.check >>= fun _ => .ok s') := s'.fails_check.bind fun _ => .ok s'
    obtain ⟨name, what', h'⟩ := hcheck _ h
    cases h'
  | error err =>
    obtain ⟨what, rfl⟩ := s.fails_override e err hs
    simp [bind, Except.bind]

/-! ### Every layer -/

theorem Settings.override_of_complete {s s' : Settings} {e : Environment} (h : s.complete e = .ok s') :
    s.override e = .ok s' := by
  obtain ⟨s₁, hs₁, h⟩ := bind_eq_ok.mp h
  obtain ⟨-, -, h⟩ := bind_eq_ok.mp h
  rw [hs₁, Except.ok.inj h]

theorem RunOverrides.apply_eq_ok {o : RunOverrides} {s s' : Settings} :
    o.apply s = .ok s' ↔ s' = o.put s ∧ s'.check = .ok () := by
  rw [apply, bind_eq_ok]
  constructor
  · rintro ⟨⟨⟩, hcheck, h⟩
    obtain rfl := Except.ok.inj h
    exact ⟨rfl, hcheck⟩
  · rintro ⟨rfl, hcheck⟩
    exact ⟨(), hcheck, rfl⟩

theorem Settings.layered_apply {d? : Option Document} {e : Environment} {o : RunOverrides}
    {s₀ s s' : Settings} (hs₀ : s₀.Layered d? .unset .none) (hs : s₀.complete e = .ok s)
    (hs' : o.apply s = .ok s') : s'.Layered d? e o ∧ s'.check = .ok () := by
  obtain ⟨rfl, hcheck⟩ := RunOverrides.apply_eq_ok.mp hs'
  exact ⟨(hs₀.override (override_of_complete hs)).put o, hcheck⟩

/-- Settings that are loaded and put under the command line are decided layer by layer and pass every
check.  Of a text that describes settings the loading is refused for a variable exactly if one that is set
cannot be read. -/
theorem Settings.decided_by_layers :
    (∀ (content : ByteArray) (e : Environment) (o : RunOverrides) (s s' : Settings),
      ofFile content e = .ok s → o.apply s = .ok s' →
        ∃ text d?, String.fromUTF8? content = some text ∧ Document.ofText? text = some d? ∧
          s'.Layered d? e o ∧ s'.check = .ok ()) ∧
    (∀ (e : Environment) (o : RunOverrides) (s s' : Settings), ofEnvironment e = .ok s →
      o.apply s = .ok s' → s'.Layered none e o ∧ s'.check = .ok ()) ∧
    ∀ (content : ByteArray) (e : Environment) (text : String) (s₀ : Settings),
      String.fromUTF8? content = some text → ofText? text = some s₀ →
        ((∃ what, ofFile content e = .error (.variable what)) ↔ e.Unreadable) := by
  refine ⟨fun content e o s s' hs hs' => ?_, fun e o s s' => layered_apply layered_builtIn,
    fun content e text s₀ htext hs₀ => ?_⟩
  · rw [ofFile] at hs
    split at hs
    · cases hs
    · next text htext =>
      split at hs
      · next s₀ hs₀ =>
        obtain ⟨d?, hd, hlayered⟩ := layered_ofText hs₀
        exact ⟨text, d?, htext, hd, layered_apply hlayered hs hs'⟩
      · cases hs
  · rw [ofFile, htext]
    dsimp only
    rw [hs₀]
    exact s₀.exists_complete_eq_variable_iff e

/-- A text with settings of the plan and of the log. -/
def layeredContent : ByteArray :=
  ("benchmark: \x7bruns_per_endpoint: 3, search_budget_seconds: 90, inter_run_pause: 1\x7d\n" ++
    "logging: \x7blevel: warn\x7d\n").toUTF8

/-- Variables of which one is also in the text and one on the command line. -/
def layeredVariables : Environment :=
  .standard [("GENBENCH_RUNS", " 7 "), ("GENBENCH_SEARCH_BUDGET", "45"), ("GENBENCH_LOG_LEVEL", "ERROR")]

/-- A command line with a budget. -/
def layeredOverrides : RunOverrides := { RunOverrides.none with budget := some 30 }

/-- The settings of the text. -/
def layeredText : Settings :=
  { Settings.builtIn with
    plan := { PlanSettings.builtIn with runsPerEndpoint := 3, searchBudget := 90, interRunPause := 1 }
    logging := { LogSettings.builtIn with level := .warn } }

/-- The settings with the variables put in. -/
def layeredLoaded : Settings :=
  { layeredText with
    plan := { layeredText.plan with runsPerEndpoint := 7, searchBudget := 45 }
    logging := { layeredText.logging with level := .error } }

theorem Settings.decided_by_layers_sample :
    ofFile layeredContent layeredVariables = .ok layeredLoaded ∧
      layeredOverrides.apply layeredLoaded = .ok (layeredOverrides.put layeredLoaded) ∧
      (∃ text d?, String.fromUTF8? layeredContent = some text ∧ Document.ofText? text = some d? ∧
        (layeredOverrides.put layeredLoaded).Layered d? layeredVariables layeredOverrides ∧
        (layeredOverrides.put layeredLoaded).check = .ok ()) ∧
      (layeredOverrides.put layeredLoaded).plan =
        ⟨⟨"config/endpoints.csv"⟩, ⟨"results"⟩, 7, 30, 1, 10, false⟩ ∧
      ∃ what, ofFile layeredContent (.standard [("GENBENCH_RUNS", "many")]) = .error (.variable what) := by
  have hread : (String.fromUTF8? layeredContent).bind ofText? = some layeredText := by decide +kernel
  obtain ⟨text, htext, hsettings⟩ := Option.bind_eq_some_iff.mp hread
  have hcheck : ∀ p : PlanSettings, ∀ l : LogSettings, p.check = .ok () → l.check = .ok () →
      ({ Settings.builtIn with plan := p, logging := l }).check = .ok () := fun p l hp hl =>
    check_eq_ok.mpr ⟨hp, ExecutionSettings.check_builtIn, rfl, rfl, ReportSettings.check_builtIn, hl⟩
  have hloaded : ofFile layeredContent layeredVariables = .ok layeredLoaded := by
    have hoverride : layeredText.override layeredVariables = .ok layeredLoaded := by rfl
    rw [ofFile, htext]
    dsimp only
    rw [hsettings]
    exact bind_eq_ok.mpr ⟨_, hoverride, bind_eq_ok.mpr ⟨(), hcheck _ _ rfl rfl, rfl⟩⟩
  have happly := RunOverrides.apply_eq_ok.mpr ⟨rfl, hcheck (layeredOverrides.put layeredLoaded).plan
    layeredLoaded.logging rfl rfl⟩
  exact ⟨hloaded, happly, decided_by_layers.1 _ _ _ _ _ hloaded happly, rfl,
    (decided_by_layers.2.2 _ _ _ _ htext hsettings).mpr (.inl (by rfl))⟩

end SuiteBench
