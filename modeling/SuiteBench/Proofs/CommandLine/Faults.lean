import SuiteBench.Proofs.CommandLine.LogFiles
import SuiteBench.Proofs.CommandLine.Repetition
import SuiteBench.Proofs.Endpoint.Rows
import SuiteBench.Proofs.Settings.Check

/-!
# Proofs.CommandLine.Faults — benchmarks that cannot begin

A benchmark needs settings that pass their check, a catalog that can be read, an endpoint of this catalog
and programs that are found; a single run also needs a number.  All of this is looked at before anything
is made, cleared or started, so that a command that lacks one of them leaves nothing but log lines.
-/

namespace SuiteBench

open CommandLine

/-- A harness refuses a run without a number before anything is made. -/
theorem Harness.runSingle_zero (h : Harness) {id : Nat} {e : Endpoint}
    (hl : h.catalog.lookup id = .ok e) (budget : Nat) (x : Session) :
    h.runSingle id 0 budget x = (.error .runZero, x) := by
  rw [runSingle, hl]
  exact if_pos rfl

namespace CommandLine.Site

variable {site : Site} {s : Settings} {o : RunOverrides} {endpoint : Option Nat} {t : Tree} {w : World}
  {c : Command} {tool : Tool} {operator : Operator} {probe : Nat → Option (ResourceSample Float)}

/-- The site with another tool, another operator and other readings. -/
def equipped (site : Site) (tool : Tool) (operator : Operator)
    (probe : Nat → Option (ResourceSample Float)) : Site :=
  { site with tool, operator, probe }

/-- What keeps a benchmark from beginning. -/
inductive Unready (site : Site) (s : Settings) (o : RunOverrides) (endpoint : Option Nat) (t : Tree) : Prop
  /-- The settings with the command line put in do not pass their check. -/
  | settings {e : SettingsError} (h : (o.put s).check = .error e)
  /-- The catalog is not there or cannot be read. -/
  | catalog {e : CatalogError} (h : site.catalog (o.put s) t = .error e)
  /-- The catalog does not have the endpoint. -/
  | endpoint {catalog : Catalog} {id : Nat} (h : site.catalog (o.put s) t = .ok catalog)
      (hid : endpoint = some id) (hmem : id ∉ catalog.endpoints.map (·.id))
  /-- A program that is needed is not found. -/
  | program {p : String} (h : p ∈ (o.put s).execution.binariesToCheck)
      (hp : Programs.find? t site.cwd (site.variableOf "PATH") p = none)

/-- What keeps a command that starts the tool from beginning. -/
inductive Fault (site : Site) (s : Settings) (t : Tree) : Command → Prop
  | run {o : RunOverrides} (h : site.Unready s o o.endpoint t) : Fault site s t (.run o)
  | runOne {endpoint run : Nat} {budget : Option Nat} {output : Option Path}
      (h : site.Unready s { RunOverrides.none with budget, output } (some endpoint) t) :
      Fault site s t (.runOne endpoint run budget output)
  | runZero {endpoint : Nat} {budget : Option Nat} {output : Option Path} :
      Fault site s t (.runOne endpoint 0 budget output)

/-! ### What is looked at first -/

/-- The settings and the catalog of a benchmark that can begin. -/
def readyInputs (site : Site) (s : Settings) (o : RunOverrides) (endpoint : Option Nat) (t : Tree) :
    Except (List String) (Settings × Catalog) := do
  let (s, c) ← site.benchmarkInputs s o t
  let _ ← (c.select endpoint).mapError fun e => [e.message]
  match Programs.missing? t site.cwd (site.variableOf "PATH") s.execution.binariesToCheck with
  | none => return (s, c)
  | some p => throw (HarnessError.dependency p).chain

/-- Whether a harness is ready does not depend on the tool that it is to start. -/
theorem readyHarness_equipped : (site.equipped tool operator probe).readyHarness s o endpoint t =
    (site.readyInputs s o endpoint t).map
      fun x => (x.1, (site.equipped tool operator probe).harness x.1 x.2) := by
  have hinputs : (site.equipped tool operator probe).benchmarkInputs s o t =
    site.benchmarkInputs s o t := rfl
  rw [readyHarness, readyInputs, hinputs]
  cases site.benchmarkInputs s o t with
  | error e => rfl
  | ok x =>
    obtain ⟨s', catalog⟩ := x
    have hsettings : ((site.equipped tool operator probe).harness s' catalog).executor.settings =
      s'.execution := rfl
    simp only [bind, Except.bind]
    cases catalog.select endpoint with
    | error e => rfl
    | ok es =>
      have hmissing : Programs.missing? t (site.equipped tool operator probe).cwd
        ((site.equipped tool operator probe).variableOf "PATH") s'.execution.binariesToCheck =
          Programs.missing? t site.cwd (site.variableOf "PATH") s'.execution.binariesToCheck := rfl
      simp only [Except.mapError, Harness.preflight, hsettings, hmissing]
      cases Programs.missing? t site.cwd (site.variableOf "PATH") s'.execution.binariesToCheck <;> rfl

theorem benchmarkInputs_eq_ok {x : Settings × Catalog} (h : site.benchmarkInputs s o t = .ok x) :
    (o.put s).check = .ok () ∧ x.1 = o.put s ∧ site.catalog (o.put s) t = .ok x.2 := by
  rw [benchmarkInputs, RunOverrides.apply] at h
  simp only [bind, Except.bind, pure, Except.pure] at h
  cases hc : (o.put s).check with
  | error e => 
    rw [hc] at h
    cases h
  | ok u =>
    rw [hc] at h
    simp only [Except.mapError] at h
    cases hcat : site.catalog (o.put s) t with
    | error e =>
      rw [hcat] at h
      cases h
    | ok catalog =>
      rw [hcat] at h
      cases h
      exact ⟨rfl, rfl, rfl⟩

theorem readyInputs_eq_ok {x : Settings × Catalog} (h : site.readyInputs s o endpoint t = .ok x) :
    (o.put s).check = .ok () ∧ x.1 = o.put s ∧ site.catalog (o.put s) t = .ok x.2 ∧
      (∃ es, x.2.select endpoint = .ok es) ∧ Programs.missing? t site.cwd (site.variableOf "PATH")
        (o.put s).execution.binariesToCheck = none := by
  rw [readyInputs] at h
  simp only [bind, Except.bind, pure, Except.pure] at h
  cases hi : site.benchmarkInputs s o t with
  | error e => 
    rw [hi] at h
    cases h
  | ok y =>
    obtain ⟨hcheck, hput, hcatalog⟩ := benchmarkInputs_eq_ok hi
    rw [hi] at h
    cases hs : y.2.select endpoint with
    | error e =>
      simp only [hs] at h
      cases h
    | ok es =>
      simp only [hs, Except.mapError] at h
      split at h
      · next hp =>
        cases h
        exact ⟨hcheck, hput, hcatalog, ⟨es, hs⟩, hput ▸ hp⟩
      · cases h

/-- A loaded catalog has every id that selects something. -/
theorem mem_of_lookup {catalog : Catalog} {id : Nat} {e : Endpoint} (hc : site.catalog s t = .ok catalog)
    (h : catalog.lookup id = .ok e) : id ∈ catalog.endpoints.map (·.id) := by
  rw [Site.catalog] at hc
  split at hc
  · cases hc
  · rw [Catalog.ids_ofBytes hc, List.mem_range'_1]
    have := Catalog.bounds_of_lookup h
    omega

theorem not_ready (h : site.Unready s o endpoint t) (x : Settings × Catalog) :
    site.readyInputs s o endpoint t ≠ .ok x := by
  intro hready
  obtain ⟨hcheck, -, hcatalog, ⟨es, hselect⟩, hprograms⟩ := readyInputs_eq_ok hready
  cases h with
  | settings h => cases h.symm.trans hcheck
  | catalog h => cases h.symm.trans hcatalog
  | endpoint h hid hmem =>
    cases h.symm.trans hcatalog
    subst hid
    rw [Catalog.select] at hselect
    cases hl : x.2.lookup _ with
    | error e =>
      rw [hl] at hselect
      cases hselect
    | ok e => exact hmem (mem_of_lookup hcatalog hl)
  | program hp hnone =>
    have hfound := List.find?_eq_none.mp hprograms _ hp
    exact hfound (by rw [hnone]; rfl)

/-- What is not ready fails before anything is done, whichever the tool is. -/
theorem error_of_unready (h : site.Unready s o endpoint t) : ∃ chain, ∀ tool operator probe,
    (site.equipped tool operator probe).readyHarness s o endpoint t = .error chain := by
  cases hi : site.readyInputs s o endpoint t with
  | error chain => exact ⟨chain, fun _ _ _ => by rw [readyHarness_equipped, hi]; rfl⟩
  | ok x => exact absurd hi (not_ready h x)

/-! ### Commands that fail -/

theorem run_of_error {chain : List String} (h : site.readyHarness s o o.endpoint w.tree = .error chain) :
    site.run s o w = (.failed chain [], w) := by
  rw [run, h]

theorem runOne_of_error {id run : Nat} {chain : List String}
    (h : site.readyHarness s o (some id) w.tree = .error chain) :
    site.runOne s id run o w = (.failed chain [], w) := by
  rw [runOne, h]

/-- A single run that is ready but has no number fails, whichever the tool is. -/
theorem runOne_zero {id : Nat} {x : Settings × Catalog}
    (h : site.readyInputs s o (some id) t = .ok x) (ht : w.tree = t) :
    (site.equipped tool operator probe).runOne s id 0 o w = (.failed HarnessError.runZero.chain [], w) := by
  obtain ⟨-, -, -, ⟨es, hselect⟩, -⟩ := readyInputs_eq_ok h
  rw [runOne, ht, readyHarness_equipped, h]
  cases hl : x.2.lookup id with
  | error e =>
    rw [Catalog.select, hl] at hselect
    cases hselect
  | ok e =>
    have hzero := Harness.runSingle_zero ((site.equipped tool operator probe).harness x.1 x.2) hl
      x.1.plan.searchBudget (.start w)
    simp only [Except.map, hzero]
    rfl

/-- A command with a fault fails and does nothing, whichever the tool is. -/
theorem perform_of_fault (hf : site.Fault s t c) : ∃ chain, ∀ tool operator probe w, w.tree = t →
    (site.equipped tool operator probe).perform s (some c) w = (.failed chain [], w) := by
  cases hf with
  | run h =>
    obtain ⟨chain, hchain⟩ := error_of_unready h
    exact ⟨chain, fun _ _ _ w ht => run_of_error (ht ▸ hchain _ _ _)⟩
  | runOne h =>
    obtain ⟨chain, hchain⟩ := error_of_unready h
    exact ⟨chain, fun _ _ _ w ht => runOne_of_error (ht ▸ hchain _ _ _)⟩
  | @runZero id budget output =>
    -- a single run that is not ready fails before its number is looked at
    cases hi : site.readyInputs s { RunOverrides.none with budget, output } (some id) t with
    | ok x => exact ⟨_, fun _ _ _ w ht => runOne_zero hi ht⟩
    | error chain =>
      refine ⟨chain, fun _ _ _ w ht => runOne_of_error ?_⟩
      rw [ht, readyHarness_equipped, hi]
      rfl

/-- What the program logs before it carries out a command. -/
def startingLine : String := programName ++ " " ++ programVersion ++ " starting"

/-- A request for a command with a fault opens the log files and closes them again. -/
theorem carryOut_of_fault {r : Request} {w₁ : World} {files : List LogFile}
    (hs : site.settings w.tree r.config = .ok s) (hc : r.command = some c)
    (hl : openLogs site.cwd s.logging.targets w = (.ok files, w₁)) (hf : site.Fault s w₁.tree c) :
    ∃ chain filter, ∀ tool operator probe, (site.equipped tool operator probe).carryOut r w =
      (.failed chain [], closeLogs filter files (w₁.note .info startingLine)) := by
  obtain ⟨chain, hchain⟩ := perform_of_fault hf
  refine ⟨chain, LogFilter.choose (r.logLevel.getD s.logging.level.name) (site.variableOf "RUST_LOG"),
    fun tool operator probe => ?_⟩
  have hs' : (site.equipped tool operator probe).settings w.tree r.config = .ok s := hs
  have hl' : openLogs (site.equipped tool operator probe).cwd s.logging.targets w = (.ok files, w₁) := hl
  have hperform := hchain tool operator probe (w₁.note .info startingLine) rfl
  rw [startingLine] at hperform
  rw [carryOut, hs']
  simp only [hl', hc, hperform]
  rfl

/-- A command that starts the tool but cannot begin fails without starting it: whichever the tool is, the
command itself leaves the world as it is, and the whole program does nothing to the tree but log.  So
nothing differs in the results directory unless a log file is to stand in it. -/
theorem fails_untouched {r : Request} {w₁ : World} {files : List LogFile}
    (hs : site.settings w.tree r.config = .ok s) (hc : r.command = some c)
    (hl : openLogs site.cwd s.logging.targets w = (.ok files, w₁)) (hf : site.Fault s w₁.tree c) :
    (∃ chain, ∀ tool operator probe v, v.tree = w₁.tree →
      (site.equipped tool operator probe).perform s (some c) v = (.failed chain [], v)) ∧
    ∃ chain w', (∀ tool operator probe,
        (site.equipped tool operator probe).carryOut r w = (.failed chain [], w')) ∧
      w.tree.Logged (logLocations site.cwd w.now s.logging.targets) w'.tree ∧
      ∀ d, (∀ l ∈ logLocations site.cwd w.now s.logging.targets, ¬ d <+: l) →
        ∀ m, d <+: m → w'.tree.find? m = w.tree.find? m := by
  obtain ⟨chain, filter, hfail⟩ := carryOut_of_fault hs hc hl hf
  obtain ⟨hlocations, hopened⟩ := logged_openLogs hl
  have hclosed := logged_closeLogs filter files (w₁.note .info startingLine)
  have hlogged := hopened.trans hclosed
  rw [hlocations] at hlogged
  exact ⟨perform_of_fault hf, chain, _, hfail, hlogged, fun d hd m hm => hlogged.find?_eq hd hm⟩

end CommandLine.Site

/-! ### A sample -/

/-- A configuration that names a log file. -/
def loggingTree (path : String) : Tree :=
  ⟨[(["c.yaml"], .file ("logging: \x7btargets: [\x7btype: file, path: " ++ path ++ "\x7d]\x7d").toUTF8
    false)]⟩

/-- The built-in settings with a log file. -/
def loggingSettings (path : String) : Settings :=
  { Settings.builtIn with logging := { LogSettings.builtIn with targets := [.file path none .never] } }

/-- A benchmark under this configuration. -/
def loggingRequest : Request := ⟨some ⟨"c.yaml"⟩, none, some (.run .none)⟩

/-- The world with this configuration. -/
def loggingWorld (path : String) : World := .start (loggingTree path) ⟨1772359200, 0⟩

/-- Log files beside the results and among them. -/
def logPaths : List String := ["logs/run.log", "results/run.log"]

/-- Without variables only the check is left of settings that are completed. -/
theorem complete_of_check {s : Settings} (h : s.check = .ok ()) :
    s.complete (.standard []) = .ok s := by
  have hoverride : s.override (.standard []) = .ok s := rfl
  rw [Settings.complete, hoverride]
  simp only [bind, Except.bind, h]
  rfl

theorem check_loggingSettings {p : String} (h : Text.isBlankText p = false) :
    (loggingSettings p).check = .ok () := by
  have htarget : (LogTarget.file p none .never).check = .ok () := by
    rw [LogTarget.check, h]
    rfl
  refine Settings.check_eq_ok.mpr ⟨rfl, ExecutionSettings.check_builtIn, rfl, rfl,
    ReportSettings.check_builtIn, ?_⟩
  rw [LogSettings.check, SettingsError.check_bind_eq_ok, SettingsError.demand_eq_ok]
  refine ⟨?_, rfl⟩
  change (LogTarget.file p none .never).check >>= (fun _ => .ok ()) = .ok ()
  rw [htarget]
  rfl

/-- The content of the configuration. -/
def loggingContent (path : String) : ByteArray :=
  ("logging: \x7btargets: [\x7btype: file, path: " ++ path ++ "\x7d]\x7d").toUTF8

theorem settings_loggingTree : ∀ p ∈ logPaths,
    sampleSite.settings (loggingTree p) loggingRequest.config = .ok (loggingSettings p) := by
  have hread : ∀ p ∈ logPaths, Text.isBlankText p = false ∧
      (String.fromUTF8? (loggingContent p)).bind Settings.ofText? = some (loggingSettings p) := by
    decide +kernel
  intro p hp
  obtain ⟨hblank, hread⟩ := hread p hp
  obtain ⟨text, htext, hsettings⟩ := Option.bind_eq_some_iff.mp hread
  have hfile : Settings.ofFile (loggingContent p) (.standard []) = .ok (loggingSettings p) := by
    rw [Settings.ofFile, htext]
    dsimp only
    rw [hsettings]
    exact complete_of_check (check_loggingSettings hblank)
  exact congrArg (Except.mapError _) hfile

/-- The log files are opened, and there is no catalog. -/
theorem computed_loggingWorld : ∀ p ∈ logPaths,
    (openLogs [] (loggingSettings p).logging.targets (loggingWorld p)).1.toOption.isSome = true ∧
      (sampleSite.catalog (loggingSettings p)
        (openLogs [] (loggingSettings p).logging.targets (loggingWorld p)).2.tree).toOption = none := by
  decide +kernel

theorem fault_loggingWorld {p : String} (hp : p ∈ logPaths) : ∃ files w₁,
    sampleSite.settings (loggingTree p) loggingRequest.config = .ok (loggingSettings p) ∧
      openLogs sampleSite.cwd (loggingSettings p).logging.targets (loggingWorld p) = (.ok files, w₁) ∧
      sampleSite.Fault (loggingSettings p) w₁.tree (.run .none) := by
  have hs := settings_loggingTree p hp
  obtain ⟨hl, hc⟩ := computed_loggingWorld p hp
  rw [Option.isSome_iff_exists] at hl
  obtain ⟨files, hfiles⟩ := hl
  have hlogs : openLogs sampleSite.cwd (loggingSettings p).logging.targets (loggingWorld p) =
      (.ok files, (openLogs [] (loggingSettings p).logging.targets (loggingWorld p)).2) :=
    Prod.ext (Store.toOption_eq_some_iff.mp hfiles) rfl
  refine ⟨files, _, hs, hlogs, .run ?_⟩
  cases hcat : sampleSite.catalog (loggingSettings p)
      (openLogs [] (loggingSettings p).logging.targets (loggingWorld p)).2.tree with
  | ok c => simp [hcat, Except.toOption] at hc
  | error e => exact .catalog hcat

/-- Without a catalog a benchmark that logs beside the results leaves them alone. -/
theorem fails_untouched_beside : ∃ files w₁,
    sampleSite.settings (loggingTree "logs/run.log") loggingRequest.config =
        .ok (loggingSettings "logs/run.log") ∧
      openLogs sampleSite.cwd (loggingSettings "logs/run.log").logging.targets
        (loggingWorld "logs/run.log") = (.ok files, w₁) ∧
      sampleSite.Fault (loggingSettings "logs/run.log") w₁.tree (.run .none) ∧
      ∃ chain w', (∀ tool operator probe, (sampleSite.equipped tool operator probe).carryOut
          loggingRequest (loggingWorld "logs/run.log") = (.failed chain [], w')) ∧
        ∀ m, ["results"] <+: m → w'.tree.find? m = (loggingTree "logs/run.log").find? m := by
  obtain ⟨files, w₁, hs, hl, hf⟩ := fault_loggingWorld (p := "logs/run.log") (by decide)
  obtain ⟨-, chain, w', hfail, -, hsame⟩ :=
    Site.fails_untouched (r := loggingRequest) (w := loggingWorld "logs/run.log") hs rfl hl hf
  exact ⟨files, w₁, hs, hl, hf, chain, w', hfail, hsame ["results"] (by decide)⟩

/-- A benchmark that cannot begin may still make something in the results directory: a log file. -/
theorem fails_not_untouched : ¬ ∀ (site : Site) (r : Request) (o : RunOverrides) (w w₁ : World)
    (s : Settings) (files : List LogFile), site.settings w.tree r.config = .ok s →
    r.command = some (.run o) → openLogs site.cwd s.logging.targets w = (.ok files, w₁) →
    site.Fault s w₁.tree (.run o) →
    ∀ m, (ResultsDir.ofPath site.cwd (o.put s).plan.resultsDir).location <+: m →
      (site.carryOut r w).2.tree.find? m = w.tree.find? m := by
  intro h
  obtain ⟨files, w₁, hs, hl, hf⟩ := fault_loggingWorld (p := "results/run.log") (by decide)
  have hsame := h sampleSite loggingRequest .none (loggingWorld "results/run.log") w₁ _ files hs rfl hl hf
    ["results", "run.log"] (by decide)
  -- the log file is made when it is opened, and closing it does not take it away
  have hmade : (openLogs sampleSite.cwd (loggingSettings "results/run.log").logging.targets
      (loggingWorld "results/run.log")).2.tree.isFile ["results", "run.log"] = true := rfl
  rw [hl] at hmade
  obtain ⟨chain, filter, hfail⟩ := Site.carryOut_of_fault (r := loggingRequest)
    (w := loggingWorld "results/run.log") hs rfl hl hf
  have hclosed := logged_closeLogs filter files (w₁.note .info Site.startingLine)
  rw [show sampleSite.carryOut loggingRequest (loggingWorld "results/run.log") = _ from
    hfail sampleSite.tool sampleSite.operator sampleSite.probe] at hsame
  have hnone : (loggingTree "results/run.log").find? ["results", "run.log"] = none := rfl
  obtain ⟨c, x, hfile⟩ := Tree.isFile_iff.mp hmade
  rcases hclosed.kept _ _ hfile with hkept | ⟨-, _, _, _, -, hkept⟩ <;>
    cases hkept.symm.trans (hsame.trans hnone)

end SuiteBench
