import SuiteBench.CommandLine.Application
import SuiteBench.Proofs.Benchmark.Bookkeeping
import SuiteBench.Proofs.Benchmark.Resumption
import SuiteBench.Proofs.Log.Classifier
import SuiteBench.Proofs.Report.Counts

/-!
# Proofs.Benchmark.Outcomes — whether a run succeeded

A record says in several places how its run ended: by its exit code, its status, its diagnosis and its
message, and by whether the deadline killed it.  Under checked settings they agree on every record of
an attempt, however the tool ends and whatever it writes, so that a tally, which goes by the status,
and an aggregate, which goes by the exit code and the deadline, count the same runs.
-/

namespace SuiteBench

/-- Whether all that a record says about the end of its run agrees, under some settings. -/
structure RunRecord.Coherent (s : Settings) (r : RunRecord) : Prop where
  diagnosis : r.diagnosis = .noError ↔ r.exitCode = 0
  status : r.status = .success ↔ r.exitCode = 0
  success : r.ranWithoutError = true ↔ r.exitCode = 0
  deadline : r.timedOut = true →
    r.diagnosis = .timeout ∧ r.exitCode = s.execution.timeoutExitCode ∧ r.exitCode ≠ 0
  /-- The run falls under just one of the three ways to end. -/
  ending : [r.ranWithoutError, r.threwErrors, r.hungUp].count true = 1
  message : r.message = "" ↔ r.diagnosis = .noError
  length : r.message.length ≤ s.classifier.maxMessage ∧ s.classifier.maxMessage ≤ 500

namespace RunRecord

variable {r : RunRecord} {s : Settings}

theorem Coherent.isSuccess_eq (hr : r.Coherent s) : r.isSuccess = r.ranWithoutError := by
  rw [Bool.eq_iff_iff, isSuccess, beq_iff_eq, hr.status, hr.success]

/-- The message of a coherent record is stored in full. -/
theorem Coherent.stored_eq (hr : r.Coherent s) : r.stored = r := by
  have hfits : r.message.toList.length ≤ maxMessage := by
    rw [String.length_toList]
    exact hr.length.1.trans hr.length.2
  rw [stored, Text.truncate, List.take_of_length_le hfits, String.ofList_toList]

theorem count_endings (r : RunRecord) :
    [r.ranWithoutError, r.threwErrors, r.hungUp].count true = 1 := by
  simp only [ranWithoutError, threwErrors, hungUp, bne]
  cases r.exitCode == 0 <;> cases r.timedOut <;> rfl

end RunRecord

/-! ### The record of an attempt -/

namespace Executor

/-- The exit codes that an execution has, by the way in which its run ended. -/
inductive Exits (s : ExecutionSettings) : Int → Bool → Prop
  | unstarted : Exits s launchFailureCode false
  | ended (e : ToolEnding) : Exits s (exitCodeOf e) false
  | killed : Exits s s.timeoutExitCode true

theorem Exits.exitCode_of_timedOut {s : ExecutionSettings} {code : Int}
    (h : Exits s code true) : code = s.timeoutExitCode := by
  cases h
  rfl

theorem exits_execute {x : Executor} {e : Endpoint} {run budget : Nat} {dir : Location} {w : World}
    {y : Execution} (hy : (x.execute e run budget dir w).1 = .ok y) :
    Exits x.settings y.exitCode y.timedOut := by
  unfold execute at hy
  cases hprep : Step.run w.tree (x.prepareSteps dir) with
  | mk t failure =>
  rw [hprep] at hy
  cases failure with
  | some f => cases hy
  | none =>
    dsimp only at hy
    split at hy
    · cases hy
      exact .unstarted
    · split at hy
      · cases hy
        exact .ended _
      · cases hy
        exact .killed
      · cases hy

end Executor

namespace Harness

variable {h : Harness} {s : Settings}

/-- A record that was made of an execution is saved. -/
theorem record_eq_ok {x : Execution} {samples : List (ResourceSample Float)} {w : World}
    {r : RunRecord} (hr : (h.record x samples w).1 = .ok (some r)) :
    (∃ log, r = h.recordOf w.tree x log samples) ∧
      Step.run w.tree (Store.saveSteps h.results r) = ((h.record x samples w).2.tree, none) := by
  rw [record] at hr ⊢
  cases hl : logText w.tree x with
  | error f =>
    rw [hl] at hr
    cases hr
  | ok log =>
    simp only [hl] at hr ⊢
    cases hsave : Claims.save x.key h.results w.tree (h.recordOf w.tree x log samples) with
    | mk t f =>
      rw [hsave] at hr
      cases f with
      | some f => cases hr
      | none =>
        cases hr
        exact ⟨⟨log, rfl⟩, by simpa using (Store.claims_save_iff.mp hsave).2⟩

theorem attemptClear_eq_ok {e : Endpoint} {n budget : Nat} {w : World} {r : RunRecord}
    (ha : (h.attemptClear e n budget w).1 = .ok (some r)) :
    ∃ y w' log samples,
      h.executor.execute e n budget (h.results.runLocation ⟨e.id, n⟩) w = (.ok y, w') ∧
        r = h.recordOf w'.tree y log samples ∧
        Step.run w'.tree (Store.saveSteps h.results r) =
          ((h.attemptClear e n budget w).2.tree, none) := by
  simp only [attemptClear] at ha ⊢
  cases hy : h.executor.execute e n budget (h.results.runLocation ⟨e.id, n⟩) w with
  | mk y w' =>
  simp only [hy] at ha ⊢
  cases y with
  | ok y =>
    obtain ⟨⟨log, hr⟩, hsave⟩ := record_eq_ok ha
    exact ⟨y, w', log, _, rfl, hr, hsave⟩
  | error f =>
    -- an interrupt leaves no record, and everything else is an error
    cases f with
    | cancelled signal =>
      dsimp only at ha
      split at ha <;> cases ha
    | file f => cases ha
    | missingDependency p => cases ha

/-- A record that comes of an attempt was made of an execution of the tool, and was saved. -/
theorem attempt_eq_ok {e : Endpoint} {n budget : Nat} {x : Session} {r : RunRecord}
    (ha : (h.attempt e n budget x).1 = .ok (some r)) :
    ∃ w y w' log samples,
      h.executor.execute e n budget (h.results.runLocation ⟨e.id, n⟩) w = (.ok y, w') ∧
        r = h.recordOf w'.tree y log samples ∧
        Step.run w'.tree (Store.saveSteps h.results r) =
          ((h.attempt e n budget x).2.world.tree, none) := by
  rw [attempt] at ha ⊢
  cases hc : x.claims.claim (⟨e.id, n⟩ : RunKey).text ⟨e.id, n⟩ with
  | error f =>
    rw [hc] at ha
    cases ha
  | ok claims =>
    simp only [hc, attemptClaimed] at ha ⊢
    cases hd : h.discard ⟨e.id, n⟩ x.world with
    | mk w f =>
    simp only [hd] at ha ⊢
    cases f with
    | some f => cases ha
    | none => exact ⟨w, attemptClear_eq_ok ha⟩

/-- Where nothing is claimed, an attempt gives a record unless a signal interrupts the tool or files
cannot be read or written. -/
theorem attempt_outcome (h : Harness) (e : Endpoint) (n budget : Nat) {x : Session}
    (hx : x.claims = .none) :
    (∃ r, (h.attempt e n budget x).1 = .ok (some r)) ∨
      ((h.attempt e n budget x).1 = .ok none ∧
        ∃ w signal, h.discard ⟨e.id, n⟩ x.world = (w, none) ∧
          (h.executor.execute e n budget (h.results.runLocation ⟨e.id, n⟩) w).1 =
            .error (.cancelled signal)) ∨
      ∃ f, (h.attempt e n budget x).1 = .error f ∧ f.isFileError = true := by
  cases ha : (h.attempt e n budget x).1 with
  | error f => exact .inr (.inr ⟨f, rfl, h.attempt_error hx ha⟩)
  | ok a =>
    cases a with
    | some r => exact .inl ⟨r, rfl⟩
    | none =>
      obtain ⟨c, -, hc⟩ | ⟨w, f, -, hf, -⟩ | ⟨w, y, w', steps, f, hd, hy, -, -, hfin⟩ :=
        h.attempt_cases e n budget x
      · rw [hc] at ha
        cases ha
      · rw [hf] at ha
        cases ha
      · rw [ha] at hfin
        cases hfin with
        | discarded => exact .inr (.inl ⟨rfl, w, _, hd, congrArg Prod.fst hy⟩)

/-- A record of an execution is coherent: the checks keep a run that the deadline killed from having
the exit code of a good one, and the classifier says that there is no error by the exit code. -/
theorem coherent_recordOf (hs : s.check = .ok ())
    (hc : h.classifier = .builtIn s.classifier.maxMessage) {y : Execution}
    (hy : Executor.Exits s.execution y.exitCode y.timedOut) (t : Tree) (log : String)
    (samples : List (ResourceSample Float)) : (h.recordOf t y log samples).Coherent s := by
  obtain ⟨-, hexecution, -, hclassifier, -⟩ := Settings.check_eq_ok.mp hs
  have hcode := ExecutionSettings.timeoutExitCode_ne_zero hexecution
  have hroom := ClassifierSettings.bounds_of_check hclassifier
  have hsound := Log.Classifier.sound_builtIn hroom.1
  have hkilled : y.timedOut = true → y.exitCode = s.execution.timeoutExitCode := fun ht =>
    (ht ▸ hy).exitCode_of_timedOut
  have hquiet : y.exitCode = 0 → y.timedOut = false := fun h0 => by
    cases ht : y.timedOut with
    | false => rfl
    | true => exact absurd ((hkilled ht).symm.trans h0) hcode
  have hgood : (y.exitCode = 0 ∧ y.timedOut = false) ↔ y.exitCode = 0 :=
    ⟨And.left, fun h0 => ⟨h0, hquiet h0⟩⟩
  simp only [recordOf, hc]
  exact {
    diagnosis := (Log.Classifier.classify_noError_iff _ _ log hsound).trans hgood
    status := GenerationStatus.ofExitCode_eq_success_iff
    success := by simpa [RunRecord.ranWithoutError] using hgood
    deadline := fun ht => ⟨Log.Classifier.classify_deadline _ _ log hsound ht, hkilled ht,
      fun h0 => hcode ((hkilled ht).symm.trans h0)⟩
    ending := RunRecord.count_endings _
    message := Log.Classifier.classify_message_eq_empty_iff _ _ log hsound
    length := ⟨Log.Classifier.length_classify_message _ _ log hsound, hroom.2⟩ }

/-- Every record of an attempt under checked settings is coherent. -/
theorem coherent_attempt (hs : s.check = .ok ()) (hx : h.executor.settings = s.execution)
    (hc : h.classifier = .builtIn s.classifier.maxMessage) {e : Endpoint} {n budget : Nat}
    {x : Session} {r : RunRecord} (ha : (h.attempt e n budget x).1 = .ok (some r)) :
    r.Coherent s := by
  obtain ⟨w, y, w', log, samples, hy, rfl, -⟩ := attempt_eq_ok ha
  refine coherent_recordOf hs hc ?_ _ log samples
  rw [← hx]
  exact Executor.exits_execute (congrArg Prod.fst hy)

/-- The record of an attempt stands in the results directory. -/
theorem holds_attempt {e : Endpoint} {n budget : Nat} {x : Session} {r : RunRecord}
    (ha : (h.attempt e n budget x).1 = .ok (some r)) :
    Store.Holds h.results (h.attempt e n budget x).2.world.tree r := by
  obtain ⟨w, y, w', log, samples, -, -, hsave⟩ := attempt_eq_ok ha
  obtain ⟨-, -, hholds, -⟩ := Store.run_saveSteps hsave
  exact hholds

end Harness

/-! ### The records of a benchmark -/

namespace Settled

theorem sublist_keys (l : List Settled) :
    ((l.filterMap record?).map (·.key)).Sublist (l.map key) := by
  induction l with
  | nil => exact .slnil
  | cons x l ih =>
    cases x with
    | recorded r => exact ih.cons_cons _
    | skipped k => exact ih.cons _

end Settled

/-- What holds of every record of an attempt holds of all that were recorded along a course. -/
theorem Surroundings.keeps_records {σ ε : Type} {x : Surroundings σ ε} {Q : RunRecord → Prop}
    (hQ : ∀ e n s r, (x.attempt e n s).1 = .ok (some r) → Q r) (skipExisting : Bool) :
    x.Keeps skipExisting fun l _ => ∀ r ∈ l.filterMap Settled.record?, Q r where
  wait _ _ _ h := h
  skip l k _ h _ _ _ := by rwa [(Settled.counts_skipped l k).1]
  record l e n s r h _ _ ha := by
    rw [(Settled.counts_recorded l r).1]
    exact List.forall_mem_append.mpr ⟨h, List.forall_mem_singleton.mpr (hQ e n s r ha)⟩
  cancel _ _ _ _ h _ _ _ := h
  complete _ _ _ h _ := h

namespace BenchmarkRun

/-- Whether the tally of a benchmark, which goes by the status of a record, and the aggregates of its
endpoints, which go by the exit code and the deadline, count the same runs as successful. -/
structure Agrees (b : BenchmarkRun) : Prop where
  tally : b.tally.successful = b.records.countP (·.isSuccess)
  endpoint : ∀ id expected, (Report.aggregate id expected b.records).successfulRuns =
    (b.records.filter fun r => r.key.endpoint = id).countP (·.isSuccess)
  total : ∀ expected, (b.endpointIds.map fun id =>
    (Report.aggregate id expected b.records).successfulRuns).sum = b.tally.successful

end BenchmarkRun

/-- Options that have a plan ask for no endpoint outside the catalog. -/
theorem Plan.only_of_ofCatalog {c : Catalog} {o : PlanOptions} {p : Plan}
    (h : Plan.ofCatalog c o = .ok p) : ∀ id ∈ o.only, 1 ≤ id ∧ id ≤ c.size := by
  intro id hid
  rw [ofCatalog, Option.mem_def.mp hid, Catalog.select] at h
  cases hl : c.lookup id with
  | error e =>
    rw [hl] at h
    cases h
  | ok e => exact Catalog.bounds_of_lookup hl

namespace Harness

variable {h : Harness} {signals : Nat → Option Signal} {o : PlanOptions} {w : World}
  {b : BenchmarkRun}

/-- A benchmark that gives a result went through to its end. -/
theorem ends_of_ok (hc : h.catalog.endpoints.map (·.id) = List.range' 1 h.catalog.size)
    (hb : (h.runUnder signals o (.start w)).1 = .ok b) : ∃ p s t, h.Ends signals o w p s b t := by
  have hplan : ∃ p, Plan.ofCatalog h.catalog o = .ok p := by
    rw [runUnder, runBy] at hb
    cases hp : Plan.ofCatalog h.catalog o with
    | error e =>
      rw [hp] at hb
      cases hb
    | ok p => exact ⟨p, rfl⟩
  have hunfailed : ∀ e, (h.runUnder signals o (.start w)).1 = .error e → e.isFileError = false := by
    intro e he
    rw [hb] at he
    cases he
  obtain ⟨q, hq⟩ := hplan
  obtain ⟨p, s, b', t, hends⟩ := exists_ends hc (Plan.only_of_ofCatalog hq) hunfailed
  have hsame := hends.outcome
  rw [hb] at hsame
  cases hsame
  exact ⟨p, s, t, hends⟩

namespace Ends

variable {p : Plan} {s : Session} {t : Tree} (hb : h.Ends signals o w p s b t)

include hb

/-- What holds of every record of an attempt holds of the records of a benchmark. -/
theorem forall_records {Q : RunRecord → Prop}
    (hQ : ∀ e n budget x r, (h.attempt e n budget x).1 = .ok (some r) → Q r) :
    ∀ r ∈ b.records, Q r := by
  have hkeeps : (h.surroundingsUnder signals p.options).Keeps p.options.skipExisting
      fun l _ => ∀ r ∈ l.filterMap Settled.record?, Q r :=
    Surroundings.keeps_records (fun e n _ r => hQ e n p.options.searchBudget _ r) _
  rw [hb.records]
  exact Plan.follow_keeps (p := p) hkeeps (h.lawful_surroundingsUnder signals p.options)
    (by simp) (hb.keys ▸ o.nodup_keys _) hb.unfailed

theorem sublist_records : (b.records.map (·.key)).Sublist (o.keys h.catalog.size) := by
  rw [hb.records]
  exact (Settled.sublist_keys _).trans hb.settled_prefix_keys.sublist

/-- Where the records are coherent, whatever counts them counts the same. -/
theorem agrees {cs : Settings} (hr : ∀ r ∈ b.records, r.Coherent cs) : b.Agrees := by
  have htally : b.tally.successful = b.records.countP (·.isSuccess) := by
    rw [hb.benchmark]
    exact (BenchmarkRun.balanced_after p s.world.now (h.courseUnder signals p s)).successful
  have hsame : ∀ r ∈ b.records, r.isSuccess = r.ranWithoutError := fun r hmem =>
    (hr r hmem).isSuccess_eq
  have hnodup := hb.sublist_records.nodup (o.nodup_keys _)
  have hids : ∀ r ∈ b.records, r.key.endpoint ∈ b.endpointIds := fun r hmem => by
    rw [hb.endpointIds]
    exact o.endpoint_mem_ids (hb.sublist_records.subset (List.mem_map_of_mem hmem))
  refine ⟨htally, fun id expected => ?_, fun expected => ?_⟩
  · calc (Report.aggregate id expected b.records).successfulRuns
      _ = (b.records.filter fun r => r.key.endpoint = id).countP (·.ranWithoutError) :=
        (Report.runsOf_perm hnodup id).countP_eq _
      _ = (b.records.filter fun r => r.key.endpoint = id).countP (·.isSuccess) :=
        List.countP_congr fun r hmem => by rw [hsame r (List.mem_filter.mp hmem).1]
  · calc (b.endpointIds.map fun id => (Report.aggregate id expected b.records).successfulRuns).sum
      _ = b.records.countP (·.ranWithoutError) :=
        Report.sum_countP_runsOf hnodup (hb.endpointIds ▸ o.nodup_ids _) hids _
      _ = b.records.countP (·.isSuccess) := List.countP_congr fun r hmem => by rw [hsame r hmem]
      _ = b.tally.successful := htally.symm

end Ends

end Harness

/-- Under checked settings an attempt gives a record unless a signal interrupts the tool or files cannot
be read or written; every record that it saves is coherent and is loaded as it is; and the tally of
every benchmark counts the same successes as the aggregates of its endpoints. -/
theorem outcomes_agree {s : Settings} (site : CommandLine.Site) (c : Catalog)
    (hs : s.check = .ok ()) :
    (∀ e n budget x, x.claims = .none →
      (∃ r, ((site.harness s c).attempt e n budget x).1 = .ok (some r)) ∨
        (((site.harness s c).attempt e n budget x).1 = .ok none ∧
          ∃ w signal, (site.harness s c).discard ⟨e.id, n⟩ x.world = (w, none) ∧
            ((site.harness s c).executor.execute e n budget
              ((site.harness s c).results.runLocation ⟨e.id, n⟩) w).1 = .error (.cancelled signal)) ∨
        ∃ f, ((site.harness s c).attempt e n budget x).1 = .error f ∧ f.isFileError = true) ∧
      (∀ e n budget x r, ((site.harness s c).attempt e n budget x).1 = .ok (some r) →
        r.Coherent s ∧
          Store.Holds (site.harness s c).results
            ((site.harness s c).attempt e n budget x).2.world.tree r ∧
          (r.Loadable → Store.load (site.harness s c).results
            ((site.harness s c).attempt e n budget x).2.world.tree r.key = .ok (some r))) ∧
      ∀ bytes signals o w b, Catalog.ofBytes bytes = .ok c →
        ((site.harness s c).runUnder signals o (.start w)).1 = .ok b →
          (∀ r ∈ b.records, r.Coherent s) ∧ b.Agrees := by
  have hcoherent : ∀ e n budget x r,
      ((site.harness s c).attempt e n budget x).1 = .ok (some r) → r.Coherent s :=
    fun e n budget x r => Harness.coherent_attempt hs rfl rfl
  refine ⟨fun e n budget x hx => (site.harness s c).attempt_outcome e n budget hx,
    fun e n budget x r ha => ?_, fun bytes signals o w b hc hb => ?_⟩
  · have hr := hcoherent e n budget x r ha
    have hholds := Harness.holds_attempt ha
    refine ⟨hr, hholds, fun hl => ?_⟩
    rw [Store.load_of_documents hholds.1 hholds.2 hl.1 hl.2, hr.stored_eq]
  · obtain ⟨p, start, t, hends⟩ := Harness.ends_of_ok (Catalog.ids_ofBytes hc) hb
    have hr := hends.forall_records hcoherent
    exact ⟨hr, hends.agrees hr⟩

/-- A tool that never ends. -/
def hangingTool : Tool where
  start _ _ := .ok ⟨⟨[], .never, [], fun _ => 0⟩, fun _ _ => ⟨[], .never, [], fun _ => 0⟩⟩

/-- The built-in settings with short reports. -/
def briefSettings : Settings := { Settings.builtIn with report := ⟨[], false, false⟩ }

/-- A harness for one endpoint on which the tool hangs. -/
def hangingHarness : Harness :=
  (⟨[], [], hangingTool, .absent, fun _ => none⟩ : CommandLine.Site).harness briefSettings
    sampleCatalog

/-- Two short runs of every endpoint. -/
def briefOptions : PlanOptions := ⟨2, 1, none, false, 0, 0⟩

/-- An interrupt after the first attempt. -/
def interruptLater (i : Nat) : Option Signal := if i = 2 then some .interrupt else none

/-- Whether an attempt gives a record of which a condition holds. -/
def recordsWith (outcome : Except HarnessError (Option RunRecord)) (holds : RunRecord → Bool) :
    Bool :=
  match outcome with
  | .ok (some r) => holds r
  | .ok none | .error _ => false

theorem of_recordsWith {outcome : Except HarnessError (Option RunRecord)}
    {holds : RunRecord → Bool} (h : recordsWith outcome holds = true) :
    ∃ r, outcome = .ok (some r) ∧ holds r = true := by
  match outcome, h with
  | .ok (some r), h => exact ⟨r, rfl, h⟩

theorem checked_briefSettings : briefSettings.check = .ok () :=
  Settings.check_eq_ok.mpr ⟨rfl, ExecutionSettings.check_builtIn, rfl, rfl, rfl, rfl⟩

theorem attempt_hanging : (sampleCatalog.endpoints.any fun e =>
    recordsWith (hangingHarness.attempt e 1 1 (.start sampleWorld)).1 fun r =>
      r.timedOut && decide r.Loadable) = true := by
  decide +kernel

theorem run_hanging : endsWith (hangingHarness.runUnder interruptLater briefOptions
    (.start sampleWorld)).1 (fun b => b.records.length == 1) = true := by
  decide +kernel

theorem outcomes_agree_hanging :
    briefSettings.check = .ok () ∧ Catalog.ofBytes sampleTable = .ok sampleCatalog ∧
      (∃ e r, (hangingHarness.attempt e 1 1 (.start sampleWorld)).1 = .ok (some r) ∧
        r.timedOut = true ∧ r.diagnosis = .timeout ∧ r.exitCode = 124 ∧ r.message ≠ "" ∧
        Store.load hangingHarness.results (hangingHarness.attempt e 1 1
          (.start sampleWorld)).2.world.tree r.key = .ok (some r)) ∧
      ∃ b, (hangingHarness.runUnder interruptLater briefOptions (.start sampleWorld)).1 = .ok b ∧
        b.records.length = 1 ∧ b.Agrees := by
  have hc : Catalog.ofBytes sampleTable = .ok sampleCatalog := by
    simpa only [sampleHarness, Harness.ofSettings] using ofBytes_sampleTable
  have hagree := outcomes_agree ⟨[], [], hangingTool, .absent, fun _ => none⟩ sampleCatalog
    checked_briefSettings
  rw [← hangingHarness.eq_1] at hagree
  obtain ⟨-, hattempts, hruns⟩ := hagree
  obtain ⟨e, -, he⟩ := List.any_eq_true.mp attempt_hanging
  obtain ⟨r, hr, hholds⟩ := of_recordsWith he
  rw [Bool.and_eq_true, decide_eq_true_eq] at hholds
  obtain ⟨hcoherent, -, hload⟩ := hattempts e 1 1 (.start sampleWorld) r hr
  obtain ⟨htimeout, hcode, -⟩ := hcoherent.deadline hholds.1
  have hmessage : r.message ≠ "" := fun h0 => by
    rw [hcoherent.message, htimeout] at h0
    cases h0
  obtain ⟨b, hb, hone⟩ := exists_of_endsWith run_hanging
  exact ⟨checked_briefSettings, hc,
    ⟨e, r, hr, hholds.1, htimeout, hcode, hmessage, hload hholds.2⟩, b, hb, by simpa using hone,
    (hruns _ _ _ _ b hc hb).2⟩

end SuiteBench
