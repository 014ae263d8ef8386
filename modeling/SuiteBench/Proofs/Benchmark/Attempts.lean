import SuiteBench.Benchmark.Harness
import SuiteBench.Proofs.Benchmark.Stages
import SuiteBench.Proofs.Execution.Confinement
import SuiteBench.Proofs.Report.Files
import SuiteBench.Proofs.Report.Listed

/-!
# Proofs.Benchmark.Attempts — what a benchmark does between two looks at its plan

An attempt clears the run's directory, runs the tool there, and then either saves a record or discards
the run.  Whatever the tool does, an attempt fails only over files, its record is that of its run, and
a signal that came before it is still known after it.
-/

namespace SuiteBench

/-- Whether an error comes from a file operation. -/
def HarnessError.isFileError : HarnessError → Bool
  | .results .. | .clear .. | .log _ | .manifest .. => true
  | .store (.file _) | .execution _ (.file _) => true
  | .report (.file _) | .report (.store (.file _)) | .report (.missingResults _) => true
  | _ => false

/-! ### One attempt -/

namespace Executor

variable (x : Executor) (e : Endpoint) (run budget : Nat) (dir : Location)

/-- What comes of a run: an execution of that run, an interrupt, or a directory that cannot be
prepared. -/
theorem execute_outcome (w : World) :
    (∃ y, (x.execute e run budget dir w).1 = .ok y ∧ y.key = ⟨e.id, run⟩) ∨
      (∃ s, (x.execute e run budget dir w).1 = .error (.cancelled s)) ∨
      ∃ f, (x.execute e run budget dir w).1 = .error (.file f) := by
  obtain ⟨t, f, -, he⟩ | ⟨t, w', lines, -, -, -, -, hy | hs⟩ := execute_cases x e run budget dir w
  · exact .inr (.inr ⟨f, by rw [he]⟩)
  · exact .inl hy
  · exact .inr (.inl hs)

/-- A run remembers a signal that came before it. -/
theorem execute_remembers {w : World} (h : w.shutdown.isShuttingDown = true) :
    (x.execute e run budget dir w).2.shutdown.isShuttingDown = true := by
  obtain ⟨t, f, -, he⟩ | ⟨t, w', lines, -, he, -, hsh, -⟩ := execute_cases x e run budget dir w
  · rw [he]
    exact h
  · rw [he]
    exact hsh h

end Executor

namespace Operator

@[simp] theorem tree_wait (operator : Operator) (ms : Nat) (w : World) :
    (operator.wait ms w).tree = w.tree := by
  rw [wait, listen]
  split <;> rfl

theorem wait_remembers (operator : Operator) (ms : Nat) {w : World}
    (hw : w.shutdown.isShuttingDown = true) :
    (operator.wait ms w).shutdown.isShuttingDown = true := by
  rw [wait, listen]
  split
  · exact Shutdown.isShuttingDown_trigger _ _
  · exact hw

end Operator

namespace World

variable {w w' : World} {steps : List Step} {e : Option FileError}

theorem perform_eq : w.perform steps = (w', e) ↔
    Step.run w.tree steps = (w'.tree, e) ∧ w' = { w with tree := w'.tree } := by
  rw [perform]
  cases Step.run w.tree steps with
  | mk t f =>
    constructor
    · intro h
      cases h
      exact ⟨rfl, rfl⟩
    · rintro ⟨h, hw⟩
      cases h
      rw [hw]

@[simp] theorem tree_warnAll (w : World) (texts : List String) : (w.warnAll texts).tree = w.tree := by
  induction texts generalizing w with
  | nil => rfl
  | cons text texts ih => exact ih _

@[simp] theorem shutdown_warnAll (w : World) (texts : List String) :
    (w.warnAll texts).shutdown = w.shutdown := by
  induction texts generalizing w with
  | nil => rfl
  | cons text texts ih => exact ih _

end World

/-- How an attempt ends once the tool was run: the steps that are left to do, the failure that cuts
them short, and what comes of it. -/
inductive Finish (d : ResultsDir) (k : RunKey) (t : Tree) : Except ExecutionError Execution →
    List Step → Option FileError → Except HarnessError (Option RunRecord) → Prop
  | discarded {s : Signal} :
    Finish d k t (.error (.cancelled s)) (Store.discardSteps d t k) none (.ok none)
  | notDiscarded {s : Signal} {f : FileError} : Finish d k t (.error (.cancelled s))
      (Store.discardSteps d t k) (some f) (.error (.store (.file f)))
  | saved {y : Execution} {r : RunRecord} (hr : r.key = k) :
    Finish d k t (.ok y) (Store.saveSteps d r) none (.ok (some r))
  | notSaved {y : Execution} {r : RunRecord} {f : FileError} (hr : r.key = k) :
    Finish d k t (.ok y) (Store.saveSteps d r) (some f) (.error (.store (.file f)))
  | stuck {y : Except ExecutionError Execution} {e : HarnessError} (he : e.isFileError = true) :
    Finish d k t y [] none (.error e)

theorem Finish.avoids {d : ResultsDir} {k : RunKey} {t : Tree} {y : Except ExecutionError Execution}
    {steps : List Step} {f : Option FileError} {a : Except HarnessError (Option RunRecord)}
    {b : Location} (hb : (d.runLocation k).Apart b) (hfin : Finish d k t y steps f a) :
    ∀ s ∈ steps, s.Avoids b := by
  cases hfin with
  | discarded => exact Store.avoids_discardSteps hb
  | notDiscarded => exact Store.avoids_discardSteps hb
  | saved hr => exact Store.avoids_saveSteps (hr ▸ hb)
  | notSaved hr => exact Store.avoids_saveSteps (hr ▸ hb)
  | stuck => simp

namespace Harness

variable (h : Harness)

theorem record_cases {x : Execution} {k : RunKey} (hx : x.key = k)
    (samples : List (ResourceSample Float)) (w : World) : ∃ steps f,
      Step.run w.tree steps = ((h.record x samples w).2.tree, f) ∧
      (h.record x samples w).2.shutdown = w.shutdown ∧
      Finish h.results k w.tree (.ok x) steps f (h.record x samples w).1 := by
  rw [record, logText]
  split
  · next f hf =>
    have : ∃ c, f = HarnessError.log c := by
      split at hf
      · cases hf
      · cases hf
        exact ⟨_, rfl⟩
    obtain ⟨c, rfl⟩ := this
    exact ⟨[], none, rfl, rfl, .stuck rfl⟩
  · next log _ =>
    have hkey : (h.recordOf w.tree x log samples).key = k := hx
    dsimp only
    revert hkey
    generalize h.recordOf w.tree x log samples = r
    intro hkey
    cases hr : Step.run w.tree (Store.saveSteps h.results r) with
    | mk t f =>
      have hs : Claims.save x.key h.results w.tree r = (t, f.map .file) := by
        rw [Claims.save, if_pos (hx.trans hkey.symm), hr]
      rw [hs]
      refine ⟨Store.saveSteps h.results r, f, ?_⟩
      cases f with
      | none => exact ⟨by simp [hr], by simp, .saved hkey⟩
      | some f => exact ⟨hr, rfl, .notSaved hkey⟩

theorem attemptClear_cases (e : Endpoint) (n budget : Nat) (w : World) : ∃ steps f,
    Step.run (h.executor.execute e n budget (h.results.runLocation ⟨e.id, n⟩) w).2.tree steps =
      ((h.attemptClear e n budget w).2.tree, f) ∧
    (h.attemptClear e n budget w).2.shutdown =
      (h.executor.execute e n budget (h.results.runLocation ⟨e.id, n⟩) w).2.shutdown ∧
    Finish h.results ⟨e.id, n⟩
      (h.executor.execute e n budget (h.results.runLocation ⟨e.id, n⟩) w).2.tree
      (h.executor.execute e n budget (h.results.runLocation ⟨e.id, n⟩) w).1 steps f
      (h.attemptClear e n budget w).1 := by
  have hout := h.executor.execute_outcome e n budget (h.results.runLocation ⟨e.id, n⟩) w
  rw [attemptClear]
  cases hx : h.executor.execute e n budget (h.results.runLocation ⟨e.id, n⟩) w with
  | mk y w' =>
    rw [hx] at hout
    rcases hout with ⟨y, rfl, hy⟩ | ⟨s, rfl⟩ | ⟨f, rfl⟩
    · exact h.record_cases hy _ w'
    · refine ⟨Store.discardSteps h.results w'.tree ⟨e.id, n⟩, ?_⟩
      dsimp only
      cases hd : h.discard ⟨e.id, n⟩
        (w'.warn ((⟨e.id, n⟩ : RunKey).text ++ " cancelled; discarding partial output")) with
      | mk v f =>
        obtain ⟨hr, hv⟩ := World.perform_eq.mp hd
        refine ⟨f, ?_⟩
        cases f with
        | none => exact ⟨hr, by rw [hv]; rfl, .discarded⟩
        | some f => exact ⟨hr, by rw [hv]; rfl, .notDiscarded⟩
    · exact ⟨[], none, rfl, rfl, .stuck rfl⟩

/-- How an attempt goes: the run is refused, its directory cannot be cleared, or the tool is run in a
clear one. -/
theorem attempt_cases (e : Endpoint) (n budget : Nat) (s : Session) :
    (∃ c, s.claims.claim (⟨e.id, n⟩ : RunKey).text ⟨e.id, n⟩ = .error c ∧
      h.attempt e n budget s = (.error (.store c), s)) ∨
    (∃ w f, h.discard ⟨e.id, n⟩ s.world = (w, some f) ∧
      (h.attempt e n budget s).1 = .error (.clear (h.results.runDir ⟨e.id, n⟩) f) ∧
      (h.attempt e n budget s).2.world = w) ∨
    ∃ w y w' steps f, h.discard ⟨e.id, n⟩ s.world = (w, none) ∧
      h.executor.execute e n budget (h.results.runLocation ⟨e.id, n⟩) w = (y, w') ∧
      Step.run w'.tree steps = ((h.attempt e n budget s).2.world.tree, f) ∧
      (h.attempt e n budget s).2.world.shutdown = w'.shutdown ∧
      Finish h.results ⟨e.id, n⟩ w'.tree y steps f (h.attempt e n budget s).1 := by
  cases hc : s.claims.claim (⟨e.id, n⟩ : RunKey).text ⟨e.id, n⟩ with
  | error c => exact .inl ⟨c, rfl, by simp only [attempt, hc]⟩
  | ok claims =>
    right
    simp only [attempt, hc, attemptClaimed]
    cases hd : h.discard ⟨e.id, n⟩ s.world with
    | mk w f =>
      cases f with
      | some f => exact .inl ⟨w, f, rfl, rfl, rfl⟩
      | none =>
        obtain ⟨steps, f, hrun, hsh, hfin⟩ := h.attemptClear_cases e n budget w
        exact .inr ⟨w, _, _, steps, f, rfl, rfl, hrun, hsh, hfin⟩

/-- A claim that nobody holds is held during the attempt only. -/
theorem claims_attempt (e : Endpoint) (n budget : Nat) {s : Session} (hs : s.claims = .none) :
    (h.attempt e n budget s).2.claims = .none := by
  have hclaim : s.claims.claim (⟨e.id, n⟩ : RunKey).text ⟨e.id, n⟩ =
      .ok ⟨[⟨e.id, n⟩], [((⟨e.id, n⟩ : RunKey).text, ⟨e.id, n⟩)]⟩ := by
    rw [hs]
    rfl
  simp [attempt, hclaim, Claims.drop, Claims.key?, Claims.none]

/-- A record that comes of an attempt is that of its run. -/
theorem key_attempt {e : Endpoint} {n budget : Nat} {s : Session} {r : RunRecord}
    (ha : (h.attempt e n budget s).1 = .ok (some r)) : r.key = ⟨e.id, n⟩ := by
  obtain ⟨c, -, hc⟩ | ⟨w, f, -, hf, -⟩ | ⟨w, y, w', steps, f, -, -, -, -, hfin⟩ :=
    h.attempt_cases e n budget s
  · rw [hc] at ha
    cases ha
  · rw [hf] at ha
    cases ha
  · rw [ha] at hfin
    cases hfin with
    | saved hr => exact hr

/-- Where nothing is claimed, an attempt fails over files only. -/
theorem attempt_error {e : Endpoint} {n budget : Nat} {s : Session} (hs : s.claims = .none)
    {f : HarnessError} (ha : (h.attempt e n budget s).1 = .error f) : f.isFileError = true := by
  obtain ⟨c, hc, -⟩ | ⟨w, f', -, hf, -⟩ | ⟨w, y, w', steps, f', -, -, -, -, hfin⟩ :=
    h.attempt_cases e n budget s
  · rw [hs] at hc
    cases hc
  · rw [hf] at ha
    cases ha
    rfl
  · rw [ha] at hfin
    cases hfin with
    | notDiscarded => rfl
    | notSaved => rfl
    | stuck he => exact he

/-- An attempt remembers a signal that came before it. -/
theorem attempt_remembers (e : Endpoint) (n budget : Nat) {s : Session}
    (hs : s.world.shutdown.isShuttingDown = true) :
    (h.attempt e n budget s).2.world.shutdown.isShuttingDown = true := by
  obtain ⟨c, -, hc⟩ | ⟨w, f, hd, -, hw⟩ | ⟨w, y, w', steps, f, hd, hx, -, hsh, -⟩ :=
    h.attempt_cases e n budget s
  · rw [hc]
    exact hs
  · rw [hw, (World.perform_eq.mp hd).2]
    exact hs
  · have hfired : w.shutdown.isShuttingDown = true := by
      rw [(World.perform_eq.mp hd).2]
      exact hs
    have := h.executor.execute_remembers e n budget (h.results.runLocation ⟨e.id, n⟩) hfired
    rw [hx] at this
    rwa [hsh]

/-- What the work on an endpoint ends with: the steps for its files, or nothing. -/
theorem aggregate_cases (id runs : Nat) (w : World) : ∃ steps f,
    Step.run w.tree steps = ((h.aggregate id runs w).2.tree, f) ∧
    (h.aggregate id runs w).2.shutdown = w.shutdown ∧
    (steps = [] ∨ ∃ c e, c.dir = h.results ∧
      steps = Report.endpointSteps h.reports w.tree c e) ∧
    ∀ e, (h.aggregate id runs w).1 = .error e → e.isFileError = true := by
  rw [aggregate]
  cases hr : h.endpointResults id runs w.tree with
  | error e =>
    obtain ⟨f, rfl⟩ := Store.loadEndpoint_error (Store.eq_error_of_map hr)
    refine ⟨[], none, rfl, rfl, .inl rfl, fun e he => ?_⟩
    cases he
    rfl
  | ok results =>
    dsimp only
    generalize (Store.unreadable h.results w.tree id).map _ = warnings
    cases hp : (w.warnAll warnings).perform (Report.endpointSteps h.reports
      (w.warnAll warnings).tree ⟨h.results, none, [results]⟩ results) with
    | mk v f =>
      obtain ⟨hrun, hv⟩ := World.perform_eq.mp hp
      rw [World.tree_warnAll] at hrun
      have hsh : v.shutdown = w.shutdown := by
        rw [hv]
        exact World.shutdown_warnAll w warnings
      refine ⟨_, f, ?_, ?_, .inr ⟨⟨h.results, none, [results]⟩, results, rfl, rfl⟩, ?_⟩
      · cases f <;> exact hrun
      · cases f <;> exact hsh
      · cases f with
        | none => exact fun e he => by cases he
        | some f =>
          intro e he
          cases he
          rfl

theorem aggregate_spares {b : Location} (hb : ∀ t c e, c.dir = h.results →
      ∀ s ∈ Report.endpointSteps h.reports t c e, s.Avoids b) (id runs : Nat) (w : World) :
    Tree.Spares b w.tree (h.aggregate id runs w).2.tree := by
  obtain ⟨steps, f, hrun, -, rfl | ⟨c, e, hc, rfl⟩, -⟩ := h.aggregate_cases id runs w
  · exact Tree.spares_of_run hrun (by simp)
  · exact Tree.spares_of_run hrun (hb w.tree c e hc)

/-- How a benchmark opens: its results directory is there, or cannot be made. -/
theorem openResults_cases (s : Session) (named : Bool) :
    (∃ s', h.openResults s named = (.ok (), s') ∧ s'.claims = s.claims ∧
        s'.world = { s.world with tree := s'.world.tree } ∧
        Step.run s.world.tree [.makeDirs h.results.location] = (s'.world.tree, none)) ∨
      ∃ e, (h.openResults s named).1 = .error e ∧ e.isFileError = true := by
  rw [openResults]
  cases hp : s.world.perform [.makeDirs h.results.location] with
  | mk w f =>
    obtain ⟨hrun, hw⟩ := World.perform_eq.mp hp
    cases f with
    | none => exact .inl ⟨_, rfl, rfl, hw, hrun⟩
    | some f => exact .inr ⟨_, rfl, rfl⟩

/-- Reports are written about what the results tree holds, or fail over files. -/
theorem report_cases (w : World) :
    (∃ c, c.dir = h.results ∧ Report.collect h.results w.tree = .ok c ∧ (h.report w).1 = .ok () ∧
      Step.run w.tree (Report.reportSteps h.reports (some h.catalog) w.tree c) =
        ((h.report w).2.tree, none)) ∨
      ∃ e, (h.report w).1 = .error e ∧ e.isFileError = true := by
  rw [report]
  obtain ⟨c, hc, hdir⟩ | ⟨p, hc⟩ | ⟨f, hc⟩ := Report.collect_cases h.results w.tree
  · rw [hc]
    dsimp only
    generalize Report.collectWarnings h.results w.tree c = warnings
    cases hp : (w.warnAll warnings).perform
      (Report.reportSteps h.reports (some h.catalog) (w.warnAll warnings).tree c) with
    | mk v f =>
      obtain ⟨hrun, -⟩ := World.perform_eq.mp hp
      rw [World.tree_warnAll] at hrun
      cases f with
      | none => exact .inl ⟨c, hdir, rfl, rfl, hrun⟩
      | some f => exact .inr ⟨_, rfl, rfl⟩
  · rw [hc]
    exact .inr ⟨_, rfl, rfl⟩
  · rw [hc]
    exact .inr ⟨_, rfl, rfl⟩

/-- How a benchmark ends: with its manifest, and with reports about all there is unless it was
interrupted. -/
theorem conclude_cases (b : BenchmarkRun) (w : World) :
    (∃ e, (h.conclude b w).1 = .error e ∧ e.isFileError = true) ∨
      ∃ t, (h.conclude b w).1 = .ok (b.finish w.now) ∧
        Step.run w.tree (h.manifestSteps (b.finish w.now)) = (t, none) ∧
        (b.interrupted = true ∧ (h.conclude b w).2.tree = t ∨
          b.interrupted = false ∧ ∃ c, c.dir = h.results ∧
            Report.collect h.results t = .ok c ∧
            Step.run t (Report.reportSteps h.reports (some h.catalog) t c) =
              ((h.conclude b w).2.tree, none)) := by
  simp only [conclude]
  cases hp : w.perform (h.manifestSteps (b.finish w.now)) with
  | mk v f =>
    obtain ⟨hrun, -⟩ := World.perform_eq.mp hp
    cases f with
    | some f => exact .inl ⟨_, rfl, rfl⟩
    | none =>
      dsimp only
      rw [show (b.finish w.now).interrupted = b.interrupted from rfl]
      cases b.interrupted with
      | true => exact .inr ⟨v.tree, rfl, hrun, .inl ⟨rfl, rfl⟩⟩
      | false =>
        obtain ⟨c, hdir, hc, ho, hr⟩ | ⟨e, ho, he⟩ := h.report_cases v
        · refine .inr ⟨v.tree, ?_, hrun, .inr ⟨rfl, c, hdir, hc, hr⟩⟩
          simp [ho, Except.map]
        · exact .inl ⟨e, by simp [ho, Except.map], he⟩

end Harness

end SuiteBench
