import SuiteBench.Proofs.Benchmark.Attempts
import SuiteBench.Proofs.Benchmark.Disturbance
import SuiteBench.Proofs.Endpoint.Rows

/-!
# Proofs.Benchmark.Interruption — a benchmark that a signal may stop at any time

Signals come between the operations of a benchmark by a schedule, and within them as the tool and the
operator will.  Whenever they come, what is recorded and skipped is a front part of the plan, the
manifest tells how long it is, and the reports are written just when it is all of the plan.
-/

namespace SuiteBench

/-! ### The planned keys -/

namespace PlanOptions

variable (o : PlanOptions)

/-- The ids of the endpoints that the options ask for in a catalog of some size. -/
def ids (size : Nat) : List Nat :=
  match o.only with
  | none => List.range' 1 size
  | some id => [id]

/-- The runs that the options ask for: the endpoints in the order of their ids, and of each the runs
from 1 on. -/
def keys (size : Nat) : List RunKey :=
  (o.ids size).flatMap fun id => (List.range o.runsPerEndpoint).map fun i => ⟨id, i + 1⟩

theorem length_keys (size : Nat) : (o.keys size).length = (o.ids size).length * o.runsPerEndpoint := by
  simp [keys, List.length_flatMap]

theorem nodup_ids (size : Nat) : (o.ids size).Nodup := by
  rw [ids]
  split
  · exact List.nodup_range'
  · exact List.nodup_singleton _

theorem nodup_keys (size : Nat) : (o.keys size).Nodup := by
  refine List.nodup_flatMap.mpr ⟨fun id _ => ?_, (o.nodup_ids size).imp fun hne => ?_⟩
  · exact List.nodup_range.map fun i j h => by simpa using h
  · intro k hk hk'
    obtain ⟨i, -, rfl⟩ := List.mem_map.mp hk
    obtain ⟨j, -, hj⟩ := List.mem_map.mp hk'
    exact hne (congrArg RunKey.endpoint hj).symm

theorem endpoint_mem_ids {size : Nat} {k : RunKey} (h : k ∈ o.keys size) :
    k.endpoint ∈ o.ids size := by
  obtain ⟨id, hid, hk⟩ := List.mem_flatMap.mp h
  obtain ⟨i, -, rfl⟩ := List.mem_map.mp hk
  exact hid

end PlanOptions

/-- Options that ask for no endpoint outside a loaded catalog have a plan. -/
theorem Plan.ofCatalog_cases {c : Catalog} {o : PlanOptions}
    (hc : c.endpoints.map (·.id) = List.range' 1 c.size)
    (ho : ∀ id ∈ o.only, 1 ≤ id ∧ id ≤ c.size) :
    ∃ p, Plan.ofCatalog c o = .ok p ∧ p.options = o ∧ p.endpoints.map (·.id) = o.ids c.size := by
  cases honly : o.only with
  | none =>
    refine ⟨⟨o, c.endpoints⟩, ?_, rfl, ?_⟩
    · rw [ofCatalog, honly]
      rfl
    · rw [PlanOptions.ids, honly]
      exact hc
  | some id =>
    obtain ⟨e, he, hid⟩ := Catalog.lookup_of_ids hc (ho id honly)
    refine ⟨⟨o, [e]⟩, ?_, rfl, ?_⟩
    · rw [ofCatalog, honly, Catalog.select, he]
      rfl
    · rw [PlanOptions.ids, honly]
      simp [hid]

theorem Plan.keys_eq {p : Plan} {n : Nat} (h : p.endpoints.map (·.id) = p.options.ids n) :
    p.keys = p.options.keys n := by
  rw [PlanOptions.keys, ← h, List.flatMap_map]
  rfl

/-! ### What a benchmark counts -/

namespace Settled

/-- The record of a run that was recorded. -/
def record? : Settled → Option RunRecord
  | recorded r => some r
  | skipped _ => none

/-- The key of a run that was skipped. -/
def skipped? : Settled → Option RunKey
  | recorded _ => none
  | skipped k => some k

theorem length_counts (l : List Settled) :
    (l.filterMap record?).length + (l.filterMap skipped?).length = l.length := by
  induction l with
  | nil => rfl
  | cons x l ih =>
    cases x <;> simp only [List.filterMap_cons, record?, skipped?, List.length_cons] <;> omega

end Settled

/-- Whether a course was interrupted. -/
def PlanEnding.isInterrupted {ε : Type} : PlanEnding ε → Bool
  | interrupted => true
  | finished | failed _ => false

namespace BenchmarkRun

theorem foldl_settle (l : List Settled) (b : BenchmarkRun) : ∃ tally, l.foldl settle b =
    { b with
      records := b.records ++ l.filterMap Settled.record?
      skipped := b.skipped ++ l.filterMap Settled.skipped?
      tally := tally } := by
  induction l generalizing b with
  | nil => exact ⟨b.tally, by simp⟩
  | cons x l ih =>
    obtain ⟨tally, h⟩ := ih (b.settle x)
    refine ⟨tally, ?_⟩
    rw [List.foldl_cons, h]
    cases x <;>
      simp [settle, pushRecord, markSkipped, List.filterMap_cons, Settled.record?, Settled.skipped?]

/-- The benchmark after a course: what was settled is counted, and an interrupt is noted. -/
theorem after_eq {σ ε : Type} (p : Plan) (began : Moment) (c : Course σ ε) : ∃ tally,
    (p.benchmark began).after c =
      { p.benchmark began with
        records := c.settled.filterMap Settled.record?
        skipped := c.settled.filterMap Settled.skipped?
        interrupted := c.ending.isInterrupted
        tally := tally } := by
  obtain ⟨tally, h⟩ := foldl_settle c.settled (p.benchmark began)
  refine ⟨tally, ?_⟩
  rw [after, h]
  cases c.ending <;> rfl

end BenchmarkRun

/-! ### Signals by a schedule -/

/-- A session to which the signal with some number comes, if there is one. -/
def Session.signal (signals : Nat → Option Signal) (i : Nat) (s : Session) : Session :=
  match signals i with
  | some x => { s with world := { s.world with shutdown := s.world.shutdown.trigger x } }
  | none => s

namespace Session

variable (signals : Nat → Option Signal) (i : Nat) (s : Session)

@[simp] theorem claims_signal : (s.signal signals i).claims = s.claims := by
  rw [signal]
  split <;> rfl

@[simp] theorem tree_signal : (s.signal signals i).world.tree = s.world.tree := by
  rw [signal]
  split <;> rfl

theorem signal_remembers {s : Session} (h : s.world.shutdown.isShuttingDown = true) :
    (s.signal signals i).world.shutdown.isShuttingDown = true := by
  rw [signal]
  split
  · exact Shutdown.isShuttingDown_trigger _ _
  · exact h

end Session

namespace Harness

variable (h : Harness) (signals : Nat → Option Signal) (o : PlanOptions)

/-- What a plan needs of its surroundings, while signals come before and after every operation. -/
def surroundingsUnder : Surroundings (Session × Nat) HarnessError :=
  (h.surroundings o).disturbed (Session.signal signals)

/-- The course of a plan while signals come. -/
def courseUnder (p : Plan) (s : Session) : Course (Session × Nat) HarnessError :=
  p.follow (h.surroundingsUnder signals p.options) (s, 0)

/-- Runs a benchmark while signals come. -/
def runUnder (s : Session) : Except HarnessError BenchmarkRun × Session :=
  h.runBy (fun p s => (h.courseUnder signals p s).map Prod.fst) o s

/-- Without signals between the operations this is how benchmarks are run. -/
theorem runUnder_silent (s : Session) : h.runUnder (fun _ => none) o s = h.run o s := by
  have hs : Session.signal (fun _ => none) = fun _ s => s := rfl
  simp only [runUnder, run, courseUnder, surroundingsUnder, hs, Plan.follow_undisturbed]

/-! ### What the surroundings promise -/

theorem lawful_surroundings : (h.surroundings o).Lawful where
  key _ _ _ _ ha := h.key_attempt ha
  wait ms _ hs := h.executor.operator.wait_remembers ms hs
  attempt e n _ hs := h.attempt_remembers e n o.searchBudget hs
  complete e s hs := by
    obtain ⟨steps, f, -, hsh, -⟩ := h.aggregate_cases e.id o.runsPerEndpoint s.world
    have : ((h.surroundings o).complete e s).2.world.shutdown = s.world.shutdown := hsh
    exact (congrArg Shutdown.isShuttingDown this).trans hs

theorem lawful_surroundingsUnder : (h.surroundingsUnder signals o).Lawful :=
  (h.lawful_surroundings o).disturbed fun i _ hs => Session.signal_remembers signals i hs

theorem maintains_claims : (h.surroundings o).Maintains fun s => s.claims = .none where
  wait _ _ hs := hs
  attempt e n _ hs := h.claims_attempt e n o.searchBudget hs
  complete _ _ hs := hs

/-- Signals change nothing in the tree. -/
theorem maintains_tree {Q : Tree → Prop}
    (hm : (h.surroundings o).Maintains fun s => Q s.world.tree) :
    (h.surroundingsUnder signals o).Maintains fun s => Q s.1.world.tree :=
  hm.disturbed fun i s hs => by simpa using hs

/-- Where nothing is claimed, the surroundings fail over files only. -/
theorem fails_surroundings {s : Session} {f : HarnessError} (hs : s.claims = .none)
    (hf : (h.surroundings o).Fails s f) : f.isFileError = true := by
  obtain ⟨e, n, ha⟩ | ⟨e, ha⟩ := hf
  · exact h.attempt_error hs ha
  · obtain ⟨steps, g, -, -, -, he⟩ := h.aggregate_cases e.id o.runsPerEndpoint s.world
    exact he f ha

/-- A course fails over files only. -/
theorem courseUnder_error {p : Plan} {s : Session} (hs : s.claims = .none) {f : HarnessError}
    (hf : (h.courseUnder signals p s).ending = .failed f) : f.isFileError = true := by
  have hsignal : ∀ i s, s.claims = .none → (Session.signal signals i s).claims = .none :=
    fun i s hs => (Session.claims_signal signals i s).trans hs
  have hm := (h.maintains_claims p.options).disturbed hsignal
  obtain ⟨s', hs', hfail⟩ := (Plan.follow_maintains (p := p) hm (s := (s, 0)) hs).2 f hf
  exact h.fails_surroundings p.options ((Session.claims_signal signals _ _).trans hs')
    hfail.of_disturbed

/-! ### What comes of a benchmark -/

/-- How a benchmark goes that fails over no file: from a world, along the course of its plan, to its
outcome and to the tree in which its manifest stands. -/
structure Ends (w : World) (p : Plan) (s : Session) (b : BenchmarkRun) (t : Tree) : Prop where
  plan : Plan.ofCatalog h.catalog o = .ok p
  options : p.options = o
  ids : p.endpoints.map (·.id) = o.ids h.catalog.size
  opened : h.openResults (.start w) true = (.ok (), s)
  unfailed : ∀ f, (h.courseUnder signals p s).ending ≠ .failed f
  outcome : (h.runUnder signals o (.start w)).1 = .ok b
  benchmark : b = ((p.benchmark s.world.now).after (h.courseUnder signals p s)).finish
    (h.courseUnder signals p s).state.1.world.now
  manifest : Step.run (h.courseUnder signals p s).state.1.world.tree (h.manifestSteps b) = (t, none)
  reports : b.interrupted = true ∧ (h.runUnder signals o (.start w)).2.world.tree = t ∨
    b.interrupted = false ∧ ∃ c, c.dir = h.results ∧ Report.collect h.results t = .ok c ∧
      Step.run t (Report.reportSteps h.reports (some h.catalog) t c) =
        ((h.runUnder signals o (.start w)).2.world.tree, none)

variable {h signals o} {w : World}

/-- A benchmark whose plan was followed without a failure goes on to its conclusion. -/
theorem runUnder_of_unfailed {p : Plan} {s : Session} (hp : Plan.ofCatalog h.catalog o = .ok p)
    (hs : h.openResults (.start w) true = (.ok (), s))
    (hunfailed : ∀ f, (h.courseUnder signals p s).ending ≠ .failed f) :
    h.runUnder signals o (.start w) =
      ((h.conclude ((p.benchmark s.world.now).after (h.courseUnder signals p s))
          (h.courseUnder signals p s).state.1.world).1,
        ⟨(h.conclude ((p.benchmark s.world.now).after (h.courseUnder signals p s))
          (h.courseUnder signals p s).state.1.world).2,
          (h.courseUnder signals p s).state.1.claims⟩) := by
  rw [runUnder, runBy, hp]
  dsimp only
  rw [hs]
  dsimp only
  rw [endCourse]
  split
  · next f hend => exact absurd hend (hunfailed f)
  · rfl

/-- A benchmark that fails over no file goes through to its end. -/
theorem exists_ends (hc : h.catalog.endpoints.map (·.id) = List.range' 1 h.catalog.size)
    (ho : ∀ id ∈ o.only, 1 ≤ id ∧ id ≤ h.catalog.size)
    (hf : ∀ e, (h.runUnder signals o (.start w)).1 = .error e → e.isFileError = false) :
    ∃ p s b t, h.Ends signals o w p s b t := by
  obtain ⟨p, hp, hopt, hids⟩ := Plan.ofCatalog_cases hc ho
  obtain ⟨s, hs, hclaims, -⟩ | ⟨e, hs, he⟩ := h.openResults_cases (.start w) true
  · have hrun : h.runUnder signals o (.start w) =
        h.endCourse p s.world.now ((h.courseUnder signals p s).map Prod.fst) := by
      rw [runUnder, runBy, hp, hs]
    have hunfailed : ∀ f, (h.courseUnder signals p s).ending ≠ .failed f := by
      intro f hend
      have hfile := h.courseUnder_error signals hclaims hend
      have hend' : ((h.courseUnder signals p s).map Prod.fst).ending = .failed f := hend
      rw [hrun, endCourse, hend'] at hf
      rw [hf f rfl] at hfile
      cases hfile
    replace hrun := runUnder_of_unfailed hp hs hunfailed
    obtain ⟨e, hcon, he⟩ | ⟨t, hcon, hm, hrep⟩ := h.conclude_cases
      ((p.benchmark s.world.now).after (h.courseUnder signals p s))
      (h.courseUnder signals p s).state.1.world
    · rw [hrun, hcon] at hf
      rw [hf e rfl] at he
      cases he
    · refine ⟨p, s, _, t, hp, hopt, hids, hs, hunfailed, ?_, rfl, hm, ?_⟩
      · rw [hrun, hcon]
      · rw [hrun]
        exact hrep
  · rw [runUnder, runBy, hp] at hf
    cases hopen : h.openResults (.start w) true with
    | mk a s =>
      rw [hopen] at hs hf
      cases hs
      rw [hf e rfl] at he
      cases he

theorem openResults_ok {s : Session} (ho : h.openResults (.start w) true = (.ok (), s)) :
    s.claims = .none ∧ Step.run w.tree [.makeDirs h.results.location] = (s.world.tree, none) := by
  obtain ⟨s', hs', hclaims, -, hrun⟩ | ⟨e, hs', -⟩ := h.openResults_cases (.start w) true
  · rw [ho] at hs'
    cases hs'
    exact ⟨hclaims, hrun⟩
  · rw [ho] at hs'
    cases hs'

namespace Ends

variable {p : Plan} {s : Session} {b : BenchmarkRun} {t : Tree} (hb : h.Ends signals o w p s b t)

include hb

theorem keys : p.keys = o.keys h.catalog.size := by
  have hids := hb.ids
  rw [← hb.options] at hids
  rw [Plan.keys_eq hids, hb.options]

theorem records : b.records = (h.courseUnder signals p s).settled.filterMap Settled.record? := by
  obtain ⟨tally, ha⟩ := BenchmarkRun.after_eq p s.world.now (h.courseUnder signals p s)
  rw [hb.benchmark, ha]
  rfl

theorem skipped : b.skipped = (h.courseUnder signals p s).settled.filterMap Settled.skipped? := by
  obtain ⟨tally, ha⟩ := BenchmarkRun.after_eq p s.world.now (h.courseUnder signals p s)
  rw [hb.benchmark, ha]
  rfl

theorem interrupted_eq_false_iff :
    b.interrupted = false ↔ (h.courseUnder signals p s).ending = .finished := by
  obtain ⟨tally, ha⟩ := BenchmarkRun.after_eq p s.world.now (h.courseUnder signals p s)
  have hi : b.interrupted = (h.courseUnder signals p s).ending.isInterrupted := by
    rw [hb.benchmark, ha]
    rfl
  rw [hi]
  cases hend : (h.courseUnder signals p s).ending with
  | finished => simp [PlanEnding.isInterrupted]
  | interrupted => simp [PlanEnding.isInterrupted]
  | failed f => exact absurd hend (hb.unfailed f)

theorem endpointIds : b.endpointIds = o.ids h.catalog.size := by
  obtain ⟨tally, ha⟩ := BenchmarkRun.after_eq p s.world.now (h.courseUnder signals p s)
  rw [← hb.ids, hb.benchmark, ha]
  rfl

theorem expectedRecords : b.expectedRecords =
    (o.keys h.catalog.size).length - b.skipped.length := by
  obtain ⟨tally, ha⟩ := BenchmarkRun.after_eq p s.world.now (h.courseUnder signals p s)
  have hruns : b.runsPerEndpoint = p.options.runsPerEndpoint := by
    rw [hb.benchmark, ha]
    rfl
  rw [BenchmarkRun.expectedRecords, hb.endpointIds, hruns, hb.options, PlanOptions.length_keys]

/-- What was recorded and what was skipped make up what was settled. -/
theorem count : b.records.length + b.skipped.length =
    (h.courseUnder signals p s).settled.length := by
  rw [hb.records, hb.skipped, Settled.length_counts]

/-- The runs that are settled are the first of the planned ones. -/
theorem settled_prefix_keys : (h.courseUnder signals p s).settled.map Settled.key <+:
    o.keys h.catalog.size := by
  rw [← hb.keys]
  exact Plan.settled_prefix_keys (h.lawful_surroundingsUnder signals p.options) p (s, 0)

/-- The reports of a benchmark that went on to its end are about all that was there then. -/
theorem read_reports (hi : b.interrupted = false) : ∃ c, Report.collect h.results t = .ok c ∧
    ∀ f ∈ Report.rootFiles h.reports (some h.catalog) c,
      (h.runUnder signals o (.start w)).2.world.tree.read f.location = .ok f.content := by
  rcases hb.reports with ⟨ht, -⟩ | ⟨-, c, -, hc, hrun⟩
  · rw [hi] at ht
    cases ht
  · exact ⟨c, hc, Report.read_rootFiles hrun⟩

end Ends

end Harness

/-- A catalog of one endpoint as it is written. -/
def sampleTable : ByteArray :=
  "id,service,path,http_method,controller_class,method_name\n1,a,/a,GET,A,a\n".toUTF8

/-- The catalog of one endpoint. -/
def sampleCatalog : Catalog := ((Catalog.ofBytes sampleTable).toOption).getD ⟨[]⟩

/-- A tool that does nothing. -/
def idleTool : Tool where
  start _ _ := .ok ⟨⟨[], .exited 0, [], fun _ => 0⟩, fun _ _ => ⟨[], .exited 0, [], fun _ => 0⟩⟩

/-- A harness for one endpoint. -/
def sampleHarness : Harness :=
  { Harness.ofSettings .builtIn [] sampleCatalog (.ofSettings .builtIn idleTool .absent)
      (fun _ => none) with
    monitoring := false
    reports := ⟨[], false, false⟩ }

/-- One run of every endpoint. -/
def sampleOptions : PlanOptions := ⟨1, 60, none, false, 0, 0⟩

/-- A world in which nothing has happened. -/
def sampleWorld : World := .start .empty ⟨1772359200, 0⟩

theorem ofBytes_sampleTable : Catalog.ofBytes sampleTable = .ok sampleHarness.catalog := by
  have h : (Catalog.ofBytes sampleTable).toOption.isSome = true := by decide +kernel
  simp only [sampleHarness, Harness.ofSettings, sampleCatalog]
  cases hc : Catalog.ofBytes sampleTable with
  | error e =>
    rw [hc] at h
    cases h
  | ok c => rfl

end SuiteBench
