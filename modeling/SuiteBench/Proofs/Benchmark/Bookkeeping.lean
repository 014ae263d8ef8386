import SuiteBench.Benchmark.Plan
import SuiteBench.Proofs.Benchmark.Manifest
import SuiteBench.Proofs.Store.Records

/-!
# Proofs.Benchmark.Bookkeeping — a benchmark's tally and its lists stay in step

A benchmark keeps what happens to it twice, as lists and as running counts.  Whatever happens to it, and
in whichever order, the counts are those of the lists, and the manifest is read back from its file.
-/

namespace SuiteBench

attribute [ext] RunTally

/-- What can happen to a benchmark. -/
inductive BenchmarkEvent where
  | recorded (r : RunRecord)
  | skipped (k : RunKey)
  | interrupted
  | finished (t : Moment)

namespace BenchmarkEvent

/-- A run is settled. -/
def settled : Settled → BenchmarkEvent
  | .recorded r => recorded r
  | .skipped k => skipped k

/-- The record of a run that was recorded. -/
def record? : BenchmarkEvent → Option RunRecord
  | recorded r => some r
  | _ => none

/-- The key of a run that was skipped. -/
def skipped? : BenchmarkEvent → Option RunKey
  | skipped k => some k
  | _ => none

/-- The time of an end. -/
def finished? : BenchmarkEvent → Option Moment
  | finished t => some t
  | _ => none

/-- Whether a benchmark is stopped. -/
def isInterrupted : BenchmarkEvent → Bool
  | interrupted => true
  | _ => false

theorem any_isInterrupted {es : List BenchmarkEvent} :
    es.any isInterrupted = true ↔ interrupted ∈ es := by
  have hone : ∀ e : BenchmarkEvent, e.isInterrupted = true ↔ e = interrupted := fun e => by
    cases e <;> simp [isInterrupted]
  simp [hone]

/-- Whether the figures of an event lie within the ranges of their fields. -/
def Fits : BenchmarkEvent → Prop
  | skipped k => k.Fits
  | finished t => t.WellFormed
  | recorded _ | interrupted => True

theorem fits_of_mem_skipped {es : List BenchmarkEvent} (h : ∀ e ∈ es, e.Fits) :
    ∀ k ∈ es.filterMap skipped?, k.Fits := by
  intro k hk
  obtain ⟨e, he, heq⟩ := List.mem_filterMap.mp hk
  cases e <;> cases heq
  exact h _ he

theorem wellFormed_of_mem_finished {es : List BenchmarkEvent} (h : ∀ e ∈ es, e.Fits) :
    ∀ t ∈ es.filterMap finished?, t.WellFormed := by
  intro t ht
  obtain ⟨e, he, heq⟩ := List.mem_filterMap.mp ht
  cases e <;> cases heq
  exact h _ he

end BenchmarkEvent

/-- What happens to a benchmark in a course. -/
def Course.events {σ ε : Type} (c : Course σ ε) : List BenchmarkEvent :=
  c.settled.map .settled ++
    match c.ending with
    | .interrupted => [.interrupted]
    | .finished | .failed _ => []

namespace BenchmarkRun

open BenchmarkEvent

variable {b c : BenchmarkRun}

/-- The benchmark after one more event. -/
def apply (b : BenchmarkRun) : BenchmarkEvent → BenchmarkRun
  | .recorded r => b.pushRecord r
  | .skipped k => b.markSkipped k
  | .interrupted => b.interrupt
  | .finished t => b.finish t

/-- The benchmark after some events. -/
def keep (b : BenchmarkRun) (es : List BenchmarkEvent) : BenchmarkRun := es.foldl apply b

/-! ### What is kept in lists -/

/-- Events change the lists, the end and the interruption, each as it tells, and otherwise the tally. -/
theorem keep_eq (es : List BenchmarkEvent) (b : BenchmarkRun) : ∃ tally, b.keep es =
    { b with
      finishedAt := (es.filterMap finished?).getLast?.or b.finishedAt
      records := b.records ++ es.filterMap record?
      skipped := b.skipped ++ es.filterMap skipped?
      interrupted := b.interrupted || es.any isInterrupted
      tally := tally } := by
  induction es generalizing b with
  | nil => exact ⟨b.tally, by simp [keep]⟩
  | cons e es ih =>
    obtain ⟨tally, h⟩ := ih (b.apply e)
    refine ⟨tally, ?_⟩
    rw [keep, List.foldl_cons, ← keep, h]
    cases e with
    | finished t =>
      have hlast : (t :: es.filterMap finished?).getLast?.or b.finishedAt =
          (es.filterMap finished?).getLast?.or (some t) := by
        rw [List.getLast?_cons]
        cases (es.filterMap finished?).getLast? <;> rfl
      simp [apply, finish, List.filterMap_cons, record?, skipped?, finished?, isInterrupted, hlast]
    | _ =>
      simp [apply, pushRecord, markSkipped, interrupt, List.filterMap_cons, record?, skipped?,
        finished?, isInterrupted]

/-! ### What is counted -/

/-- Whether the tally of a benchmark counts its lists: the records by their status and by the deadline,
the failed ones under their diagnoses, and the skipped runs. -/
structure Balanced (b : BenchmarkRun) : Prop where
  recorded : b.tally.recorded = b.records.length
  successful : b.tally.successful = b.records.countP (·.isSuccess)
  split : b.tally.successful + b.tally.failed = b.tally.recorded
  timedOut : b.tally.timedOut = b.records.countP (·.timedOut)
  skipped : b.tally.skipped = b.skipped.length
  /-- Each diagnosis stands once, and with a positive count. -/
  ordered : b.tally.diagnoses.Ordered
  diagnoses : ∀ d, b.tally.diagnoses.count d =
    b.records.countP fun r => !r.isSuccess && r.diagnosis = d
  failures : (b.tally.diagnoses.map Prod.snd).sum = b.tally.failed

theorem balanced_new (ids : List Nat) (runs budget : Nat) (began : Moment) :
    (new ids runs budget began).Balanced :=
  ⟨rfl, rfl, rfl, rfl, rfl, ⟨.nil, by simp [new, RunTally.empty]⟩, fun _ => rfl, rfl⟩

theorem Balanced.pushRecord (h : b.Balanced) (r : RunRecord) : (b.pushRecord r).Balanced := by
  cases hs : r.isSuccess with
  | true =>
    refine ⟨?_, ?_, ?_, ?_, h.skipped, ?_, fun d => ?_, ?_⟩ <;>
      simp only [BenchmarkRun.pushRecord, RunTally.observe, hs, if_true, List.length_append,
        List.countP_append, List.countP_singleton, List.length_singleton]
    · rw [h.recorded]
    · rw [h.successful]
    · have := h.split
      omega
    · rw [h.timedOut]
    · exact h.ordered
    · exact h.diagnoses d
    · exact h.failures
  | false =>
    refine ⟨?_, ?_, ?_, ?_, h.skipped, ?_, fun d => ?_, ?_⟩ <;>
      simp only [BenchmarkRun.pushRecord, RunTally.observe, hs, Bool.false_eq_true, if_false,
        List.length_append, List.countP_append, List.countP_singleton, List.length_singleton]
    · rw [h.recorded]
    · rw [h.successful]
    · have := h.split
      omega
    · rw [h.timedOut]
    · exact h.ordered.add
    · rw [DiagnosisCounts.count_add, h.diagnoses]
      simp
    · rw [h.ordered.sum_add, h.failures]

theorem Balanced.markSkipped (h : b.Balanced) (k : RunKey) : (b.markSkipped k).Balanced :=
  { h with skipped := by simp [BenchmarkRun.markSkipped, RunTally.skip, h.skipped] }

theorem Balanced.apply (h : b.Balanced) : ∀ e, (b.apply e).Balanced
  | .recorded r => h.pushRecord r
  | .skipped k => h.markSkipped k
  | .interrupted | .finished _ => { h with }

theorem Balanced.keep (h : b.Balanced) (es : List BenchmarkEvent) : (b.keep es).Balanced := by
  induction es generalizing b with
  | nil => exact h
  | cons e es ih => exact ih (h.apply e)

/-- The order of the records does not tell in the tally. -/
theorem Balanced.tally_eq (hb : b.Balanced) (hc : c.Balanced) (hrecords : b.records.Perm c.records)
    (hskipped : b.skipped.length = c.skipped.length) : b.tally = c.tally := by
  have hrecorded : b.tally.recorded = c.tally.recorded := by
    rw [hb.recorded, hc.recorded, hrecords.length_eq]
  have hsuccessful : b.tally.successful = c.tally.successful := by
    rw [hb.successful, hc.successful, hrecords.countP_eq]
  have hfailed : b.tally.failed = c.tally.failed := by
    have := hb.split
    have := hc.split
    omega
  have htimedOut : b.tally.timedOut = c.tally.timedOut := by
    rw [hb.timedOut, hc.timedOut, hrecords.countP_eq]
  have hskips : b.tally.skipped = c.tally.skipped := by rw [hb.skipped, hc.skipped, hskipped]
  have hdiagnoses : b.tally.diagnoses = c.tally.diagnoses := hb.ordered.ext hc.ordered fun d => by
    rw [hb.diagnoses, hc.diagnoses, hrecords.countP_eq]
  exact RunTally.ext hrecorded hsuccessful hfailed htimedOut hskips hdiagnoses

/-! ### The benchmark of a course -/

section Course

variable {σ ε : Type}

theorem after_eq_keep (b : BenchmarkRun) (c : Course σ ε) : b.after c = b.keep c.events := by
  have hsettled : c.settled.foldl settle b = b.keep (c.settled.map .settled) := by
    rw [keep, List.foldl_map]
    congr 1
    funext b x
    cases x <;> rfl
  rw [after, hsettled, Course.events]
  cases c.ending <;> simp [keep, apply]

/-- The books of a benchmark are in step after every course. -/
theorem balanced_after (p : Plan) (began : Moment) (c : Course σ ε) :
    ((p.benchmark began).after c).Balanced := by
  rw [after_eq_keep]
  exact (balanced_new _ _ _ _).keep c.events

end Course

/-! ### The manifest -/

theorem Balanced.fits_tally (h : b.Balanced) (hrecords : b.records.length ≤ Decimal.max32)
    (hskipped : b.skipped.length ≤ Decimal.max32) : b.tally.Fits where
  recorded := h.recorded ▸ hrecords
  successful := h.successful ▸ List.countP_le_length.trans hrecords
  failed := by
    have := h.split
    have := h.recorded
    omega
  timedOut := h.timedOut ▸ List.countP_le_length.trans hrecords
  skipped := h.skipped ▸ hskipped
  diagnoses x hx := by
    rw [← (h.ordered.mem_iff.mp hx).2, h.diagnoses]
    exact List.countP_le_length.trans hrecords

/-- Events with figures in range leave a manifest with figures in range. -/
theorem fits_manifest_keep {es : List BenchmarkEvent} (hb : b.Balanced) (h : b.manifest.Fits)
    (hes : ∀ e ∈ es, e.Fits) (hrecords : (b.keep es).records.length ≤ Decimal.max32)
    (hskipped : (b.keep es).skipped.length ≤ Decimal.max32) : (b.keep es).manifest.Fits := by
  have htally := (hb.keep es).fits_tally hrecords hskipped
  obtain ⟨tally, heq⟩ := keep_eq es b
  rw [heq] at htally hrecords ⊢
  refine { h with
    finishedAt := fun t ht => ?_
    recordedRuns := le_max64 hrecords
    skippedRuns := fun k hk => ?_
    tally := htally }
  · rcases Option.or_eq_some_iff.mp ht with hlast | ⟨-, hold⟩
    · exact wellFormed_of_mem_finished hes t (List.mem_of_getLast? hlast)
    · exact h.finishedAt t hold
  · rcases List.mem_append.mp hk with hold | hnew
    · exact h.skippedRuns k hold
    · exact fits_of_mem_skipped hes k hnew

/-- Whether the books that some events leave of a new benchmark are in step. -/
structure InStep (b : BenchmarkRun) (es : List BenchmarkEvent) : Prop where
  records : (b.keep es).records = es.filterMap record?
  skipped : (b.keep es).skipped = es.filterMap skipped?
  balanced : (b.keep es).Balanced
  /-- The order of the records does not matter. -/
  unordered : ∀ fs : List BenchmarkEvent, (fs.filterMap record?).Perm (es.filterMap record?) →
    (fs.filterMap skipped?).length = (es.filterMap skipped?).length →
      (b.keep fs).tally = (b.keep es).tally
  complete : (b.keep es).isComplete = true ↔ .interrupted ∉ es ∧ (b.keep es).records.length =
    b.endpointIds.length * b.runsPerEndpoint - (b.keep es).skipped.length
  manifest : (Json.ofBytes? (b.keep es).manifest.toJson.fileText).bind Manifest.ofJson? =
    some (b.keep es).manifest

variable {ids : List Nat} {runs budget : Nat} {began : Moment} {es : List BenchmarkEvent}

/-- Whatever has happened to a new benchmark so far, its books are in step. -/
theorem inStep_new (hplan : (new ids runs budget began).manifest.Fits) (hes : ∀ e ∈ es, e.Fits)
    (hrecorded : (es.filterMap record?).length ≤ Decimal.max32)
    (hskipped : (es.filterMap skipped?).length ≤ Decimal.max32) :
    (new ids runs budget began).InStep es := by
  have hnew := balanced_new ids runs budget began
  have hrecords : ∀ fs, ((new ids runs budget began).keep fs).records = fs.filterMap record? := by
    intro fs
    obtain ⟨tally, h⟩ := keep_eq fs (new ids runs budget began)
    rw [h]
    rfl
  have hskips : ∀ fs, ((new ids runs budget began).keep fs).skipped = fs.filterMap skipped? := by
    intro fs
    obtain ⟨tally, h⟩ := keep_eq fs (new ids runs budget began)
    rw [h]
    rfl
  refine ⟨hrecords es, hskips es, hnew.keep es, fun fs hperm hlength => ?_, ?_, ?_⟩
  · refine (hnew.keep fs).tally_eq (hnew.keep es) ?_ ?_
    · rwa [hrecords, hrecords]
    · rwa [hskips, hskips]
  · obtain ⟨tally, h⟩ := keep_eq es (new ids runs budget began)
    rw [h, ← any_isInterrupted, isComplete, Bool.and_eq_true, beq_iff_eq, Bool.not_eq_true',
      ← Bool.not_eq_true]
    rfl
  · refine Manifest.ofBytes?_fileText ?_ (hnew.keep es).ordered
    exact fits_manifest_keep hnew hplan hes (by rwa [hrecords]) (by rwa [hskips])

/-- A run that was killed at its deadline. -/
def lateRecord : RunRecord :=
  { sampleRecord with key := ⟨3, 8⟩, exitCode := 124, timedOut := true, status := .failed
                      diagnosis := .timeout }

/-- What happens to a benchmark that a signal stops. -/
def sampleEvents : List BenchmarkEvent :=
  [.skipped ⟨3, 6⟩, .recorded sampleRecord, .recorded lateRecord, .interrupted,
    .finished ⟨1772359400, 127000000⟩]

theorem inStep_new_sampleEvents : (new [3] 9 60 ⟨1772359200, 0⟩).manifest.Fits ∧
    (∀ e ∈ sampleEvents, e.Fits) ∧ (sampleEvents.filterMap record?).length ≤ Decimal.max32 ∧
      (sampleEvents.filterMap skipped?).length ≤ Decimal.max32 ∧
        (new [3] 9 60 ⟨1772359200, 0⟩).InStep sampleEvents := by
  have hplan : (new [3] 9 60 ⟨1772359200, 0⟩).manifest.Fits := by decide
  have hskip : (⟨3, 6⟩ : RunKey).Fits := by decide
  have hend : (⟨1772359400, 127000000⟩ : Moment).WellFormed := by decide
  have hes : ∀ e ∈ sampleEvents, e.Fits := by
    simp only [sampleEvents, List.forall_mem_cons]
    exact ⟨hskip, trivial, trivial, trivial, hend, by simp⟩
  exact ⟨hplan, hes, by decide, by decide, inStep_new hplan hes (by decide) (by decide)⟩

end BenchmarkRun

end SuiteBench
