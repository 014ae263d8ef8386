import Mathlib.Order.Interval.Finset.Nat
import SuiteBench.Proofs.Decimal.Doubles
import SuiteBench.Proofs.Report.FirstRecords

/-!
# Proofs.Report.Consistency — the figures of an aggregate fit together

What an aggregate tells of an endpoint is counted here run by run: a run is a number that some record
of the endpoint has, and the first such record stands for it.  Every count, list and summary of an
aggregate is one of these counts, so that they agree with one another whatever records there are.  A
summary counts the finite figures of its series, and has figures of its own exactly if it counts any.
-/

namespace SuiteBench

/-! ### Summaries of series -/

namespace Stats

open Decimal

variable {α : Type} [Figures α] {xs : List α}

/-- Whether the figures of a summary are there exactly if it counts something. -/
structure Backed (s : Stats α) : Prop where
  avg : s.avg = none ↔ s.count = 0
  min : s.min = none ↔ s.count = 0
  max : s.max = none ↔ s.count = 0
  deviation : s.deviation = none ↔ s.count = 0

theorem backed_ofFinite (xs : List α) : (ofFinite xs).Backed := by
  cases xs with
  | nil => exact ⟨by simp [ofFinite], by simp [ofFinite], by simp [ofFinite], by simp [ofFinite]⟩
  | cons x xs => exact ⟨by simp [ofFinite], by simp [ofFinite], by simp [ofFinite], by simp [ofFinite]⟩

theorem backed_of (xs : List α) : (of xs).Backed := backed_ofFinite _

theorem backed_ofAvailable (xs : List (Option α)) : (ofAvailable xs).Backed := backed_of _

theorem count_of (xs : List α) : (of xs).count = xs.countP Figures.isFinite := by
  rw [of, List.countP_eq_length_filter]
  cases xs.filter Figures.isFinite <;> rfl

/-- Of finite figures none is left out. -/
theorem count_of_finite (h : ∀ x ∈ xs, Figures.isFinite x = true) : (of xs).count = xs.length := by
  rw [count_of, List.countP_eq_length]
  exact h

theorem count_ofAvailable {xs : List (Option α)}
    (h : ∀ x ∈ xs, ∀ a ∈ x, Figures.isFinite a = true) :
    (ofAvailable xs).count = xs.countP (·.isSome) := by
  have hlength : (xs.filterMap id).length = xs.countP (·.isSome) := by
    rw [List.length_filterMap_eq_countP]
    rfl
  rw [ofAvailable, count_of_finite, hlength]
  intro a ha
  obtain ⟨x, hx, hxa⟩ := List.mem_filterMap.mp ha
  exact h x hx a hxa

end Stats

/-! ### Ends of runs -/

namespace RunRecord

/-- Every run ran without error, threw errors or was killed, and no run did two of these. -/
theorem countP_ended (rs : List RunRecord) :
    rs.countP (·.ranWithoutError) + (rs.countP (·.threwErrors) + rs.countP (·.timedOut)) =
      rs.length := by
  induction rs with
  | nil => rfl
  | cons r rs ih =>
    simp only [List.countP_cons, List.length_cons, ← ih, ranWithoutError, threwErrors]
    cases r.timedOut
    · cases hc : r.exitCode == 0
      · simp [bne, hc]
        omega
      · simp [bne, hc]
        omega
    · simp
      omega

end RunRecord

namespace Report

variable {endpoint : Nat} {rs : List RunRecord} {expected : Option Nat}

/-! ### Counting runs -/

/-- The numbers of the runs of which an endpoint has a record. -/
def presentRuns (endpoint : Nat) (rs : List RunRecord) : Finset Nat :=
  ((rs.filter fun r => r.key.endpoint = endpoint).map (·.key.run)).toFinset

/-- How many runs of an endpoint have a first record with `p`. -/
def runsWith (endpoint : Nat) (rs : List RunRecord) (p : RunRecord → Bool) : Nat :=
  ((presentRuns endpoint rs).filter fun n => (firstRecord? ⟨endpoint, n⟩ rs).any p).card

theorem mem_presentRuns {n : Nat} : n ∈ presentRuns endpoint rs ↔ ∃ r ∈ rs, r.key = ⟨endpoint, n⟩ := by
  simp [presentRuns, RunKey.ext_iff, and_assoc]

theorem toFinset_runsOf (endpoint : Nat) (rs : List RunRecord) :
    ((runsOf endpoint rs).map (·.key.run)).toFinset = presentRuns endpoint rs := by
  ext n
  rw [List.mem_toFinset, mem_runsOf, mem_presentRuns]

theorem length_runsOf (endpoint : Nat) (rs : List RunRecord) :
    (runsOf endpoint rs).length = (presentRuns endpoint rs).card := by
  rw [← toFinset_runsOf, List.toFinset_card_of_nodup (nodup_runsOf endpoint rs), List.length_map]

/-- What is counted over the records that stand is counted over the runs. -/
theorem countP_runsOf (endpoint : Nat) (rs : List RunRecord) (p : RunRecord → Bool) :
    (runsOf endpoint rs).countP p = runsWith endpoint rs p := by
  have hnodup : (((runsOf endpoint rs).filter p).map (·.key.run)).Nodup :=
    (List.filter_sublist.map _).nodup (nodup_runsOf endpoint rs)
  rw [List.countP_eq_length_filter, runsWith, ← List.length_map (·.key.run),
    ← List.toFinset_card_of_nodup hnodup]
  congr 1
  ext n
  simp only [List.mem_toFinset, List.mem_map, List.mem_filter, Finset.mem_filter, mem_presentRuns,
    Option.any_eq_true]
  constructor
  · rintro ⟨r, ⟨hr, hp⟩, rfl⟩
    obtain ⟨rfl, hfirst⟩ := mem_runsOf_iff.mp hr
    exact ⟨⟨r, List.mem_of_find?_eq_some hfirst, rfl⟩, r, hfirst, hp⟩
  · rintro ⟨-, r, hfirst, hp⟩
    have hkey : r.key = ⟨endpoint, n⟩ := by simpa using List.find?_some hfirst
    exact ⟨r, ⟨mem_runsOf_iff.mpr ⟨by rw [hkey], by rwa [hkey]⟩, hp⟩, by rw [hkey]⟩

theorem mem_of_mem_runsOf {r : RunRecord} (h : r ∈ runsOf endpoint rs) : r ∈ rs :=
  List.mem_of_find?_eq_some (mem_runsOf_iff.mp h).2

/-! ### Missing runs -/

theorem pairwise_missingRuns (expected : Option Nat) (rs : List RunRecord) :
    (missingRuns expected rs).Pairwise (· < ·) :=
  (List.pairwise_map.mpr (List.pairwise_lt_range.imp Nat.succ_lt_succ)).sublist List.filter_sublist

theorem toFinset_missingRuns (expected : Option Nat) (rs : List RunRecord) :
    (missingRuns expected rs).toFinset =
      Finset.Icc 1 (expected.getD 0) \ (rs.map (·.key.run)).toFinset := by
  ext n
  simp only [missingRuns, List.mem_toFinset, List.mem_filter, List.mem_map, List.mem_range,
    Bool.not_eq_true', List.contains_eq_mem, decide_eq_false_iff_not, Finset.mem_sdiff, Finset.mem_Icc]
  refine and_congr_left fun _ => ⟨?_, fun h => ⟨n - 1, by omega, by omega⟩⟩
  rintro ⟨m, hm, rfl⟩
  omega

/-! ### Figures of runs -/

theorem count_statsOf (f : RunRecord → Nat) (rs : List RunRecord) :
    (statsOf f rs).count = rs.length := by
  rw [statsOf, Stats.count_of_finite, List.length_map]
  rintro x hx
  obtain ⟨r, -, rfl⟩ := List.mem_map.mp hx
  exact Decimal.isFinite_ofNat _

/-- A summary of figures that some runs lack counts the runs that have them. -/
theorem count_ofAvailable_runsOf {f : RunRecord → Option Float}
    (h : ∀ r ∈ rs, ∀ x ∈ f r, x.isFinite = true) :
    (Stats.ofAvailable ((runsOf endpoint rs).map f)).count =
      runsWith endpoint rs fun r => (f r).isSome := by
  rw [Stats.count_ofAvailable, List.countP_map, countP_runsOf]
  · rfl
  · intro x hx
    obtain ⟨r, hr, rfl⟩ := List.mem_map.mp hx
    exact h r (mem_of_mem_runsOf hr)

theorem count_goals (f : RunRecord → Option Nat) :
    (Stats.ofAvailable ((runsOf endpoint rs).map fun r =>
      (f r).map (Decimal.Figures.ofNat (α := Float)))).count =
        runsWith endpoint rs fun r => (f r).isSome := by
  rw [count_ofAvailable_runsOf]
  · simp only [Option.isSome_map]
  · intro r _ x hx
    obtain ⟨n, -, rfl⟩ := Option.mem_map.mp hx
    exact Decimal.isFinite_ofNat n

end Report

/-- The summaries of an aggregate. -/
def EndpointAggregate.summaries (a : EndpointAggregate) : List (Stats Float) :=
  [a.generationTime, a.cpu, a.memory, a.tests, a.methods, a.assertions, a.coverage, a.totalGoals,
    a.coveredGoals, a.errors.totalErrors, a.errors.missingPackages, a.errors.missingSymbols]

namespace Report

/-- Whether an aggregate tells of the runs of an endpoint what their records say. -/
structure Consistent (endpoint : Nat) (expected : Option Nat) (rs : List RunRecord)
    (a : EndpointAggregate) : Prop where
  total : a.totalRuns = (presentRuns endpoint rs).card
  successful : a.successfulRuns = runsWith endpoint rs (·.ranWithoutError)
  timedOut : a.timedOut = runsWith endpoint rs (·.timedOut)
  split : a.successfulRuns + a.failedRuns = a.totalRuns
  failed : a.failedRuns = runsWith endpoint rs (·.threwErrors) + a.timedOut
  /-- The figures about errors are those of the runs that failed. -/
  errors : a.errors.totalErrors.count = a.failedRuns ∧ a.errors.missingPackages.count = a.failedRuns ∧
    a.errors.missingSymbols.count = a.failedRuns
  missingAscending : a.missingRuns.Pairwise (· < ·)
  /-- Of the expected runs just those are missing that are not present. -/
  missing : a.missingRuns.toFinset = Finset.Icc 1 (expected.getD 0) \ presentRuns endpoint rs
  lines : (a.runs.map (·.run)).Pairwise (· < ·) ∧ (a.runs.map (·.run)).toFinset = presentRuns endpoint rs
  exitCodes : a.exitCodes.values = a.runs.map (·.exitCode)
  /-- Every run has a duration and was searched for tests. -/
  everyRun : a.generationTime.count = a.totalRuns ∧ a.tests.count = a.totalRuns ∧
    a.methods.count = a.totalRuns ∧ a.assertions.count = a.totalRuns
  /-- The resources of a run are known if any sample was taken. -/
  sampled : a.cpu.count = runsWith endpoint rs (fun r => r.resources.samples ≠ 0) ∧
    a.memory.count = runsWith endpoint rs (fun r => r.resources.samples ≠ 0)
  coverage : a.coverage.count = runsWith endpoint rs (·.coverage.coverage.isSome) ∧
    a.totalGoals.count = runsWith endpoint rs (·.coverage.totalGoals.isSome) ∧
    a.coveredGoals.count = runsWith endpoint rs (·.coverage.coveredGoals.isSome)
  /-- Without entries a summary has no figures, so that missing data is never told as zero. -/
  backed : ∀ s ∈ a.summaries, s.Backed

/-- The failed runs of an aggregate are those that threw errors or were killed. -/
theorem failedRuns_eq (endpoint : Nat) (expected : Option Nat) (rs : List RunRecord) :
    (aggregate endpoint expected rs).failedRuns =
      runsWith endpoint rs (·.threwErrors) + runsWith endpoint rs (·.timedOut) := by
  have hended := RunRecord.countP_ended (runsOf endpoint rs)
  rw [← countP_runsOf, ← countP_runsOf]
  change (runsOf endpoint rs).length - (runsOf endpoint rs).countP (·.ranWithoutError) = _
  omega

/-- A summary over the runs that ended badly counts each of the failed runs. -/
theorem count_failed (f : RunRecord → Nat) :
    (statsOf f ((runsOf endpoint rs).filter endedBadly)).count =
      (aggregate endpoint expected rs).failedRuns := by
  have hbad : (runsOf endpoint rs).countP endedBadly =
      (runsOf endpoint rs).countP fun r => decide ¬ r.ranWithoutError = true :=
    List.countP_congr fun r _ => by
      simp only [endedBadly, RunRecord.threwErrors, RunRecord.ranWithoutError]
      by_cases ht : r.timedOut = true <;> simp [ht]
  have hsplit := List.length_eq_countP_add_countP (·.ranWithoutError) (l := runsOf endpoint rs)
  rw [count_statsOf, ← List.countP_eq_length_filter, hbad]
  change _ = (runsOf endpoint rs).length - (runsOf endpoint rs).countP (·.ranWithoutError)
  omega

/-- The aggregate of records with finite figures is consistent, whichever runs they belong to, however
often and in which order. -/
theorem consistent_aggregate (endpoint : Nat) (expected : Option Nat) {rs : List RunRecord}
    (h : ∀ r ∈ rs, ∀ x ∈ r.figures, x.isFinite = true) :
    Consistent endpoint expected rs (aggregate endpoint expected rs) where
  total := length_runsOf endpoint rs
  successful := countP_runsOf endpoint rs _
  timedOut := countP_runsOf endpoint rs _
  split := Nat.add_sub_of_le List.countP_le_length
  failed := (failedRuns_eq endpoint expected rs).trans
    (congrArg _ (countP_runsOf endpoint rs (·.timedOut)).symm)
  errors := ⟨count_failed _, count_failed _, count_failed _⟩
  missingAscending := pairwise_missingRuns expected _
  missing := by
    rw [← toFinset_runsOf]
    exact toFinset_missingRuns expected _
  lines := by
    have hlines : (aggregate endpoint expected rs).runs.map (·.run) =
        (runsOf endpoint rs).map (·.key.run) := List.map_map
    rw [hlines]
    exact ⟨List.pairwise_map.mpr (pairwise_runsOf endpoint rs), toFinset_runsOf endpoint rs⟩
  exitCodes := by
    change (runsOf endpoint rs).map (·.exitCode) = ((runsOf endpoint rs).map runLine).map (·.exitCode)
    rw [List.map_map]
    rfl
  everyRun := by
    refine ⟨?_, count_statsOf _ _, count_statsOf _ _, count_statsOf _ _⟩
    change (Stats.of ((runsOf endpoint rs).map (·.durationSeconds))).count = _
    rw [Stats.count_of_finite, List.length_map]
    · rfl
    · intro x hx
      obtain ⟨r, hr, rfl⟩ := List.mem_map.mp hx
      exact h r (mem_of_mem_runsOf hr) _ List.mem_cons_self
  sampled := by
    have hsampled (f : RunRecord → Float) (hf : ∀ r, f r ∈ r.figures) :
        (Stats.ofAvailable ((runsOf endpoint rs).map fun r =>
          if r.resources.samples = 0 then none else some (f r))).count =
            runsWith endpoint rs (fun r => r.resources.samples ≠ 0) := by
      rw [count_ofAvailable_runsOf]
      · congr 1
        funext r
        by_cases hr : r.resources.samples = 0 <;> simp [hr]
      · intro r hr x hx
        split at hx
        · cases hx
        · cases hx
          exact h r hr _ (hf r)
    exact ⟨hsampled (·.resources.cpuAverage) fun r => by simp [RunRecord.figures],
      hsampled (·.resources.memoryPeak) fun r => by simp [RunRecord.figures]⟩
  coverage := by
    refine ⟨count_ofAvailable_runsOf fun r hr x hx => h r hr x ?_, count_goals _, count_goals _⟩
    simp [RunRecord.figures, Option.mem_def.mp hx]
  backed := by
    simp only [EndpointAggregate.summaries, List.forall_mem_cons]
    refine ⟨Stats.backed_of _, Stats.backed_ofAvailable _, Stats.backed_ofAvailable _,
      Stats.backed_of _, Stats.backed_of _, Stats.backed_of _, Stats.backed_ofAvailable _,
      Stats.backed_ofAvailable _, Stats.backed_ofAvailable _, Stats.backed_of _, Stats.backed_of _,
      Stats.backed_of _, ?_⟩
    exact fun _ hs => absurd hs List.not_mem_nil

/-- A run that failed and has a second record, one that was killed before any sample was taken, one that
succeeded, and a run of another endpoint. -/
def mixedRecords : List RunRecord :=
  [recordAt ⟨3, 7⟩ 0, recordAt ⟨3, 2⟩ 1, recordAt ⟨4, 1⟩ 0, recordAt ⟨3, 2⟩ 0,
    { recordAt ⟨3, 5⟩ 124 with timedOut := true, resources := .empty }]

theorem consistent_aggregate_mixed :
    (∀ r ∈ mixedRecords, ∀ x ∈ r.figures, x.isFinite = true) ∧
      Consistent 3 (some 5) mixedRecords (aggregate 3 (some 5) mixedRecords) ∧
      (aggregate 3 (some 5) mixedRecords).failedRuns = 2 ∧
      (aggregate 3 (some 5) mixedRecords).cpu.count = 2 ∧
      (aggregate 3 (some 5) mixedRecords).missingRuns.toFinset = {1, 3, 4} := by
  have hfinite : ∀ r ∈ mixedRecords, ∀ x ∈ r.figures, x.isFinite = true := by decide
  have h := consistent_aggregate 3 (some 5) hfinite
  refine ⟨hfinite, h, ?_, ?_, ?_⟩
  · rw [h.failed, h.timedOut]
    decide
  · rw [h.sampled.1]
    decide
  · rw [h.missing]
    decide

end Report

end SuiteBench
