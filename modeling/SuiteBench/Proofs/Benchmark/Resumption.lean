import SuiteBench.Proofs.Benchmark.Interruption
import SuiteBench.Proofs.Settings.Check

/-!
# Proofs.Benchmark.Resumption — a benchmark that goes on where another one stopped

With tools that keep to the directories of their runs, a results directory holds the records of the
runs that were settled in it and nothing of any other run, wherever the benchmark was stopped.  This is
just what a second benchmark asks for when it skips the runs that have a record.
-/

namespace SuiteBench

/-! ### One attempt in a clear directory -/

namespace Store

variable {d : ResultsDir} {t u : Tree} {k : RunKey}

/-- Clearing a run of which nothing is there leaves nothing of it. -/
theorem Vacant.discard (hv : Vacant d t k) (h : Step.run t (discardSteps d t k) = (u, none)) :
    Vacant d u k := by
  rw [discardSteps] at h
  split at h
  · cases h
    exact hv
  · obtain ⟨v, hrem, h⟩ := Step.run_cons_eq_none.mp h
    cases h
    obtain ⟨-, rfl⟩ := Step.apply_remove hrem
    intro m hm
    refine Tree.find?_cut_below t hm ?_
    rintro rfl
    simp [ResultsDir.runLocation, Layout.runLocation] at hm

end Store

namespace Harness

variable (h : Harness) (o : PlanOptions)

/-- Whether a harness has checked settings, the results directory of a path, and a tool that stays
inside the directory of its run whatever it does. -/
structure Confined : Prop where
  settings : h.executor.settings.check = .ok ()
  results : ∃ cwd p, Location.Proper cwd ∧ h.results = .ofPath cwd p
  tool : ∀ (e : Endpoint) n a,
    h.executor.Does ⟨e, n, o.searchBudget, (h.results.runLocation ⟨e.id, n⟩).path⟩ a →
      a.Within (h.results.runLocation ⟨e.id, n⟩)

variable {h o}

theorem Confined.proper (hc : h.Confined o) : h.results.location.Proper := by
  obtain ⟨cwd, p, hcwd, hres⟩ := hc.results
  rw [hres]
  exact Path.proper_locate hcwd p

/-- An attempt that does not fail, in a directory of which nothing was there, leaves the record or
nothing there, and every other run alone. -/
theorem Confined.attempt (hc : h.Confined o) {e : Endpoint} {n : Nat} {s : Session}
    (hs : s.claims = .none) (hv : Store.Vacant h.results s.world.tree ⟨e.id, n⟩)
    {a : Option RunRecord} (ha : (h.attempt e n o.searchBudget s).1 = .ok a) :
    (∀ k, k ≠ ⟨e.id, n⟩ → Tree.Spares (h.results.runLocation k) s.world.tree
        (h.attempt e n o.searchBudget s).2.world.tree) ∧
      match a with
      | some r => Store.Holds h.results (h.attempt e n o.searchBudget s).2.world.tree r
      | none => Store.Vacant h.results (h.attempt e n o.searchBudget s).2.world.tree ⟨e.id, n⟩ := by
  obtain ⟨c, hcl, -⟩ | ⟨w, f, -, hf, -⟩ | ⟨w, y, w', steps, f, hd, hx, hrun, -, hfin⟩ :=
    h.attempt_cases e n o.searchBudget s
  · rw [hs] at hcl
    cases hcl
  · rw [hf] at ha
    cases ha
  have hclear := (World.perform_eq.mp hd).1
  have hempty : w.tree.find? (h.results.runLocation ⟨e.id, n⟩) = none :=
    hv.discard hclear _ (List.prefix_refl _)
  have hok : ∀ f, (h.executor.execute e n o.searchBudget (h.results.runLocation ⟨e.id, n⟩) w).1 ≠
      .error (.file f) := by
    intro g hg
    rw [hx] at hg
    cases hg
    rw [ha] at hfin
    cases hfin
  obtain ⟨hlog, hway⟩ := Executor.execute_way (hc.tool e n)
    (Layout.proper_runLocation hc.proper _) (ExecutionSettings.bare_of_check hc.settings) hempty hok
  refine ⟨fun k hk => ?_, ?_⟩
  · have hapart := h.results.runLocation_apart hk.symm
    have hexec := Executor.execute_spares (w := w) (hc.tool e n) hapart
      (hlog ▸ hapart.append [h.executor.settings.logFileName])
    rw [hx] at hexec
    exact ((Tree.spares_of_run hclear (Store.avoids_discardSteps hapart)).trans hexec).trans
      (Tree.spares_of_run hrun (hfin.avoids hapart))
  · rw [hx] at hway
    rw [ha] at hfin
    cases hfin with
    | discarded => exact Store.vacant_discard hway hrun
    | saved hr =>
      obtain ⟨v, -, hold, -⟩ := Store.run_saveSteps hrun
      exact hold

end Harness

/-! ### What a results directory holds along a course -/

namespace Settled

theorem counts_skipped (l : List Settled) (k : RunKey) :
    (l ++ [skipped k]).filterMap record? = l.filterMap record? ∧
      (l ++ [skipped k]).filterMap skipped? = l.filterMap skipped? ++ [k] := by
  simp [List.filterMap_append, List.filterMap_cons, record?, skipped?]

theorem counts_recorded (l : List Settled) (r : RunRecord) :
    (l ++ [recorded r]).filterMap record? = l.filterMap record? ++ [r] ∧
      (l ++ [recorded r]).filterMap skipped? = l.filterMap skipped? := by
  simp [List.filterMap_append, List.filterMap_cons, record?, skipped?]

end Settled

/-- Whether a record can be loaded again once it was saved. -/
def RunRecord.Loadable (r : RunRecord) : Prop := r.Fits ∧ ∀ x ∈ r.figures, Json.ReadsBack x

instance (r : RunRecord) : Decidable r.Loadable := inferInstanceAs (Decidable (_ ∧ _))

/-- The records in the results directory are the old ones and those that were settled; of other runs
nothing is there, and just the runs of old records were skipped. -/
structure Ledger (d : ResultsDir) (old : List RunRecord) (l : List Settled) (t : Tree) : Prop where
  holds : ∀ r ∈ old ++ l.filterMap Settled.record?, Store.Holds d t r
  vacant : ∀ k, k ∉ (old ++ l.filterMap Settled.record?).map (·.key) → Store.Vacant d t k
  skipped : ∀ k ∈ l.filterMap Settled.skipped?, k ∈ old.map (·.key)
  recorded : ∀ r ∈ l.filterMap Settled.record?, r.key ∉ old.map (·.key)

namespace Ledger

variable {d : ResultsDir} {old : List RunRecord} {l : List Settled} {t u : Tree} {k : RunKey}

/-- What leaves every run alone keeps the ledger. -/
theorem of_spares (hl : Ledger d old l t) (hs : ∀ k, Tree.Spares (d.runLocation k) t u) :
    Ledger d old l u where
  holds r hr := (hl.holds r hr).of_spares (hs r.key)
  vacant k hk := (hl.vacant k hk).of_spares (hs k)
  skipped := hl.skipped
  recorded := hl.recorded

theorem record?_key {r : RunRecord} (hr : r ∈ l.filterMap Settled.record?) :
    r.key ∈ l.map Settled.key := by
  obtain ⟨x, hx, hxr⟩ := List.mem_filterMap.mp hr
  cases x with
  | recorded r' =>
    cases hxr
    exact List.mem_map_of_mem hx
  | skipped k => cases hxr

/-- A run that is not settled has a record exactly if it has an old one. -/
theorem hasRecord_iff (hl : Ledger d old l t) (hold : ∀ r ∈ old, r.Loadable)
    (hk : k ∉ l.map Settled.key) : Store.hasRecord d t k = true ↔ k ∈ old.map (·.key) := by
  constructor
  · intro hr
    by_contra hn
    rw [Store.hasRecord_of_vacant (hl.vacant k fun hm => ?_)] at hr
    · cases hr
    · rw [List.map_append, List.mem_append] at hm
      rcases hm with hm | hm
      · exact hn hm
      · obtain ⟨r, hmem, rfl⟩ := List.mem_map.mp hm
        exact hk (record?_key hmem)
  · intro hm
    obtain ⟨r, hr, rfl⟩ := List.mem_map.mp hm
    exact Store.hasRecord_of_holds (hl.holds r (List.mem_append_left _ hr)) (hold r hr).1 (hold r hr).2

theorem skip (hl : Ledger d old l t) (hk : k ∈ old.map (·.key)) :
    Ledger d old (l ++ [.skipped k]) t := by
  obtain ⟨hrec, hskip⟩ := Settled.counts_skipped l k
  refine ⟨?_, ?_, fun k' hk' => ?_, ?_⟩
  · rw [hrec]
    exact hl.holds
  · rw [hrec]
    exact hl.vacant
  · rw [hskip, List.mem_append, List.mem_singleton] at hk'
    rcases hk' with hk' | rfl
    · exact hl.skipped k' hk'
    · exact hk
  · rw [hrec]
    exact hl.recorded

/-- An attempt that leaves a record adds it. -/
theorem record {r : RunRecord} (hl : Ledger d old l t)
    (hn : r.key ∉ (old ++ l.filterMap Settled.record?).map (·.key))
    (hs : ∀ k, k ≠ r.key → Tree.Spares (d.runLocation k) t u) (hr : Store.Holds d u r) :
    Ledger d old (l ++ [.recorded r]) u := by
  obtain ⟨hrec, hskip⟩ := Settled.counts_recorded l r
  refine ⟨fun r' hr' => ?_, fun k hk => ?_, ?_, fun r' hr' => ?_⟩
  · rw [hrec, ← List.append_assoc, List.mem_append, List.mem_singleton] at hr'
    rcases hr' with hr' | rfl
    · exact (hl.holds r' hr').of_spares (hs r'.key fun he => hn (he ▸ List.mem_map_of_mem hr'))
    · exact hr
  · rw [hrec, ← List.append_assoc, List.map_append, List.mem_append, not_or] at hk
    exact (hl.vacant k hk.1).of_spares (hs k fun he => hk.2 (by simp [he]))
  · rw [hskip]
    exact hl.skipped
  · rw [hrec, List.mem_append, List.mem_singleton] at hr'
    rcases hr' with hr' | rfl
    · exact hl.recorded r' hr'
    · rw [List.map_append, List.mem_append, not_or] at hn
      exact hn.1

/-- An attempt that leaves nothing changes nothing. -/
theorem cancel (hl : Ledger d old l t) (hn : k ∉ (old ++ l.filterMap Settled.record?).map (·.key))
    (hs : ∀ k', k' ≠ k → Tree.Spares (d.runLocation k') t u) (hv : Store.Vacant d u k) :
    Ledger d old l u where
  holds r hr := (hl.holds r hr).of_spares (hs r.key fun he => hn (he ▸ List.mem_map_of_mem hr))
  vacant k' hk' := by
    by_cases he : k' = k
    · rwa [he]
    · exact (hl.vacant k' hk').of_spares (hs k' he)
  skipped := hl.skipped
  recorded := hl.recorded

end Ledger

namespace Harness

variable {h : Harness} {o : PlanOptions} {old : List RunRecord}

/-- A run that is attempted is neither an old one nor settled. -/
theorem notMem_of_attempted {l : List Settled} {t : Tree} {k : RunKey}
    (hl : Ledger h.results old l t) (hold : ∀ r ∈ old, r.Loadable)
    (hskip : ∀ r ∈ old, o.skipExisting = true) (hk : k ∉ l.map Settled.key)
    (hr : o.skipExisting = true → Store.hasRecord h.results t k = false) :
    k ∉ (old ++ l.filterMap Settled.record?).map (·.key) := by
  rw [List.map_append, List.mem_append]
  rintro (hm | hm)
  · have hrec := (hl.hasRecord_iff hold hk).mpr hm
    obtain ⟨r, hmem, -⟩ := List.mem_map.mp hm
    rw [hr (hskip r hmem)] at hrec
    cases hrec
  · obtain ⟨r, hmem, rfl⟩ := List.mem_map.mp hm
    exact hk (Ledger.record?_key hmem)

/-- What is written about endpoints leaves every run alone. -/
theorem aggregate_spares_runs (h : Harness) (id runs : Nat) (w : World) (k : RunKey) :
    Tree.Spares (h.results.runLocation k) w.tree (h.aggregate id runs w).2.tree :=
  h.aggregate_spares (fun _ _ e hc => hc ▸ Report.endpointSteps_avoid_runs e k) id runs w

/-- Along a course with confined tools the ledger is kept. -/
theorem Confined.keeps (hc : h.Confined o) (hold : ∀ r ∈ old, r.Loadable)
    (hskip : ∀ r ∈ old, o.skipExisting = true) :
    (h.surroundings o).Keeps o.skipExisting
      fun l s => s.claims = .none ∧ Ledger h.results old l s.world.tree where
  wait l ms s hs := by
    rw [surroundings, Operator.tree_wait]
    exact hs
  skip l k s hs hk _ hr := ⟨hs.1, hs.2.skip ((hs.2.hasRecord_iff hold hk).mp hr)⟩
  record l e n s r hs hk hr ha := by
    have hn := notMem_of_attempted hs.2 hold hskip hk hr
    obtain ⟨hspares, hholds⟩ := hc.attempt hs.1 (hs.2.vacant _ hn) ha
    have hkey := h.key_attempt ha
    rw [← hkey] at hn hspares
    exact ⟨h.claims_attempt e n o.searchBudget hs.1, hs.2.record hn hspares hholds⟩
  cancel l e n s hs hk hr ha := by
    have hn := notMem_of_attempted hs.2 hold hskip hk hr
    obtain ⟨hspares, hvacant⟩ := hc.attempt hs.1 (hs.2.vacant _ hn) ha
    exact ⟨h.claims_attempt e n o.searchBudget hs.1, hs.2.cancel hn hspares hvacant⟩
  complete l e s hs ha :=
    ⟨hs.1, hs.2.of_spares fun k => h.aggregate_spares_runs e.id o.runsPerEndpoint s.world k⟩

/-! ### What a benchmark leaves -/

namespace Ends

variable {signals : Nat → Option Signal} {w : World} {p : Plan} {s : Session} {b : BenchmarkRun}
  {t : Tree} (hb : h.Ends signals o w p s b t)

include hb

end Ends

end Harness

/-! ### Two benchmarks, one after the other -/

namespace Ledger

variable {d : ResultsDir} {l : List Settled} {t : Tree}

/-- The records of one benchmark are the old ones of the next. -/
theorem next (hl : Ledger d [] l t) : Ledger d (l.filterMap Settled.record?) [] t where
  holds r hr := hl.holds r (by simpa using hr)
  vacant k hk := hl.vacant k (by simpa using hk)
  skipped k hk := by cases hk
  recorded r hr := by cases hr

end Ledger

namespace Harness.Ends

variable {h : Harness} {signals : Nat → Option Signal} {o : PlanOptions} {w : World} {p : Plan}
  {s : Session} {b : BenchmarkRun} {t u : Tree} {old : List RunRecord}

end Harness.Ends

theorem confined_sampleHarness (o : PlanOptions) : sampleHarness.Confined o where
  settings := ExecutionSettings.check_builtIn
  results := ⟨[], PlanSettings.builtIn.resultsDir, by decide, rfl⟩
  tool := by
    rintro e n a ⟨command, t, p, -, hp, ha⟩
    cases hp
    rcases ha with ha | ha | ⟨wait, ms, ha⟩ <;> cases ha

/-- Whether a benchmark comes to an end after which a condition holds. -/
def endsWith (outcome : Except HarnessError BenchmarkRun) (holds : BenchmarkRun → Bool) : Bool :=
  match outcome with
  | .ok b => holds b
  | .error _ => false

theorem exists_of_endsWith {outcome : Except HarnessError BenchmarkRun}
    {holds : BenchmarkRun → Bool} (h : endsWith outcome holds = true) :
    ∃ b, outcome = .ok b ∧ holds b = true := by
  cases outcome with
  | error e => cases h
  | ok b => exact ⟨b, rfl, h⟩

end SuiteBench
