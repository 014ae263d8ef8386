import SuiteBench.Proofs.Benchmark.Bookkeeping
import SuiteBench.Proofs.Benchmark.Isolation
import SuiteBench.Proofs.Report.Evidence

/-!
# Proofs.Benchmark.Regeneration — the files of an endpoint, written early and late

A benchmark writes the files of an endpoint as soon as its runs are settled, from the planned number of
runs; later reports write them from the manifest and from what is found in the results directory.  What
a benchmark does after an endpoint is done leaves the evidence of this endpoint alone, and the manifest
tells the planned number, so that both come to the same files.
-/

namespace SuiteBench

/-! ### Attempts at other endpoints -/

theorem ToolAction.Within.untouched {P : Location → Prop} [DecidablePred P] {dir : Location}
    {a : ToolAction} {t : Tree} (h : a.Within dir) (hP : ∀ m, P m → ¬ dir <+: m) :
    a.Keeps (Tree.Untouched P t) := by
  intro u hu
  cases a with
  | put l e => exact hu.trans (.of_set fun hl => hP l hl h.1)
  | clear l => exact hu.trans (.of_cut fun m hm hl => hP m hm (h.1.trans hl))
  | output s bytes | wait ms | raise s => exact hu

namespace ResultsDir

variable {d : ResultsDir} {t : Tree} {k : RunKey} {id : Nat}

theorem not_runLocation_prefix (d : ResultsDir) (k : RunKey) {id : Nat} {p : Location}
    (hp : p <+: d.endpointLocation id) : ¬ d.runLocation k <+: p := fun hk => by
  have hlen := (hk.trans hp).length_le
  simp [runLocation_eq, endpointLocation_eq] at hlen

theorem leavesWays_of_within {s : Step} (h : s.Within (d.runLocation k)) : d.LeavesWays s :=
  fun _ _ hp hr => d.not_runLocation_prefix k hp (h.replaces hr)

/-- The evidence of one endpoint lies apart from the runs of the others. -/
theorem Evidence.apart {m : Location} (h : d.Evidence id m) (hk : k.endpoint ≠ id) :
    m.Apart (d.runLocation k) := by
  have hends : Location.Apart (d.endpointLocation id) (d.endpointLocation k.endpoint) :=
    .of_ne fun he => hk (Layout.stem_injective _ he).symm
  have hrun : Location.Apart (d.runLocation k) (d.endpointLocation id) := by
    rw [Store.runLocation_eq_concat]
    exact hends.symm.append _
  exact hrun.symm.of_prefix h.1

theorem leavesEvidence_of_within {s : Step} (h : s.Within (d.runLocation k)) (hk : k.endpoint ≠ id) :
    d.LeavesEvidence id s :=
  ⟨leavesWays_of_within h, fun _ hm ht => (h.touches ht).elim (hm.apart hk).2 (hm.apart hk).1⟩

/-- What stays below the directory of a run leaves all that can be reached in its place. -/
theorem Open.keeps {a : ToolAction} (h : a.Within (d.runLocation k)) : a.Keeps d.Open := by
  intro t ht id name hne p hp
  rw [h.find?_eq t fun hk => ?_] at hne
  · rw [h.find?_eq t fun hk => absurd hk (d.not_runLocation_prefix k hp)]
    exact ht id name hne p hp
  · exact (hk.eq_of_length (by simp [runLocation_eq, endpointLocation_eq])).symm

theorem KeepsEvidence.keeps {a : ToolAction} (h : a.Within (d.runLocation k)) (hk : k.endpoint ≠ id) :
    a.Keeps (d.KeepsEvidence id t) := fun u hu => {
  way := fun p hp =>
    (h.find?_eq u fun hkp => absurd hkp (d.not_runLocation_prefix k hp)).trans (hu.way p hp)
  untouched := h.untouched (fun _ hm => (Evidence.apart hm hk).2) u hu.untouched
  opened := Open.keeps h u hu.opened }

/-- Nothing is left of a run once it is discarded. -/
theorem Open.find?_discarded {u : Tree} (h : d.Open t)
    (hr : Step.run t (Store.discardSteps d t k) = (u, none)) : u.find? (d.runLocation k) = none := by
  rw [Store.discardSteps] at hr
  split at hr
  · next hg =>
    cases hr
    by_contra hne
    obtain ⟨e, he⟩ := Option.ne_none_iff_exists'.mp hne
    rw [Store.runLocation_eq_concat] at hne hg he
    have hget := Tree.get_concat_eq_ok_iff.mpr ⟨(h _ _ hne).get_eq, he⟩
    rw [hg] at hget
    cases hget
  · obtain ⟨v, hv, hu⟩ := Step.run_cons_eq_none.mp hr
    cases hu
    obtain ⟨-, rfl⟩ := Step.apply_remove hv
    exact Tree.find?_cut_below t (List.prefix_refl _) (Store.runLocation_ne_nil d k)

end ResultsDir

namespace Harness

variable {h : Harness} {o : PlanOptions} {e : Endpoint} {n id : Nat} {s : Session} {t : Tree}

theorem Confined.open_attempt (hc : h.Confined o) (ho : h.results.Open s.world.tree) :
    h.results.Open (h.attempt e n o.searchBudget s).2.world.tree :=
  attempt_keeps hc.settings hc.proper (hc.tool e n) (fun _ hu => ho.find?_discarded hu)
    (fun _ _ _ hs ha hv => hv.apply ha (ResultsDir.leavesWays_of_within hs))
    (fun _ ha => ResultsDir.Open.keeps ha) ho

/-- An attempt leaves the evidence of the other endpoints alone. -/
theorem Confined.keepsEvidence_attempt (hc : h.Confined o) (he : e.id ≠ id)
    (hk : h.results.KeepsEvidence id t s.world.tree) :
    h.results.KeepsEvidence id t (h.attempt e n o.searchBudget s).2.world.tree :=
  attempt_keeps hc.settings hc.proper (hc.tool e n) (fun _ hu => hk.opened.find?_discarded hu)
    (fun _ _ _ hs ha hv => hv.apply ha (ResultsDir.leavesEvidence_of_within hs he))
    (fun _ ha => ResultsDir.KeepsEvidence.keeps ha he) hk

/-! ### The other operations -/

theorem aggregate_leavesEvidence (h : Harness) (id id' runs : Nat) (w : World) : ∃ steps,
    (Step.run w.tree steps).1 = (h.aggregate id' runs w).2.tree ∧
      ∀ s ∈ steps, h.results.LeavesEvidence id s := by
  obtain ⟨steps, f, hrun, -, rfl | ⟨c, e, hc, rfl⟩, -⟩ := h.aggregate_cases id' runs w
  · exact ⟨[], by rw [hrun], by simp⟩
  · exact ⟨_, by rw [hrun], fun s hs => hc ▸ ResultsDir.leavesEvidence_endpointSteps id s hs⟩

/-- What is written when an endpoint is done. -/
theorem aggregate_eq_ok {id runs : Nat} {w v : World} (ha : h.aggregate id runs w = (.ok (), v)) :
    ∃ results, h.endpointResults id runs w.tree = .ok results ∧
      Step.run w.tree (Report.endpointSteps h.reports w.tree ⟨h.results, none, [results]⟩ results) =
        (v.tree, none) := by
  rw [aggregate] at ha
  cases hr : h.endpointResults id runs w.tree with
  | error e =>
    rw [hr] at ha
    cases ha
  | ok results =>
    rw [hr] at ha
    dsimp only at ha
    generalize (Store.unreadable h.results w.tree id).map _ = warnings at ha
    cases hp : (w.warnAll warnings).perform (Report.endpointSteps h.reports
      (w.warnAll warnings).tree ⟨h.results, none, [results]⟩ results) with
    | mk u f =>
      obtain ⟨hrun, -⟩ := World.perform_eq.mp hp
      rw [hp] at ha
      cases f with
      | some f => cases ha
      | none =>
        cases ha
        rw [World.tree_warnAll] at hrun
        exact ⟨results, rfl, hrun⟩

theorem endpointResults_eq_ok {id runs : Nat} {t : Tree} {e : EndpointResults} :
    h.endpointResults id runs t = .ok e ↔ ∃ rs, Store.listRuns h.results t id = .ok rs ∧
      e = ⟨id, some runs, rs.filterMap (·.record), []⟩ := by
  rw [endpointResults, Store.loadEndpoint]
  cases Store.listRuns h.results t id with
  | error f => simp [Except.map]
  | ok rs => simp [Except.map, eq_comm]

theorem Confined.maintains_open (hc : h.Confined o) :
    (h.surroundings o).Maintains fun s => h.results.Open s.world.tree where
  wait ms s hs := by
    rw [surroundings, Operator.tree_wait]
    exact hs
  attempt e n s hs := hc.open_attempt hs
  complete e s hs := by
    obtain ⟨steps, hrun, hl⟩ := h.aggregate_leavesEvidence e.id e.id o.runsPerEndpoint s.world
    have hopen := Step.run_induction steps (fun st hst _ _ ha hv => hv.apply ha (hl st hst).ways) hs
    rwa [hrun] at hopen

/-- Once an endpoint is done, the rest of the plan leaves its evidence alone. -/
theorem Confined.maintains_evidence (hc : h.Confined o) (id : Nat) (t : Tree) :
    (h.surroundings o).MaintainsFor (fun e => e.id ≠ id) fun s =>
      h.results.KeepsEvidence id t s.world.tree where
  wait ms s hs := by
    rw [surroundings, Operator.tree_wait]
    exact hs
  attempt e n s he hs := hc.keepsEvidence_attempt he hs
  complete e s _ hs := by
    obtain ⟨steps, hrun, hl⟩ := h.aggregate_leavesEvidence id e.id o.runsPerEndpoint s.world
    have hkeeps := hs.run hl
    rwa [hrun] at hkeeps

/-! ### The way to the manifest -/

variable (h o) in
/-- How a benchmark comes to write its manifest: it follows its plan without a failure, interrupted or
not, from a world to the tree in which its manifest stands. -/
structure Concludes (signals : Nat → Option Signal) (w : World) (p : Plan) (s : Session)
    (b : BenchmarkRun) (t : Tree) : Prop where
  plan : Plan.ofCatalog h.catalog o = .ok p
  opened : h.openResults (.start w) true = (.ok (), s)
  unfailed : ∀ f, (h.courseUnder signals p s).ending ≠ .failed f
  benchmark : b = ((p.benchmark s.world.now).after (h.courseUnder signals p s)).finish
    (h.courseUnder signals p s).state.1.world.now
  manifest : Step.run (h.courseUnder signals p s).state.1.world.tree (h.manifestSteps b) = (t, none)

variable {signals : Nat → Option Signal} {w : World} {p : Plan} {b : BenchmarkRun}

theorem Ends.concludes (hb : h.Ends signals o w p s b t) : h.Concludes o signals w p s b t :=
  ⟨hb.plan, hb.opened, hb.unfailed, hb.benchmark, hb.manifest⟩

/-- What comes after a manifest that was written: nothing, or reports that may be cut short. -/
theorem conclude_tree {b : BenchmarkRun} {w : World}
    (hm : Step.run w.tree (h.manifestSteps (b.finish w.now)) = (t, none)) :
    (h.conclude b w).2.tree = t ∨ ∃ c, c.dir = h.results ∧ (h.conclude b w).2.tree =
      (Step.run t (Report.reportSteps h.reports (some h.catalog) t c)).1 := by
  simp only [conclude]
  cases hp : w.perform (h.manifestSteps (b.finish w.now)) with
  | mk v f =>
    obtain ⟨hrun, -⟩ := World.perform_eq.mp hp
    rw [hm] at hrun
    cases hrun
    dsimp only
    split
    · exact .inl rfl
    · rw [report]
      obtain ⟨c, hc, hdir⟩ | ⟨x, hc⟩ | ⟨f, hc⟩ := Report.collect_cases h.results v.tree
      · refine .inr ⟨c, hdir, ?_⟩
        rw [hc]
        dsimp only
        generalize Report.collectWarnings h.results v.tree c = warnings
        cases hq : (v.warnAll warnings).perform
          (Report.reportSteps h.reports (some h.catalog) (v.warnAll warnings).tree c) with
        | mk u f =>
          obtain ⟨hreports, -⟩ := World.perform_eq.mp hq
          rw [World.tree_warnAll] at hreports
          rw [hreports]
          cases f <;> rfl
      · rw [hc]
        exact .inl rfl
      · rw [hc]
        exact .inl rfl

namespace Concludes

variable (hb : h.Concludes o signals w p s b t)

include hb

/-- The trees in which a later report may find the results. -/
theorem tree_cases : (h.runUnder signals o (.start w)).2.world.tree = t ∨ ∃ c, c.dir = h.results ∧
    (h.runUnder signals o (.start w)).2.world.tree =
      (Step.run t (Report.reportSteps h.reports (some h.catalog) t c)).1 := by
  have hm := hb.manifest
  rw [hb.benchmark] at hm
  rw [runUnder_of_unfailed hb.plan hb.opened hb.unfailed]
  exact conclude_tree hm

/-- What holds once the manifest is written and is kept by the reports holds in the end. -/
theorem holds_later {Q : Tree → Prop} (ht : Q t)
    (hreports : ∀ c, c.dir = h.results → Q (Step.run t
      (Report.reportSteps h.reports (some h.catalog) t c)).1) :
    ∀ u ∈ [t, (h.runUnder signals o (.start w)).2.world.tree], Q u := by
  intro u hu
  simp only [List.mem_cons, List.not_mem_nil, or_false] at hu
  rcases hu with rfl | rfl
  · exact ht
  · rcases hb.tree_cases with heq | ⟨c, hc, heq⟩
    · rwa [heq]
    · rw [heq]
      exact hreports c hc

/-- The manifest of the benchmark is read by later reports. -/
theorem manifest?_eq (hfit : b.manifest.Fits) :
    ∀ u ∈ [t, (h.runUnder signals o (.start w)).2.world.tree],
      Report.manifest? h.results u = some b.manifest := by
  have hordered : b.manifest.tally.diagnoses.Ordered := by
    rw [hb.benchmark]
    exact (BenchmarkRun.balanced_after p s.world.now (h.courseUnder signals p s)).ordered
  have hread : ∀ u ∈ [t, (h.runUnder signals o (.start w)).2.world.tree],
      u.read (h.results.location ++ [Layout.manifest]) = .ok b.manifest.toJson.fileText := by
    have ht := (Step.run_replace hb.manifest (by simp)).1
    refine hb.holds_later ht fun c hc => ?_
    rw [← hc] at ht ⊢
    exact Step.read_run (fun st hst => (Report.reportSteps_avoid_manifest st hst).1) ht
  intro u hu
  simp only [Report.manifest?, hread u hu, Except.toOption, Option.bind_eq_bind, Option.bind_some]
  exact Manifest.ofBytes?_fileText hfit hordered

/-- The plan is about endpoints with different ids. -/
theorem plan_options (hc : h.catalog.endpoints.map (·.id) = List.range' 1 h.catalog.size) :
    p.options = o ∧ (p.endpoints.map (·.id)).Nodup := by
  obtain ⟨p', hp', hopt, hids⟩ := Plan.ofCatalog_cases hc (Plan.only_of_ofCatalog hb.plan)
  rw [hb.plan] at hp'
  cases hp'
  exact ⟨hopt, hids ▸ o.nodup_ids _⟩

theorem manifest_eq : b.manifest.endpointIds = p.endpoints.map (·.id) ∧
    b.manifest.runsPerEndpoint = p.options.runsPerEndpoint := by
  obtain ⟨tally, ha⟩ := BenchmarkRun.after_eq p s.world.now (h.courseUnder signals p s)
  rw [hb.benchmark, ha]
  exact ⟨rfl, rfl⟩

end Concludes

/-- The world in which the work on an endpoint is ended, once the stages before were followed. -/
def closingWorld (h : Harness) (signals : Nat → Option Signal) (p : Plan) (before : List Stage)
    (s : Session) : World :=
  let c := Plan.through (h.surroundingsUnder signals p.options) p before (s, 0)
  (c.state.1.signal signals c.state.2).world

theorem complete_surroundingsUnder (h : Harness) (signals : Nat → Option Signal) (o : PlanOptions)
    (e : Endpoint) (x : Session × Nat) :
    ((h.surroundingsUnder signals o).complete e x).1 =
        (h.aggregate e.id o.runsPerEndpoint (x.1.signal signals x.2).world).1 ∧
      ((h.surroundingsUnder signals o).complete e x).2.1.world.tree =
        (h.aggregate e.id o.runsPerEndpoint (x.1.signal signals x.2).world).2.tree :=
  ⟨rfl, Session.tree_signal _ _ _⟩

namespace Concludes

variable {before after : List Stage} (hb : h.Concludes o signals w p s b t)

include hb

/-- All that stands in the directory of an endpoint can be reached along the course of the plan. -/
theorem open_closingWorld (hc : h.Confined o) (hw : w.tree.Sound) (ho : p.options = o) :
    h.results.Open (h.closingWorld signals p before s).tree := by
  subst ho
  have hstart : h.results.Open s.world.tree := by
    have hsound : (Step.run w.tree [.makeDirs h.results.location]).1.Sound :=
      Step.sound_run hw (by simp [Step.Regular])
    rw [(openResults_ok hb.opened).2] at hsound
    exact ResultsDir.open_of_sound hsound
  have hm := h.maintains_tree signals p.options hc.maintains_open
  rw [closingWorld, Session.tree_signal]
  exact (Plan.through_maintains (p := p) hm before (s := (s, 0)) hstart).1

/-- The files of an endpoint are written without a failure once its runs are settled, and its evidence
is what later reports find. -/
theorem aggregated (hids : h.catalog.endpoints.map (·.id) = List.range' 1 h.catalog.size)
    (hc : h.Confined o) (hst : p.stages = before ++ .close e :: after)
    (hdone : (Plan.through (h.surroundingsUnder signals p.options) p before (s, 0)).ending =
      .finished) :
    ∃ v, h.aggregate e.id o.runsPerEndpoint (h.closingWorld signals p before s) = (.ok (), v) ∧
      ∀ {u}, h.results.KeepsEvidence e.id u v.tree →
        ∀ u' ∈ [t, (h.runUnder signals o (.start w)).2.world.tree],
          h.results.KeepsEvidence e.id u u' := by
  obtain ⟨rfl, hnodup⟩ := hb.plan_options hids
  have hcourse : h.courseUnder signals p s = Plan.through (h.surroundingsUnder signals p.options) p
      (before ++ .close e :: after) (s, 0) := by
    rw [courseUnder, Plan.follow_eq_through, hst]
  obtain ⟨hok, hstate⟩ := Plan.through_close hdone (hcourse ▸ hb.unfailed)
  obtain ⟨houtcome, htree⟩ := h.complete_surroundingsUnder signals p.options e
    (Plan.through (h.surroundingsUnder signals p.options) p before (s, 0)).state
  rw [← hcourse] at hstate
  rw [houtcome] at hok
  refine ⟨_, Prod.ext hok rfl, fun {u} hv => ?_⟩
  have hsignal : ∀ i (s : Session), h.results.KeepsEvidence e.id u s.world.tree →
      h.results.KeepsEvidence e.id u (s.signal signals i).world.tree := fun i s hs => by simpa using hs
  -- what comes after the endpoint, and then the manifest and the reports
  have hafter : h.results.KeepsEvidence e.id u (h.courseUnder signals p s).state.1.world.tree := by
    rw [hstate]
    refine Plan.through_maintainsFor ((hc.maintains_evidence e.id u).disturbed hsignal) after
      (Plan.later_stages hnodup hst).2 ?_
    rw [htree]
    exact hv
  have hmanifest := hafter.of_run hb.manifest
    (h.results.leavesEvidence_rootFile e.id List.mem_cons_self _)
  exact hb.holds_later hmanifest fun c hdir => hmanifest.run fun st hs =>
    hdir ▸ ResultsDir.leavesEvidence_reportSteps e.id st hs

end Concludes

end Harness

theorem Report.expectedRuns_of_mem {m : Manifest} {id : Nat} (h : id ∈ m.endpointIds)
    (runs : List Store.StoredRun) : expectedRuns (some m) id runs = some m.runsPerEndpoint := by
  simp [expectedRuns, Option.filter, h]

/-- The files that are written for an endpoint as soon as its runs are settled are, byte for byte, those
that a report writes for it which is made from the manifest of the same benchmark, be it interrupted or
not: the report of the benchmark itself, or a later one about the tree that the benchmark left. -/
theorem aggregate_regenerated {h : Harness} {bytes : ByteArray} {o : PlanOptions}
    {signals : Nat → Option Signal} {w : World} {p : Plan} {s : Session} {b : BenchmarkRun} {t : Tree}
    {before after : List Stage} {e : Endpoint} (hcat : Catalog.ofBytes bytes = .ok h.catalog)
    (hc : h.Confined o) (hw : w.tree.Sound) (hb : h.Concludes o signals w p s b t)
    (hfit : b.manifest.Fits) (hst : p.stages = before ++ .close e :: after)
    (hdone : (Plan.through (h.surroundingsUnder signals p.options) p before (s, 0)).ending =
      .finished) :
    ∃ results v,
      h.endpointResults e.id o.runsPerEndpoint (h.closingWorld signals p before s).tree =
        .ok results ∧
      h.aggregate e.id o.runsPerEndpoint (h.closingWorld signals p before s) = (.ok (), v) ∧
      (∀ f ∈ Report.endpointFiles h.reports (h.closingWorld signals p before s).tree
          ⟨h.results, none, [results]⟩ results, v.tree.read f.location = .ok f.content) ∧
      ∀ u ∈ [t, (h.runUnder signals o (.start w)).2.world.tree], ∀ c,
        Report.collect h.results u = .ok c →
          (∃ r ∈ c.endpoints, r.endpoint = e.id) ∧
          ∀ r ∈ c.endpoints, r.endpoint = e.id → Report.endpointFiles h.reports u c r =
            Report.endpointFiles h.reports (h.closingWorld signals p before s).tree
              ⟨h.results, none, [results]⟩ results := by
  have hids := Catalog.ids_ofBytes hcat
  obtain ⟨hopt, hnodup⟩ := hb.plan_options hids
  have hopen : h.results.Open (h.closingWorld signals p before s).tree :=
    hb.open_closingWorld hc hw hopt
  obtain ⟨v, ha, hlater⟩ := hb.aggregated hids hc hst hdone
  obtain ⟨results, hres, hrun⟩ := Harness.aggregate_eq_ok ha
  obtain ⟨runs, hruns, rfl⟩ := Harness.endpointResults_eq_ok.mp hres
  obtain ⟨hway, hkeeps⟩ := ResultsDir.keepsEvidence_of_written hopen hrun
  refine ⟨_, v, hres, ha, Report.read_endpointFiles hrun, fun u hu c hcol => ?_⟩
  have hevidence := hlater hkeeps u hu
  have hmanifest := hb.manifest?_eq hfit u hu
  have hid : e.id ∈ b.manifest.endpointIds := by
    rw [hb.manifest_eq.1]
    exact List.mem_map_of_mem (Plan.later_stages hnodup hst).1
  obtain ⟨hdir, -, -, -, -, hresults⟩ := Report.collect_inv hcol
  refine ⟨Report.requested_collected hcol hmanifest hid, fun r hr hre => ?_⟩
  -- both are made from the same listing, and the manifest tells the number that the plan told
  have hcollected := hresults r hr
  rw [hmanifest, hre] at hcollected
  obtain ⟨runs', hruns', hr'⟩ := Report.endpointResults_eq_ok.mp hcollected
  rw [hevidence.listRuns_eq hopen hway, hruns] at hruns'
  cases hruns'
  refine hevidence.endpointFiles_eq h.reports hdir rfl ⟨hre, hre⟩ ?_ (by rw [hr'])
  rw [hr', Report.expectedRuns_of_mem hid, hb.manifest_eq.2, hopt]

/-- The stages before one that a finished course went through were finished. -/
theorem Plan.through_front {σ ε : Type} {x : Surroundings σ ε} {p : Plan} {front rest : List Stage}
    {s : σ} (h : (through x p (front ++ rest) s).ending = .finished) :
    (through x p front s).ending = .finished := by
  by_contra hf
  rw [through_append, Course.andThen_of_ended hf] at h
  exact hf h

theorem settled_sample : endsWith (sampleHarness.runUnder (fun _ => none) sampleOptions
    (.start sampleWorld)).1 (fun b => !b.interrupted && decide b.manifest.Fits) = true := by
  decide +kernel

/-- The sample plan has one endpoint with one run. -/
theorem stages_sample {p : Plan} (hp : Plan.ofCatalog sampleHarness.catalog sampleOptions = .ok p) :
    ∃ e, p.stages = [.turn none e 1] ++ .close e :: [] := by
  have hone : sampleHarness.catalog.endpoints.length = 1 := by decide +kernel
  obtain ⟨e, he⟩ := List.length_eq_one_iff.mp hone
  cases hp
  refine ⟨e, ?_⟩
  rw [Plan.stages, he]
  rfl

theorem aggregate_regenerated_sample :
    Catalog.ofBytes sampleTable = .ok sampleHarness.catalog ∧ sampleHarness.Confined sampleOptions ∧
      sampleWorld.tree.Sound ∧ ∃ p s b t e v c r,
        sampleHarness.Concludes sampleOptions (fun _ => none) sampleWorld p s b t ∧
        b.manifest.Fits ∧ p.stages = [.turn none e 1, .close e] ∧
        sampleHarness.aggregate e.id 1
          (sampleHarness.closingWorld (fun _ => none) p [.turn none e 1] s) = (.ok (), v) ∧
        Report.collect sampleHarness.results t = .ok c ∧ r ∈ c.endpoints ∧ r.endpoint = e.id ∧
        ∀ f ∈ Report.endpointFiles sampleHarness.reports t c r,
          v.tree.read f.location = .ok f.content := by
  obtain ⟨b, hb, hchecked⟩ := exists_of_endsWith settled_sample
  simp only [Bool.and_eq_true, Bool.not_eq_true', decide_eq_true_eq] at hchecked
  obtain ⟨hfinished, hfit⟩ := hchecked
  obtain ⟨p, s, t, hends⟩ := Harness.ends_of_ok (Catalog.ids_ofBytes ofBytes_sampleTable) hb
  obtain ⟨e, hstages⟩ := stages_sample hends.plan
  have hconf := confined_sampleHarness sampleOptions
  have hdone : (Plan.through (sampleHarness.surroundingsUnder (fun _ => none) p.options) p
      [.turn none e 1] (s, 0)).ending = .finished := by
    have hcourse := hends.interrupted_eq_false_iff.mp hfinished
    rw [Harness.courseUnder, Plan.follow_eq_through, hstages] at hcourse
    exact Plan.through_front hcourse
  obtain ⟨results, v, -, ha, hwritten, hlater⟩ := aggregate_regenerated ofBytes_sampleTable hconf
    Tree.sound_empty hends.concludes hfit hstages hdone
  obtain ⟨c, hc, -⟩ := hends.read_reports hfinished
  obtain ⟨⟨r, hr, hid⟩, hsame⟩ := hlater t List.mem_cons_self c hc
  refine ⟨ofBytes_sampleTable, hconf, Tree.sound_empty, p, s, b, t, e, v, c, r, hends.concludes, hfit,
    hstages, ha, hc, hr, hid, ?_⟩
  rw [hsame r hr hid]
  exact hwritten

end SuiteBench
