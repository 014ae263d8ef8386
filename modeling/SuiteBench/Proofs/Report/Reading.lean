import SuiteBench.Proofs.Report.Listed
import SuiteBench.Proofs.Report.Outputs

/-!
# Proofs.Report.Reading — nothing that a report writes is read by a report

Collecting, analysing the generated tests and looking for evaluations never look at a report.  The
directories that a report makes are those of endpoints that were collected already, and they hold
nothing but reports, so that all of this gives the same before and after a report is written.
-/

namespace SuiteBench

namespace Report

open Output Store

/-- Whether a tree comes from another by writing reports into a results directory. -/
structure Published (d : ResultsDir) (ids : List Nat) (outs : List Output) (t u : Tree) : Prop where
  publishes : Publishes d ids outs
  sound : t.Sound
  distinct : t.Distinct
  root : t.find? d.location = some .directory
  run : Step.run t (outs.flatMap Output.steps) = (u, none)

/-- Whether one tree comes from another by a change of reports alone. -/
structure OnlyReports (d : ResultsDir) (ids : List Nat) (t u : Tree) : Prop where
  /-- What changed is a report, the hidden neighbour of one, which is gone, or the directory of an
  endpoint, which was made. -/
  changes : ∀ m, u.find? m = t.find? m ∨ IsReport d ids m ∨
    (∃ l, IsReport d ids l ∧ m = Step.hidden l ∧ u.find? m = none) ∨
      ∃ id ∈ ids, m = d.endpointLocation id ∧ t.find? m = none ∧ u.find? m = some .directory
  runs : ∀ k m, d.runLocation k <+: m → u.find? m = t.find? m
  deep : ∀ names, 2 < names.length → u.find? (d.location ++ names) = t.find? (d.location ++ names)
  manifest : u.find? (d.location ++ [Layout.manifest]) = t.find? (d.location ++ [Layout.manifest])
  evaluations : ∀ name, u.find? (d.location ++ [name, Layout.manualEvaluation]) =
    t.find? (d.location ++ [name, Layout.manualEvaluation])

namespace Published

variable {d : ResultsDir} {ids : List Nat} {outs : List Output} {t u : Tree} {m : Location}
  {names : List String} {id : Nat}

theorem rewrites (h : Published d ids outs t u) :
    t.Rewrites (fileLocations outs) (dirLocations outs) u :=
  (rewrites_run h.publishes.compatible.ne_nil h.sound h.run).1

theorem soundAfter (h : Published d ids outs t u) : u.Sound :=
  (rewrites_run h.publishes.compatible.ne_nil h.sound h.run).2

theorem distinctAfter (h : Published d ids outs t u) : u.Distinct := by
  have hd := Step.distinct_run h.distinct (outs.flatMap Output.steps)
  rwa [h.run] at hd

theorem inPlace (h : Published d ids outs t u) : InPlace outs u :=
  inPlace_run h.publishes.compatible h.sound h.run

/-! ### What is not written -/

theorem find?_of_directory (h : Published d ids outs t u) (hm : t.find? m = some .directory) :
    u.find? m = some .directory :=
  h.rewrites.find?_of_some (h.rewrites.aside_of_isDirectory hm) hm

/-- Nothing changes but reports, their hidden neighbours and the directories of endpoints. -/
theorem find?_eq (h : Published d ids outs t u) (hm : Tree.Aside (fileLocations outs) m)
    (hne : ∀ id ∈ ids, m ≠ d.endpointLocation id) : u.find? m = t.find? m := by
  rcases h.rewrites.find?_cases hm with hsame | ⟨⟨l, hl, hp⟩, hnone, -⟩
  · exact hsame
  · obtain ⟨id, hid, rfl⟩ := h.publishes.directories l hl
    rw [ResultsDir.endpointLocation_eq] at hp
    rcases List.prefix_concat_iff.mp hp with rfl | hp
    · exact absurd (ResultsDir.endpointLocation_eq d id).symm (hne id hid)
    · rw [h.sound.directory_of_prefix h.root hp] at hnone
      cases hnone

theorem find?_names (h : Published d ids outs t u) (hn : NoReport ids names)
    (hne : ∀ id ∈ ids, names ≠ [Layout.endpointName id]) :
    u.find? (d.location ++ names) = t.find? (d.location ++ names) :=
  h.find?_eq (h.publishes.aside hn) fun id hid he =>
    hne id hid (List.append_cancel_left (he.trans (ResultsDir.endpointLocation_eq d id)))

theorem find?_manualEvaluation (h : Published d ids outs t u) (name : String) :
    u.find? (d.location ++ [name, Layout.manualEvaluation]) =
      t.find? (d.location ++ [name, Layout.manualEvaluation]) :=
  h.find?_names (noReport_manualEvaluation name) fun _ _ => by simp

/-- What stands in the directory of a run is the same. -/
theorem find?_run (h : Published d ids outs t u) {k : RunKey} (hm : d.runLocation k <+: m) :
    u.find? m = t.find? m := by
  obtain ⟨rest, rfl⟩ := hm
  rw [ResultsDir.runLocation_eq, List.append_assoc]
  refine h.find?_names ?_ fun _ _ => by simp
  cases rest with
  | nil => exact noReport_run _ _
  | cons a rest => exact noReport_of_length (by simp)

theorem onlyReports (h : Published d ids outs t u) : OnlyReports d ids t u where
  changes m := by
    by_cases hf : m ∈ fileLocations outs
    · exact .inr (.inl (h.publishes.files m hf))
    by_cases hh : m ∈ (fileLocations outs).map Step.hidden
    · obtain ⟨l, hl, rfl⟩ := List.mem_map.mp hh
      exact .inr (.inr (.inl ⟨l, h.publishes.files l hl, rfl, h.inPlace.hidden l hl⟩))
    by_cases hmade : ∃ id ∈ ids, m = d.endpointLocation id
    · obtain ⟨id, hid, hm⟩ := hmade
      rcases h.rewrites.find?_cases ⟨hf, hh⟩ with hsame | ⟨-, hnone, hdir⟩
      · exact .inl hsame
      · exact .inr (.inr (.inr ⟨id, hid, hm, hnone, hdir⟩))
    · exact .inl (h.find?_eq ⟨hf, hh⟩ fun id hid hm => hmade ⟨id, hid, hm⟩)
  runs _ _ hm := h.find?_run hm
  deep names hn := h.find?_names (noReport_of_length hn) fun id _ he => by simp [he] at hn
  manifest := h.find?_names noReport_manifest fun id _ he =>
    (Layout.rootFiles_ne_endpointName id _ List.mem_cons_self).1 (List.singleton_inj.mp he)
  evaluations := h.find?_manualEvaluation

/-- A directory stands where none of the files and of their hidden neighbours stands. -/
theorem aside_of_directoryAfter (h : Published d ids outs t u) (hm : u.find? m = some .directory) :
    Tree.Aside (fileLocations outs) m := by
  refine ⟨fun hf => ?_, fun hf => ?_⟩
  · obtain ⟨c, hc⟩ := mem_fileLocations_iff.mp hf
    obtain ⟨x, hx⟩ := h.inPlace.files m c hc
    rw [hm] at hx
    cases hx
  · obtain ⟨l, hl, rfl⟩ := List.mem_map.mp hf
    rw [h.inPlace.hidden l hl] at hm
    cases hm

/-- The directories are the old ones and those that were made for endpoints. -/
theorem find?_directory_iff (h : Published d ids outs t u)
    (hne : ∀ id ∈ ids, m ≠ d.endpointLocation id) :
    u.find? m = some .directory ↔ t.find? m = some .directory := by
  refine ⟨fun hm => ?_, h.find?_of_directory⟩
  rwa [h.find?_eq (h.aside_of_directoryAfter hm) hne] at hm

/-- What stands on the way to something below the results directory is the same. -/
theorem read_names (h : Published d ids outs t u)
    (hn : ∀ front, front <+: names → front ≠ [] →
      NoReport ids front ∧ ∀ id ∈ ids, front ≠ [Layout.endpointName id]) :
    u.read (d.location ++ names) = t.read (d.location ++ names) := by
  refine Tree.read_congr fun p hp => ?_
  rcases List.prefix_or_prefix_of_prefix hp (List.prefix_append d.location names) with hpd | ⟨front, rfl⟩
  · have hdir := h.sound.directory_of_prefix h.root hpd
    rw [hdir, h.find?_of_directory hdir]
  · by_cases h0 : front = []
    · rw [h0, List.append_nil, h.root, h.find?_of_directory h.root]
    · obtain ⟨hno, hne⟩ := hn front ((List.prefix_append_right_inj _).mp hp) h0
      exact h.find?_names hno hne

theorem manifest?_eq (h : Published d ids outs t u) : manifest? d u = manifest? d t := by
  have hread : u.read (d.location ++ [Layout.manifest]) = t.read (d.location ++ [Layout.manifest]) := by
    refine h.read_names fun front hf h0 => ?_
    obtain rfl : front = [Layout.manifest] :=
      hf.eq_of_length_le (List.length_pos_iff.mpr h0)
    refine ⟨noReport_manifest, fun id _ he => ?_⟩
    exact (Layout.rootFiles_ne_endpointName id _ List.mem_cons_self).1 (List.singleton_inj.mp he)
  rw [manifest?, manifest?, hread]

/-! ### Runs -/

/-- The documents of a run that are read from an endpoint's directory are the same. -/
theorem recordIn_eq (h : Published d ids outs t u) {k : RunKey}
    (hd : t.find? (d.endpointLocation k.endpoint) = some .directory) :
    recordIn u (d.runLocation k) = recordIn t (d.runLocation k) := by
  have hread : ∀ name, u.read (d.runLocation k ++ [name]) = t.read (d.runLocation k ++ [name]) := by
    intro name
    refine Tree.read_congr fun p hp => ?_
    rcases List.prefix_concat_iff.mp hp with rfl | hp
    · exact h.find?_run (List.prefix_append _ _)
    rw [runLocation_eq_concat] at hp
    rcases List.prefix_concat_iff.mp hp with rfl | hp
    · exact h.find?_run (by rw [runLocation_eq_concat])
    · have hdir := h.sound.directory_of_prefix hd hp
      rw [hdir, h.find?_of_directory hdir]
  simp only [recordIn, documentAt, hread]

/-- The names below a directory that was there already are the same. -/
theorem filterMap_children (h : Published d ids outs t u) {α : Type} {l : Location}
    {f : String × Entry → Option α}
    (hf : ∀ x, f x ≠ none → x.2 = .directory ∧ ∀ id ∈ ids, l ++ [x.1] ≠ d.endpointLocation id) :
    (u.children l).filterMap f = (t.children l).filterMap f := by
  rw [Tree.children, Tree.children, List.filterMap_filterMap, List.filterMap_filterMap]
  have hpick : ∀ {w : Tree} {x : Location × Entry}, w.Distinct → x ∈ w.entries →
      ((if x.1.dropLast == l then x.1.getLast?.map fun n => (n, x.2) else none).bind f) ≠ none →
        w.find? x.1 = some .directory ∧ ∀ id ∈ ids, x.1 ≠ d.endpointLocation id := by
    rintro w ⟨k, e⟩ hw hx hne
    obtain ⟨z, hz⟩ := Option.ne_none_iff_exists'.mp hne
    obtain ⟨y, hy, hfy⟩ := Option.bind_eq_some_iff.mp hz
    obtain ⟨hk, he⟩ := Tree.child_eq_some_iff.mp hy
    obtain ⟨hdir, hids⟩ := hf y (by simp [hfy])
    dsimp only at hk he ⊢
    subst hk
    refine ⟨?_, hids⟩
    rw [Tree.find?_of_ne_nil _ (by simp), Tree.lookup_eq_some_iff_mem hw, ← hdir, ← he]
    exact hx
  refine h.rewrites.filterMap_entries (fun x hx hne => ?_) fun x hx hne => ?_
  · exact h.rewrites.aside_of_isDirectory (hpick h.distinct hx hne).1
  · obtain ⟨hdir, hids⟩ := hpick h.distinctAfter hx hne
    exact ⟨h.aside_of_directoryAfter hdir, by simp [(h.find?_directory_iff hids).mp hdir]⟩

/-- An endpoint with something in its place is read the same. -/
theorem get_endpoint (h : Published d ids outs t u) {e : Entry}
    (hf : t.find? (d.endpointLocation id) = some e) :
    u.get (d.endpointLocation id) = t.get (d.endpointLocation id) := by
  rw [h.sound.get_eq_ok_iff.mpr hf, h.soundAfter.get_eq_ok_iff.mpr]
  exact h.rewrites.find?_of_some (h.publishes.aside_endpoint id) hf

theorem numbered_eq (h : Published d ids outs t u) (id : Nat) :
    numbered u (d.endpointLocation id) "run" = numbered t (d.endpointLocation id) "run" := by
  have hdeep : ∀ a, ∀ id' ∈ ids, d.endpointLocation id ++ [a] ≠ d.endpointLocation id' := by
    intro a id' _ he
    have hlen := congrArg List.length he
    simp [ResultsDir.endpointLocation_eq] at hlen
  have hdirs : ∀ f : String × Entry → Option (Nat × String), (∀ x, f x ≠ none → x.2 = .directory) →
      (u.children (d.endpointLocation id)).filterMap f =
        (t.children (d.endpointLocation id)).filterMap f := fun f hf =>
    h.filterMap_children fun x hx => ⟨hf x hx, hdeep x.1⟩
  cases hf : t.find? (d.endpointLocation id) with
  | some e =>
    rw [numbered, numbered, Tree.list, Tree.list, h.get_endpoint hf]
    cases t.get (d.endpointLocation id) with
    | error f => rfl
    | ok e =>
      cases e with
      | file c x => rfl
      | directory =>
        dsimp only
        rw [hdirs _ fun _ => isDirectory_of_numbered]
  -- an endpoint without a directory may get one, but no run directory is made in it
  | none =>
    have hnone : ∀ {w : Tree}, w.Sound → w.find? d.location = some .directory →
        w.find? (d.endpointLocation id) = none →
          numbered w (d.endpointLocation id) "run" = .ok [] := fun hw hr hn => by
      rw [numbered, Tree.list, ResultsDir.endpointLocation_eq,
        hw.get_concat_of_none hr (ResultsDir.endpointLocation_eq d id ▸ hn)]
    rw [hnone h.sound h.root hf]
    rcases h.rewrites.find?_cases (h.publishes.aside_endpoint id) with hsame | ⟨-, -, hdir⟩
    · exact hnone h.soundAfter (h.find?_of_directory h.root) (hsame.trans hf)
    · rw [numbered, Tree.list, h.soundAfter.get_eq_ok_iff.mpr hdir]
      dsimp only
      rw [hdirs _ fun _ => isDirectory_of_numbered, Tree.children_of_none h.distinct h.sound hf,
        List.filterMap_nil, List.mergeSort_nil]

theorem listRuns_eq (h : Published d ids outs t u) (id : Nat) :
    listRuns d u id = listRuns d t id := by
  rw [Store.listRuns_eq, Store.listRuns_eq, h.numbered_eq]
  cases hn : numbered t (d.endpointLocation id) "run" with
  | error e => rfl
  | ok ns =>
    by_cases hd : t.find? (d.endpointLocation id) = some .directory
    · have hrun : numberedRun d u id = numberedRun d t id := by
        funext x
        rw [numberedRun, numberedRun, h.recordIn_eq (k := ⟨id, x.1⟩) hd]
      rw [hrun]
    · have hnil : ns = [] := by
        rw [numbered, Tree.list] at hn
        cases hg : t.get (d.endpointLocation id) with
        | error f =>
          rw [hg] at hn
          cases f <;> cases hn
          rfl
        | ok e =>
          have hf := (Tree.get_eq_ok_iff.mp hg).2
          cases e with
          | directory => exact absurd hf hd
          | file c x =>
            rw [hg] at hn
            cases hn
      rw [hnil]
      rfl

/-! ### What is collected -/

theorem listEndpoints_iff {w : Tree} {listed : List Nat} (hw : w.Distinct)
    (hl : listEndpoints d w = .ok listed) (hroot : w.get d.location = .ok .directory) (n : Nat) :
    n ∈ listed ↔ ∃ name, w.find? (d.location ++ [name]) = some .directory ∧
      Layout.number? name "endpoint" = some n := by
  rw [listEndpoints] at hl
  rcases numbered_cases hw d.location "endpoint" with ⟨f, -, -, he⟩ | ⟨ns, hns, hnum⟩
  · rw [he] at hl
    cases hl
  · rw [hns] at hl
    cases hl
    simp only [List.mem_map, Prod.exists, exists_and_right, exists_eq_right]
    refine exists_congr fun name => (hnum.mem_iff n name).trans (and_congr_left fun _ => ?_)
    rw [Tree.get_concat_eq_ok_iff]
    exact and_iff_right hroot

theorem get_root (h : Published d ids outs t u) :
    t.get d.location = .ok .directory ∧ u.get d.location = .ok .directory :=
  ⟨h.sound.get_eq_ok_iff.mpr h.root, h.soundAfter.get_eq_ok_iff.mpr (h.find?_of_directory h.root)⟩

theorem listEndpoints_ok (h : Published d ids outs t u) : ∃ listed, listEndpoints d u = .ok listed := by
  rw [listEndpoints, numbered, Tree.list, h.get_root.2]
  exact ⟨_, rfl⟩

/-- The endpoints that are collected are the same, since directories were made for them alone. -/
theorem collectedIds_eq (h : Published d ids outs t u) {listed listed' : List Nat}
    (hl : listEndpoints d t = .ok listed) (hids : ids ⊆ collectedIds d t listed)
    (hl' : listEndpoints d u = .ok listed') : collectedIds d u listed' = collectedIds d t listed := by
  have hold := listEndpoints_iff h.distinct hl h.get_root.1
  have hnew := listEndpoints_iff h.distinctAfter hl' h.get_root.2
  have hasc := pairwise_collectedIds d t listed
  have hasc' := pairwise_collectedIds d u listed'
  have hmem : ∀ n, n ∈ collectedIds d u listed' ↔ n ∈ collectedIds d t listed := by
    intro n
    constructor
    · intro hn
      rw [mem_collectedIds, h.manifest?_eq] at hn
      rcases hn with hn | hn
      · obtain ⟨name, hdir, hnum⟩ := (hnew n).mp hn
        by_cases hmade : ∃ id ∈ ids, name = Layout.endpointName id
        · obtain ⟨id, hid, rfl⟩ := hmade
          rw [Layout.number?_endpointName hnum]
          exact hids hid
        · have hdir' := (h.find?_directory_iff fun id hid he => hmade ⟨id, hid,
            List.singleton_inj.mp (List.append_cancel_left
              (he.trans (ResultsDir.endpointLocation_eq d id)))⟩).mp hdir
          exact mem_collectedIds.mpr (.inl ((hold n).mpr ⟨name, hdir', hnum⟩))
      · exact mem_collectedIds.mpr (.inr hn)
    · intro hn
      rw [mem_collectedIds, h.manifest?_eq]
      refine (mem_collectedIds.mp hn).imp_left fun hn => ?_
      obtain ⟨name, hdir, hnum⟩ := (hold n).mp hn
      exact (hnew n).mpr ⟨name, h.find?_of_directory hdir, hnum⟩
  refine List.Perm.eq_of_pairwise (fun a b _ _ hab hba => absurd hab (Nat.lt_asymm hba)) hasc' hasc ?_
  exact (List.perm_ext_iff_of_nodup (hasc'.imp fun h => h.ne) (hasc.imp fun h => h.ne)).mpr hmem

/-- What is collected is the same. -/
theorem collect_eq (h : Published d ids outs t u) {c : CollectedResults} (hc : collect d t = .ok c)
    (hids : ids = c.endpoints.map (·.endpoint)) : collect d u = .ok c := by
  obtain ⟨-, -, listed, hl, hcollected, -⟩ := collect_inv hc
  obtain ⟨listed', hl'⟩ := h.listEndpoints_ok
  have hsame := h.collectedIds_eq hl (by rw [hids, hcollected]; exact List.Subset.refl _) hl'
  have hresults : ∀ m id, endpointResults d u m id = endpointResults d t m id := fun m id => by
    rw [endpointResults, endpointResults, h.listRuns_eq]
  rw [collect_of_listed (Tree.isDirectory_iff.mpr h.root) hl] at hc
  rw [collect_of_listed (Tree.isDirectory_iff.mpr (h.find?_of_directory h.root)) hl', hsame,
    h.manifest?_eq]
  simp only [hresults]
  exact hc

/-! ### Generated tests -/

theorem ofDirectory_eq (h : Published d ids outs t u) (k : RunKey) :
    SuiteAnalysis.ofDirectory u (testsLocation d k) =
      SuiteAnalysis.ofDirectory t (testsLocation d k) := by
  have hdeep : ∀ {m}, testsLocation d k <+: m →
      Tree.Aside (fileLocations outs) m ∧ u.find? m = t.find? m := by
    rintro m ⟨rest, rfl⟩
    have hnames : testsLocation d k ++ rest = d.location ++
        (Layout.endpointName k.endpoint :: Layout.runName k.run :: Layout.generatedTests :: rest) := by
      simp [testsLocation, ResultsDir.runLocation_eq]
    rw [hnames]
    have hno : NoReport ids (Layout.endpointName k.endpoint :: Layout.runName k.run ::
        Layout.generatedTests :: rest) := noReport_of_length (by simp)
    exact ⟨h.publishes.aside hno, h.find?_names hno fun _ _ => by simp⟩
  have hfiles : u.filesBelow (testsLocation d k) = t.filesBelow (testsLocation d k) :=
    Tree.filesBelow_congr fun _ hf => h.rewrites.filterMap_below (fun _ hm => hdeep hm) hf
  have hdir : u.isDirectory (testsLocation d k) = t.isDirectory (testsLocation d k) := by
    rw [Tree.isDirectory, Tree.isDirectory, (hdeep (List.prefix_refl _)).2]
  rw [SuiteAnalysis.ofDirectory, SuiteAnalysis.ofDirectory, SuiteAnalysis.sources,
    SuiteAnalysis.sources, hfiles, hdir]

theorem endpointTests_eq (h : Published d ids outs t u) (e : EndpointResults) :
    endpointTests d u e = endpointTests d t e := by
  simp only [endpointTests, h.ofDirectory_eq]

theorem metricsOutputs_eq (h : Published d ids outs t u) (settings : ReportSettings)
    {c : CollectedResults} (hc : c.dir = d) : metricsOutputs settings u c = metricsOutputs settings t c := by
  subst hc
  have hendpoint : endpointOutputs settings u c = endpointOutputs settings t c := by
    funext e
    simp only [endpointOutputs, endpointFiles, h.endpointTests_eq]
  rw [metricsOutputs, metricsOutputs, hendpoint]

theorem reportOutputs_eq (h : Published d ids outs t u) (settings : ReportSettings)
    (catalog : Option Catalog) {c : CollectedResults} (hc : c.dir = d) :
    reportOutputs settings catalog u c = reportOutputs settings catalog t c := by
  rw [reportOutputs, reportOutputs, h.metricsOutputs_eq settings hc]

/-- The aggregates can be written again once the whole report was written, and nothing changes. -/
theorem metrics_again {settings : ReportSettings} {catalog : Option Catalog} {c : CollectedResults}
    {extra : List Output} (hdir : c.dir = d)
    (h : Published d ids (reportOutputs settings catalog t c ++ extra) t u)
    (hextra : ∀ l ∈ fileLocations extra, l = d.location ++ [Layout.resultsTable]) :
    ∃ v, Step.run u ((metricsOutputs settings u c).flatMap Output.steps) = (v, none) ∧
      u.SameContents v := by
  have hsplit : reportOutputs settings catalog t c ++ extra =
      metricsOutputs settings t c ++ (tableOutputs settings catalog c ++ extra) := by
    rw [reportOutputs, List.append_assoc]
  have hfiles : fileLocations (metricsOutputs settings t c) ⊆
      fileLocations (reportOutputs settings catalog t c ++ extra) := by
    rw [hsplit, fileLocations_append]
    exact List.subset_append_left _ _
  have hdirs : dirLocations (metricsOutputs settings t c) ⊆
      dirLocations (reportOutputs settings catalog t c ++ extra) := by
    rw [hsplit, dirLocations_append]
    exact List.subset_append_left _ _
  rw [h.metricsOutputs_eq settings hdir]
  refine h.inPlace.again h.soundAfter (h.publishes.compatible.mono hfiles hdirs) hfiles hdirs
    fun l hl => ?_
  have hlater : l ∉ fileLocations (tableOutputs settings catalog c ++ extra) := by
    rw [fileLocations_append, List.mem_append]
    have hname : ∀ name, name ≠ Layout.metricsSummary → l ≠ c.dir.location ++ [name] := by
      rintro name hne rfl
      rcases mem_metricsLocations hl with he | ⟨id, name', he⟩
      · exact hne (List.singleton_inj.mp (List.append_cancel_left he))
      · have hlen := congrArg List.length he
        simp [ResultsDir.endpointLocation_eq] at hlen
    rintro (ht | hx)
    · obtain ⟨name, hne, he⟩ := mem_tableLocations ht
      exact hname name hne he
    · exact hname Layout.resultsTable (by decide) (hdir ▸ hextra l hx)
  rw [hsplit, lastContent?_append, lastContent?_eq_none hlater, Option.none_or]

end Published

/-! ### Evaluations -/

/-- The evaluations with that of one more directory, if it has one. -/
def takeEvaluation (d : ResultsDir) (t : Tree) (es : List (Nat × Evaluation)) (x : String × Entry) :
    Except ReportError (List (Nat × Evaluation)) :=
  match Layout.number? x.1 "endpoint" with
  | none => .ok es
  | some id =>
    match t.find? (d.location ++ [x.1, Layout.manualEvaluation]) with
    | some (.file content _) =>
      match String.fromUTF8? content with
      | some text => .ok (putEvaluation id (Evaluation.ofText text) es)
      | none => .error .notText
    | _ => .ok es

theorem evaluations_eq_foldlM {d : ResultsDir} {t : Tree} (h : t.get d.location = .ok .directory) :
    evaluations d t = (t.children d.location).foldlM (takeEvaluation d t) [] := by
  rw [evaluations, Tree.list, h]
  rfl

/-- Whether something in a results directory was there before and is no report. -/
def wasThere (d : ResultsDir) (files : List Location) (t : Tree) (x : String × Entry) : Bool :=
  decide (Tree.Aside files (d.location ++ [x.1])) && (t.find? (d.location ++ [x.1])).isSome

/-- What changes nothing may be left out. -/
theorem foldlM_filter_of_unchanged {α β ε : Type} {f : β → α → Except ε β} {p : α → Bool}
    (h : ∀ a, p a = false → ∀ b, f b a = .ok b) :
    ∀ (l : List α) (b : β), l.foldlM f b = (l.filter p).foldlM f b
  | [], b => rfl
  | a :: l, b => by
    cases hp : p a with
    | false =>
      rw [List.filter_cons_of_neg (by simp [hp]), List.foldlM_cons, h a hp b]
      exact foldlM_filter_of_unchanged h l b
    | true =>
      rw [List.filter_cons_of_pos hp, List.foldlM_cons, List.foldlM_cons]
      exact bind_congr fun b' => foldlM_filter_of_unchanged h l b'

/-- The evaluations are the same where directories were made and files replaced that are none. -/
theorem evaluations_of_rewrites {d : ResultsDir} {t u : Tree} {files dirs : List Location}
    (hrw : t.Rewrites files dirs u) (ht : t.Sound) (hroot : t.get d.location = .ok .directory)
    (hroot' : u.get d.location = .ok .directory)
    (hsame : ∀ name, Layout.number? name "endpoint" ≠ none →
      u.find? (d.location ++ [name, Layout.manualEvaluation]) =
        t.find? (d.location ++ [name, Layout.manualEvaluation])) :
    evaluations d u = evaluations d t := by
  have htake : takeEvaluation d u = takeEvaluation d t := by
    funext es x
    rw [takeEvaluation, takeEvaluation]
    cases hn : Layout.number? x.1 "endpoint" with
    | none => rfl
    | some id => rw [hsame x.1 (by simp [hn])]
  -- in a directory that was made, and below a file, there is no evaluation
  have hnew : ∀ x, wasThere d files t x = false → ∀ es, takeEvaluation d t es x = .ok es := by
    intro x hx es
    have hnone : t.find? (d.location ++ [x.1, Layout.manualEvaluation]) = none := by
      by_contra hsome
      have hdir := ht _ hsome (d.location ++ [x.1]) (by simp) (by simp)
      have haside := hrw.aside_of_isDirectory hdir
      simp [wasThere, haside, hdir] at hx
    rw [takeEvaluation, hnone]
    split <;> rfl
  have hchildren : (u.children d.location).filter (wasThere d files t) =
      (t.children d.location).filter (wasThere d files t) := by
    rw [Tree.children, Tree.children, List.filter_filterMap, List.filter_filterMap]
    have hpick : ∀ {x : Location × Entry}, ((if x.1.dropLast == d.location
        then x.1.getLast?.map fun n => (n, x.2) else none).filter (wasThere d files t)) ≠ none →
          Tree.Aside files x.1 ∧ t.find? x.1 ≠ none := by
      rintro ⟨k, e⟩ hne
      obtain ⟨y, hy⟩ := Option.ne_none_iff_exists'.mp hne
      obtain ⟨hy, hold⟩ := Option.filter_eq_some_iff.mp hy
      obtain ⟨hk, -⟩ := Tree.child_eq_some_iff.mp hy
      dsimp only at hk ⊢
      rw [hk]
      simpa [wasThere, Option.isSome_iff_ne_none] using hold
    exact hrw.filterMap_entries (fun x _ hne => (hpick hne).1) fun x _ hne => hpick hne
  rw [evaluations_eq_foldlM hroot, evaluations_eq_foldlM hroot', htake,
    foldlM_filter_of_unchanged hnew, hchildren, ← foldlM_filter_of_unchanged hnew]

/-- The evaluations that are found are the same after a report is written. -/
theorem Published.evaluations_eq {d : ResultsDir} {ids : List Nat} {outs : List Output} {t u : Tree}
    (h : Published d ids outs t u) : evaluations d u = evaluations d t :=
  evaluations_of_rewrites h.rewrites h.sound h.get_root.1 h.get_root.2 fun name _ =>
    h.find?_manualEvaluation name

end Report

end SuiteBench
