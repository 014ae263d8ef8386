import SuiteBench.Proofs.Benchmark.Interruption
import SuiteBench.Proofs.CommandLine.Reports
import SuiteBench.Proofs.Report.Agreement

/-!
# Proofs.CommandLine.Repetition — reporting twice

A report that succeeds changes nothing but reports, their hidden neighbours and missing directories of
endpoints, so that a second one reads the same and writes the same.  Only the catalog can come between:
it is read again, and the report may have moved its file away or made a directory on its path.
-/

namespace SuiteBench

open Report Report.Output CommandLine

namespace CommandLine.Site

variable {site : Site} {s : Settings} {results : Option Path} {w w' v : World} {o o' : Outcome}
  {t u : Tree} {p : Path} {d : ResultsDir} {ids : List Nat} {outs : List Output}

/-! ### The catalog -/

/-- Whether a path keeps clear of a report: it leads to no report and to no hidden neighbour of one, and
through no directory of an endpoint that has to be made. -/
structure Clear (site : Site) (d : ResultsDir) (ids : List Nat) (t : Tree) (p : Path) : Prop where
  file : ¬ IsReport d ids (p.locate site.cwd)
  hidden : ∀ l, IsReport d ids l → p.locate site.cwd ≠ Step.hidden l
  way : ∀ id ∈ ids, d.endpointLocation id ∈ p.way site.cwd → t.find? (d.endpointLocation id) ≠ none

/-- The file at a path that keeps clear of a report is the same. -/
theorem Clear.file?_eq (hp : site.Clear d ids t p) (h : Published d ids outs t u) :
    site.file? u p = site.file? t p := by
  have haside : Tree.Aside (fileLocations outs) (p.locate site.cwd) := by
    refine ⟨fun hm => hp.file (h.publishes.files _ hm), fun hm => ?_⟩
    obtain ⟨l, hl, he⟩ := List.mem_map.mp hm
    exact hp.hidden l (h.publishes.files l hl) he.symm
  have hway : ∀ l ∈ p.way site.cwd, (u.find? l = some .directory ↔ t.find? l = some .directory) := by
    intro l hl
    by_cases hmade : ∃ id ∈ ids, l = d.endpointLocation id
    · obtain ⟨id, hid, rfl⟩ := hmade
      obtain ⟨e, he⟩ := Option.ne_none_iff_exists'.mp (hp.way id hid hl)
      rw [he, h.rewrites.find?_of_some (h.publishes.aside_endpoint id) he]
    · exact h.find?_directory_iff fun id hid he => hmade ⟨id, hid, he⟩
  have hfile : ∀ b x, u.find? (p.locate site.cwd) = some (.file b x) ↔
      t.find? (p.locate site.cwd) = some (.file b x) := by
    intro b x
    rcases h.rewrites.find?_cases haside with hsame | ⟨-, hnone, hdir⟩
    · rw [hsame]
    · simp [hnone, hdir]
  ext b
  rw [file?_eq_some_iff, file?_eq_some_iff]
  simp only [h.sound.get_eq_ok_iff, h.soundAfter.get_eq_ok_iff]
  exact and_congr_right fun _ => and_congr_right fun _ =>
    and_congr (forall₂_congr hway) (exists_congr (hfile b))

/-- A path that leads out of the results directory and through no endpoint keeps clear. -/
theorem Clear.of_outside (hp : ¬ d.location <+: p.locate site.cwd)
    (hway : ∀ id, d.endpointLocation id ∉ p.way site.cwd) : site.Clear d ids t p where
  file h := hp h.below.1
  hidden _ h he := hp (he ▸ h.below.2)
  way id _ hid := absurd hid (hway id)

/-! ### The evaluations -/

/-- Evaluations are put into the table again as they were, since the table is written anew before. -/
theorem Merged.again {v w : Tree} {merge : Bool} {settings : ReportSettings} {catalog : Option Catalog}
    {c : CollectedResults} {extra : List Output} {lines : List String}
    (h : Merged d u merge extra lines) (hdir : c.dir = d)
    (hfirst : Published d ids (reportOutputs settings catalog t c) t u)
    (hall : Published d ids (reportOutputs settings catalog t c ++ extra) t w)
    (hsecond : Published d ids (reportOutputs settings catalog t c) w v) :
    Merged d v merge extra lines := by
  refine h.of_same ?_ fun b x hb => ?_
  · rw [hsecond.evaluations_eq, hall.evaluations_eq, hfirst.evaluations_eq]
  · have hlast := hdir ▸ lastContent?_resultsTable settings catalog t c
    obtain ⟨y, hy⟩ := hfirst.inPlace.files _ _ hlast
    obtain ⟨z, hz⟩ := hsecond.inPlace.files _ _ hlast
    rw [hb] at hy
    cases hy
    exact ⟨z, hz⟩

end CommandLine.Site

/-! ### Reporting twice -/

/-- A report that succeeds changes nothing but reports in the results directory and in those of the
collected endpoints; a hidden neighbour of one is gone, and endpoints without a directory get one.  No
file of a run, no manifest and no evaluation changes.  Collecting after it succeeds and changes nothing,
and so does a second report, which says the same, if the path of the catalog keeps clear of the
reports. -/
theorem report_idempotent {site : Site} {s : Settings} {results : Option Path} {merge : Bool}
    {w w' : World} {o : Outcome} (ht : w.tree.Sound) (hd : w.tree.Distinct)
    (hrep : site.report s results merge w = (o, w')) (ho : ∃ x, o.ending = .ok x) :
    ∃ c, collect (site.resultsDir s results) w.tree = .ok c ∧
      let d := site.resultsDir s results
      let ids := c.endpoints.map (·.endpoint)
      OnlyReports d ids w.tree w'.tree ∧
      (∃ v, site.collect s results w' = (.done (collectLines c), v) ∧
        w'.tree.SameContents v.tree) ∧
      (site.Clear d ids w.tree s.plan.catalogPath →
        ∃ v, site.report s results merge w' = (o, v) ∧ w'.tree.SameContents v.tree) := by
  obtain ⟨c, u, extra, lines, hc, hfirst, hmerged, hall, rfl⟩ := Site.published_of_report ht hd hrep ho
  obtain ⟨hdir, -⟩ := collect_inv hc
  have hcollect := hall.collect_eq hc rfl
  refine ⟨c, hc, hall.onlyReports, ?_, fun hclear => ?_⟩
  · obtain ⟨v, hv, hsame⟩ := hall.metrics_again hdir fun l hl => hmerged.mem_locations hl
    obtain ⟨v', hv', htree⟩ := Site.collect_ok hcollect hv
    exact ⟨v', hv', htree ▸ hsame⟩
  · have hcatalog : site.catalog s w'.tree = site.catalog s w.tree := by
      rw [Site.catalog, Site.catalog, hclear.file?_eq hall]
    obtain ⟨v, hv, hsame⟩ := hall.inPlace.again hall.soundAfter hall.publishes.compatible
      (List.Subset.refl _) (List.Subset.refl _) fun _ _ => rfl
    rw [List.flatMap_append] at hv
    obtain ⟨u', hrun, hextra⟩ := Step.run_append_eq_none.mp hv
    have hsecond : Published _ _ _ w'.tree u' :=
      ⟨hfirst.publishes, hall.soundAfter, hall.distinctAfter, hall.find?_of_directory hall.root, hrun⟩
    have hmerged' := hmerged.again hdir hfirst hall hsecond
    obtain ⟨v₀, hv₀, hreport⟩ := Site.report_of_collect merge hcollect
    rw [hcatalog] at hreport
    rw [← hall.reportOutputs_eq s.report _ hdir, ← hv₀] at hrun
    obtain ⟨v', hv', htree⟩ := Site.ok_of_writeReports hrun (by rwa [hdir]) hextra
    exact ⟨v', hreport.trans hv', htree ▸ hsame⟩

/-! ### A sample -/

/-- A record of the first endpoint. -/
def firstRecord : RunRecord := { sampleRecord with key := ⟨1, 7⟩ }

/-- The empty tree with this record saved. -/
def firstTree : Tree := (Claims.save ⟨1, 7⟩ sampleDir .empty firstRecord).1

/-- Where the narrative is prepared. -/
def leftover : Location := sampleDir.location ++ [Step.hiddenName Layout.summaryReport]

/-- A catalog beside the results directory and one where the narrative is prepared; the manifest asks for
an endpoint without a directory. -/
def crossedTree : Tree :=
  ((firstTree.set (sampleDir.location ++ [Layout.manifest])
    (.file (BenchmarkRun.new [1, 9] 7 60 ⟨1772359200, 0⟩).manifest.toJson.fileText false)).set
      leftover (.file sampleTable false)).set ["catalog.csv"] (.file sampleTable false)

/-- A place to report at. -/
def sampleSite : Site := ⟨[], [], idleTool, .absent, fun _ => none⟩

/-- The built-in settings with a catalog. -/
def withCatalog (p : Path) : Settings :=
  { Settings.builtIn with plan := { PlanSettings.builtIn with catalogPath := p } }

/-- A report about the sample results without evaluations. -/
def reportWith (p : Path) (w : World) : Outcome × World :=
  sampleSite.report (withCatalog p) (some ⟨"/results"⟩) false w

/-- The world of the sample. -/
def crossedWorld : World := .start crossedTree ⟨1772359200, 0⟩

/-- A path to the catalog through the directory that is missing. -/
def roundabout : Path := ⟨"/results/endpoint_09/../../catalog.csv"⟩

/-- The path to the catalog that is in the way. -/
def inTheWay : Path := ⟨"/results/.summary-report.md.tmp"⟩

/-- Paths to the two catalogs. -/
def catalogPaths : List Path := [⟨"/catalog.csv"⟩, roundabout, inTheWay]

theorem save_firstRecord :
    Step.run .empty (Store.saveSteps sampleDir firstRecord) = (firstTree, none) := by
  have h : (Claims.save ⟨1, 7⟩ sampleDir .empty firstRecord).2 = none := by decide
  exact (Store.claims_save_iff.mp (show Claims.save ⟨1, 7⟩ sampleDir .empty firstRecord =
    (firstTree, none) by rw [firstTree, ← h])).2

theorem distinct_crossedTree : crossedTree.Distinct := by
  have h := Store.distinct_perform (d := sampleDir) Tree.distinct_empty (.save ⟨1, 7⟩ firstRecord)
  exact Tree.distinct_set (Tree.distinct_set (Tree.distinct_set h _ _) _ _) _ _

theorem sound_crossedTree : crossedTree.Sound := by
  have h := Store.sound_perform (d := sampleDir) Tree.sound_empty (.save ⟨1, 7⟩ firstRecord)
  have hset : ∀ {t : Tree} {l : Location} {c : ByteArray}, t.Sound → l ≠ [] →
      t.obstacle? l.dropLast = none → t.isDirectory l = false → (t.set l (.file c false)).Sound :=
    fun ht hl ho hd => Tree.sound_set ht hl ho fun he => by
      rw [Tree.isDirectory_iff.mpr he] at hd
      cases hd
  exact hset (hset (hset h (by decide) (by decide) (by decide))
    (by decide) (by decide) (by decide)) (by decide) (by decide)
    (by decide)

/-- What is found in the sample and in its catalog, and that reports about it can be written. -/
theorem computed_crossedTree :
    (Store.numbered crossedTree (sampleDir.endpointLocation 1) "run").toOption = some [(7, "run_07")] ∧
      (sampleHarness.catalog.lookup 1).toOption.isSome = true ∧
      ((collect sampleDir crossedTree).toOption.map fun c =>
        c.endpoints.map (·.endpoint) == [1, 9] && catalogPaths.all fun p =>
          (Step.run crossedTree ((reportOutputs (withCatalog p).report
            (sampleSite.catalog (withCatalog p) crossedTree).toOption crossedTree c).flatMap
              Output.steps)).2.isNone) = some true := by
  decide +kernel

theorem resultsDir_sampleSite (p : Path) :
    sampleSite.resultsDir (withCatalog p) (some ⟨"/results"⟩) = sampleDir := by
  have hdir : ResultsDir.ofPath [] ⟨"/results"⟩ = sampleDir := by decide
  exact hdir

theorem report_crossedTree {p : Path} (hp : p ∈ catalogPaths) :
    ∃ c o w', collect sampleDir crossedTree = .ok c ∧ c.endpoints.map (·.endpoint) = [1, 9] ∧
      reportWith p crossedWorld = (o, w') ∧
      ∃ x, o.ending = .ok x := by
  obtain ⟨-, -, hrun⟩ := computed_crossedTree
  cases hc : collect sampleDir crossedTree with
  | error e =>
    rw [hc] at hrun
    cases hrun
  | ok c =>
    rw [hc] at hrun
    obtain ⟨hids, hall⟩ := Bool.and_eq_true_iff.mp (Option.some.inj hrun)
    have hnone := Option.isNone_iff_eq_none.mp (List.all_eq_true.mp hall p hp)
    rw [← resultsDir_sampleSite p] at hc
    obtain ⟨v, hv, hreport⟩ := Site.report_of_collect (w := crossedWorld) false hc
    obtain ⟨w', hw', -⟩ := Site.ok_of_writeReports (w := v) (Prod.ext (by rw [hv])
      (by rw [hv]; exact hnone)) .off rfl
    exact ⟨c, _, w', rfl, by simpa using hids, hreport.trans hw', _, rfl⟩

/-- With the catalog by its own name, a second report changes nothing. -/
theorem report_idempotent_sample :
    crossedTree.Sound ∧ crossedTree.Distinct ∧
      ∃ o w', reportWith ⟨"/catalog.csv"⟩ crossedWorld = (o, w') ∧ (∃ x, o.ending = .ok x) ∧
        OnlyReports sampleDir [1, 9] crossedTree w'.tree ∧
        (∃ x v, sampleSite.collect (withCatalog ⟨"/catalog.csv"⟩) (some ⟨"/results"⟩) w' = (.done x, v) ∧
          w'.tree.SameContents v.tree) ∧
        ∃ v, reportWith ⟨"/catalog.csv"⟩ w' = (o, v) ∧ w'.tree.SameContents v.tree := by
  obtain ⟨c, o, w', hc, hids, hrep, ho⟩ := report_crossedTree (p := ⟨"/catalog.csv"⟩) (by decide)
  obtain ⟨c', hc', honly, ⟨v, hv, hsame⟩, hagain⟩ :=
    report_idempotent sound_crossedTree distinct_crossedTree hrep ho
  rw [resultsDir_sampleSite] at hc' honly hagain
  cases hc.symm.trans hc'
  rw [hids] at honly hagain
  refine ⟨sound_crossedTree, distinct_crossedTree, o, w', hrep, ho, honly, ⟨_, v, hv, hsame⟩,
    hagain (.of_outside (by decide) fun id => ?_)⟩
  have hway : Path.way [] ⟨"/catalog.csv"⟩ = [[]] := by decide
  change _ ∉ Path.way [] ⟨"/catalog.csv"⟩
  rw [hway, ResultsDir.endpointLocation_eq]
  simp

/-! ### What a repetition shows -/

namespace CommandLine.Site

variable {site : Site} {s : Settings} {results : Option Path} {w w' v : World} {o o' : Outcome}
  {c : CollectedResults}

/-- What a report without evaluations leaves. -/
theorem published_of_plainReport (ht : w.tree.Sound) (hd : w.tree.Distinct)
    (h : site.report s results false w = (o, w')) (ho : ∃ x, o.ending = .ok x)
    (hc : Report.collect (site.resultsDir s results) w.tree = .ok c) :
    Published (site.resultsDir s results) (c.endpoints.map (·.endpoint))
      (reportOutputs s.report (site.catalog s w.tree).toOption w.tree c) w.tree w'.tree := by
  obtain ⟨c', u, extra, lines, hc', -, hmerged, hall, -⟩ := published_of_report ht hd h ho
  rw [hc] at hc'
  cases hc'
  cases hmerged
  rwa [List.append_nil] at hall

/-- A report without evaluations can be written again, whatever its catalog says then. -/
theorem report_succeeds_again (ht : w.tree.Sound) (hd : w.tree.Distinct)
    (h : site.report s results false w = (o, w')) (ho : ∃ x, o.ending = .ok x) :
    ∃ o' v, site.report s results false w' = (o', v) ∧ ∃ x, o'.ending = .ok x := by
  obtain ⟨c, hc⟩ := collect_of_report h ho
  have hpub := published_of_plainReport ht hd h ho hc
  obtain ⟨hdir, -⟩ := collect_inv hc
  obtain ⟨v, hv, hreport⟩ := report_of_collect false (hpub.collect_eq hc rfl)
  obtain ⟨hfiles, hdirs⟩ := locations_reportOutputs s.report (site.catalog s w'.tree).toOption
    (site.catalog s w.tree).toOption w.tree c
  obtain ⟨u, hu⟩ := (hpub.inPlace.ready hfiles hdirs).run
    (hpub.publishes.compatible.mono hfiles hdirs) hpub.soundAfter
  have hrun : Step.run v.tree ((reportOutputs s.report (site.catalog s w'.tree).toOption v.tree c).flatMap
      Output.steps) = (u, none) := by rwa [hv, hpub.reportOutputs_eq s.report _ hdir]
  obtain ⟨v', hv', -⟩ := ok_of_writeReports hrun .off rfl
  exact ⟨_, v', hreport.trans hv', _, rfl⟩

/-- If nothing changes, the second report was told the same about the endpoints with records. -/
theorem rows_of_report_again (ht : w.tree.Sound) (hd : w.tree.Distinct)
    (h : site.report s results false w = (o, w')) (ho : ∃ x, o.ending = .ok x)
    (h' : site.report s results false w' = (o', v)) (ho' : ∃ x, o'.ending = .ok x)
    (hc : Report.collect (site.resultsDir s results) w.tree = .ok c)
    (hsame : w'.tree.SameContents v.tree) :
    c.records.map (resultRow (site.catalog s w.tree).toOption) =
      c.records.map (resultRow (site.catalog s w'.tree).toOption) := by
  have hfirst := published_of_plainReport ht hd h ho hc
  have hsecond := published_of_plainReport hfirst.soundAfter hfirst.distinctAfter h' ho'
    (hfirst.collect_eq hc rfl)
  obtain ⟨hdir, -⟩ := collect_inv hc
  obtain ⟨x, hx⟩ := hfirst.inPlace.files _ _ (lastContent?_resultsTable ..)
  obtain ⟨y, hy⟩ := hsecond.inPlace.files _ _ (lastContent?_resultsTable ..)
  have htable := hsame (c.dir.location ++ [Layout.resultsTable])
  rw [hx, hy] at htable
  exact rows_of_resultsFile (Option.some.inj (Option.some.inj htable)).symm

end CommandLine.Site

/-! ### A catalog that comes between -/

theorem fits_firstRecord : firstRecord.Fits :=
  { fits_sampleRecord with endpoint := by decide, run := by decide }

theorem load_crossedTree :
    Store.load sampleDir crossedTree ⟨1, 7⟩ = .ok (some firstRecord.stored) := by
  obtain ⟨-, -, ⟨hm, hs⟩, -⟩ := Store.run_saveSteps save_firstRecord
  have hread : ∀ name, crossedTree.read (sampleDir.runLocation ⟨1, 7⟩ ++ [name]) =
      firstTree.read (sampleDir.runLocation ⟨1, 7⟩ ++ [name]) := by
    intro name
    have hrun : sampleDir.runLocation ⟨1, 7⟩ = ["results", "endpoint_01", "run_07"] := by
      decide
    have hname : Step.hiddenName Layout.summaryReport ≠ "endpoint_01" := by decide
    rw [crossedTree, Tree.read_set, Tree.read_set, Tree.read_set] <;> rw [hrun]
    · simp [sampleDir, Layout.manifest]
    · simp [sampleDir, leftover, hname]
    · simp
  exact Store.load_of_documents ((hread _).trans hm) ((hread _).trans hs) fits_firstRecord
    readsBack_sampleRecord

theorem stored_mem_records {c : CollectedResults} (hc : collect sampleDir crossedTree = .ok c)
    (hids : c.endpoints.map (·.endpoint) = [1, 9]) : firstRecord.stored ∈ c.records := by
  have hns := Store.toOption_eq_some_iff.mp computed_crossedTree.1
  rw [records_eq hc, hids, listedRuns, List.flatMap_cons, List.filterMap_append, Store.listRuns_eq, hns]
  refine List.mem_append_left _ (List.mem_filterMap.mpr ⟨_, List.mem_singleton_self _, ?_⟩)
  rw [Store.numberedRun, Store.recordIn_runLocation, load_crossedTree]
  rfl

theorem toOption_catalog (p : Path) (t : Tree) : (sampleSite.catalog (withCatalog p) t).toOption =
    (sampleSite.file? t p).bind fun content => (Catalog.ofBytes content).toOption := by
  have hp : (withCatalog p).plan.catalogPath = p := rfl
  rw [Site.catalog, hp]
  cases sampleSite.file? t p <;> rfl

/-- A second report writes something else if just one of the two found the catalog. -/
theorem not_sameContents_of_catalog {p : Path} {o o' : Outcome} {w' v : World}
    {c : CollectedResults} (hc : collect sampleDir crossedTree = .ok c)
    (hids : c.endpoints.map (·.endpoint) = [1, 9])
    (h : reportWith p crossedWorld = (o, w')) (ho : ∃ x, o.ending = .ok x)
    (h' : reportWith p w' = (o', v)) (ho' : ∃ x, o'.ending = .ok x)
    (hone : (sampleSite.file? crossedTree p = some sampleTable ∧ sampleSite.file? w'.tree p = none) ∨
      sampleSite.file? crossedTree p = none ∧ sampleSite.file? w'.tree p = some sampleTable) :
    ¬ w'.tree.SameContents v.tree := by
  intro hsame
  have hmem := stored_mem_records hc hids
  rw [← resultsDir_sampleSite p] at hc
  have hrows := Site.rows_of_report_again sound_crossedTree distinct_crossedTree h ho h' ho' hc hsame
  have hrow := List.map_inj_left.mp hrows _ hmem
  obtain ⟨e, he⟩ := Option.isSome_iff_exists.mp computed_crossedTree.2.1
  have hne := resultRow_ne (r := firstRecord.stored) (Store.toOption_eq_some_iff.mp he)
  have hworld : crossedWorld.tree = crossedTree := rfl
  rw [toOption_catalog, toOption_catalog, hworld] at hrow
  rcases hone with ⟨hsome, hnone⟩ | ⟨hnone, hsome⟩
  · rw [hsome, hnone, Option.bind_some, Option.bind_none, ofBytes_sampleTable] at hrow
    exact hne hrow
  · rw [hsome, hnone, Option.bind_some, Option.bind_none, ofBytes_sampleTable] at hrow
    exact hne hrow.symm

theorem file?_crossedTree : crossedTree.find? ["catalog.csv"] = some (.file sampleTable false) ∧
    crossedTree.find? leftover = some (.file sampleTable false) := by
  refine ⟨Tree.find?_set _ _ (by simp), ?_⟩
  rw [crossedTree, Tree.find?_set_of_ne _ _ (by simp [leftover, sampleDir])]
  exact Tree.find?_set _ _ (by simp [leftover])

/-- What two reports about the sample leave. -/
theorem report_crossedTree_again {p : Path} (hp : p ∈ catalogPaths) :
    ∃ c o w' o' v, collect sampleDir crossedTree = .ok c ∧ c.endpoints.map (·.endpoint) = [1, 9] ∧
      reportWith p crossedWorld = (o, w') ∧
      (∃ x, o.ending = .ok x) ∧
      reportWith p w' = (o', v) ∧
      (∃ x, o'.ending = .ok x) ∧
      w'.tree.Sound ∧ w'.tree.find? leftover = none ∧
      w'.tree.find? (sampleDir.endpointLocation 9) = some .directory ∧
      w'.tree.find? ["catalog.csv"] = some (.file sampleTable false) := by
  obtain ⟨c, o, w', hc, hids, h, ho⟩ := report_crossedTree hp
  obtain ⟨o', v, h', ho'⟩ := Site.report_succeeds_again sound_crossedTree distinct_crossedTree h ho
  have hpub := Site.published_of_plainReport sound_crossedTree distinct_crossedTree h ho
    (by rwa [resultsDir_sampleSite])
  obtain ⟨hdir, -⟩ := collect_inv hc
  rw [resultsDir_sampleSite, hids] at hpub
  refine ⟨c, o, w', o', v, hc, hids, h, ho, h', ho', hpub.soundAfter, ?_, ?_, ?_⟩
  · rw [leftover, ← Step.hidden_concat, ← hdir]
    exact hpub.inPlace.hidden _ (summaryReport_mem_reportOutputs ..)
  · obtain ⟨e, he, h9⟩ : ∃ e ∈ c.endpoints, e.endpoint = 9 :=
      List.mem_map.mp (by rw [hids]; decide)
    rw [← h9, ← hdir]
    exact hpub.inPlace.directories _ (endpoint_mem_reportOutputs he)
  · exact hpub.rewrites.find?_of_some (hpub.publishes.aside_of_outside (by decide))
      file?_crossedTree.1

/-- The catalog is found at a path through directories. -/
theorem file?_of_directories {t : Tree} (ht : t.Sound) {p : Path} (hp : p.text.isEmpty = false)
    (hp' : p.endsInDirectory = false) (hway : ∀ l ∈ p.way [], t.find? l = some .directory)
    (hfile : t.find? (p.locate []) = some (.file sampleTable false)) :
    sampleSite.file? t p = some sampleTable :=
  Site.file?_eq_some_iff.mpr ⟨hp, hp', fun l hl => ht.get_eq_ok_iff.mpr (hway l hl), false,
    ht.get_eq_ok_iff.mpr hfile⟩

theorem locate_roundabout : roundabout.locate [] = ["catalog.csv"] := by decide

theorem locate_inTheWay : inTheWay.locate [] = leftover := by decide

/-- The roundabout way leads to the catalog once the missing directory was made. -/
theorem file?_roundabout {t : Tree} (ht : t.Sound)
    (hmade : t.find? (sampleDir.endpointLocation 9) = some .directory)
    (hkept : t.find? ["catalog.csv"] = some (.file sampleTable false)) :
    sampleSite.file? t roundabout = some sampleTable := by
  have hway : roundabout.way [] = [[], ["results"], sampleDir.endpointLocation 9, ["results"], []] := by
    decide
  have hroot := ht.directory_of_prefix hmade (List.prefix_append ["results"] _)
  refine file?_of_directories ht (by decide) (by decide) ?_
    (by rw [locate_roundabout, hkept])
  rw [hway]
  simp [hmade, hroot]

theorem file?_inTheWay {t : Tree} (ht : t.Sound)
    (hfile : t.find? leftover = some (.file sampleTable false)) :
    sampleSite.file? t inTheWay = some sampleTable := by
  have hway : inTheWay.way [] = [[], ["results"]] := by decide
  have hroot := ht leftover (by simp [hfile]) ["results"] (List.prefix_append _ _)
    (by simp [leftover, sampleDir])
  refine file?_of_directories ht (by decide) (by decide) ?_
    (by rw [locate_inTheWay, hfile])
  rw [hway]
  simp [hroot]

theorem file?_inTheWay_of_none {t : Tree} (hgone : t.find? leftover = none) :
    sampleSite.file? t inTheWay = none := by
  refine Option.eq_none_iff_forall_ne_some.mpr fun content hcontent => ?_
  obtain ⟨-, -, -, x, hx⟩ := Site.file?_eq_some_iff.mp hcontent
  have hfile := (Tree.get_eq_ok_iff.mp hx).2
  rw [show inTheWay.locate sampleSite.cwd = leftover from locate_inTheWay, hgone] at hfile
  cases hfile

/-- A catalog that is no report itself can still come between: a report puts the narrative in the place
of what it finds where the narrative is prepared, and makes the directory through which the path of a
catalog leads.  Each time it removes what was left where the narrative is prepared, and the second
report succeeds and writes something else. -/
theorem report_not_repeated :
    crossedTree.Sound ∧ crossedTree.Distinct ∧ crossedTree.isFile leftover = true ∧
      (∀ ids, ¬ IsReport sampleDir ids leftover) ∧
      ∀ p ∈ [roundabout, inTheWay],
        crossedTree.isFile (p.locate []) = true ∧ (∀ ids, ¬ IsReport sampleDir ids (p.locate [])) ∧
        ∃ o w' o' v, reportWith p crossedWorld = (o, w') ∧ (∃ x, o.ending = .ok x) ∧
          w'.tree.find? leftover = none ∧
          reportWith p w' = (o', v) ∧ (∃ x, o'.ending = .ok x) ∧ ¬ w'.tree.SameContents v.tree := by
  have hplain : ∀ front name, name ∉ Layout.reports ++ Layout.endpointReports →
      ∀ ids, ¬ IsReport sampleDir ids (front ++ [name]) := by
    intro front name hname ids h
    obtain ⟨front', name', hin, he, -⟩ := h.eq_concat
    obtain ⟨-, rfl⟩ := List.append_singleton_inj.mp he
    exact hname hin
  have hcatalog : ∀ ids, ¬ IsReport sampleDir ids ["catalog.csv"] := hplain [] _ (by decide)
  have hleftover : ∀ ids, ¬ IsReport sampleDir ids leftover := hplain _ _ (by decide)
  obtain ⟨hfile, hhidden⟩ := file?_crossedTree
  refine ⟨sound_crossedTree, distinct_crossedTree, Tree.isFile_iff.mpr ⟨_, _, hhidden⟩, hleftover,
    fun p hp => ?_⟩
  obtain ⟨c, o, w', o', v, hc, hids, h, ho, h', ho', hsound, hgone, hmade, hkept⟩ :=
    report_crossedTree_again (List.mem_cons_of_mem _ hp)
  have hdiffer := not_sameContents_of_catalog hc hids h ho h' ho'
  obtain rfl | rfl : p = roundabout ∨ p = inTheWay := by simpa using hp
  · rw [locate_roundabout]
    exact ⟨Tree.isFile_iff.mpr ⟨_, _, hfile⟩, hcatalog, o, w', o', v, h, ho, hgone, h', ho',
      hdiffer (.inr ⟨by decide, file?_roundabout hsound hmade hkept⟩)⟩
  · rw [locate_inTheWay]
    exact ⟨Tree.isFile_iff.mpr ⟨_, _, hhidden⟩, hleftover, o, w', o', v, h, ho, hgone, h', ho',
      hdiffer (.inl ⟨file?_inTheWay sound_crossedTree hhidden, file?_inTheWay_of_none hgone⟩)⟩

end SuiteBench
