import SuiteBench.Proofs.Store.Sparing
import SuiteBench.Report.Outputs

/-!
# Proofs.Report.Files — where reports are written

A report replaces files of known names directly in the results directory and directly in those of the
endpoints.  None of these names is that of a directory of endpoints or runs, so that no record is
touched, and no two of them are the same.
-/

namespace SuiteBench

namespace Layout

/-- The files that stand in the directory of an endpoint. -/
def endpointReports : List String := [averagesJson, averagesText, testAnalysis]

/-- The reports that stand in the results directory. -/
def reports : List String := [metricsSummary, resultsTable, detailedTable, summaryReport]

theorem stem_ne {stem name : String} (h : ¬ stem.toList <+: name.toList) (n : Nat) :
    name ≠ stem ++ Decimal.padded 2 n := by
  rintro rfl
  rw [String.toList_append] at h
  exact h (List.prefix_append _ _)

/-- No report of an endpoint, and no hidden file next to it, has the name of a run directory. -/
theorem endpointReports_ne_runName (n : Nat) : ∀ name ∈ endpointReports,
    name ≠ runName n ∧ Step.hiddenName name ≠ runName n := by
  intro name hn
  simp only [endpointReports, List.mem_cons, List.not_mem_nil, or_false] at hn
  rcases hn with rfl | rfl | rfl <;> exact ⟨stem_ne (by decide) n, stem_ne (by decide) n⟩

/-- No file of the results directory, and no hidden file next to it, has the name of an endpoint
directory. -/
theorem rootFiles_ne_endpointName (n : Nat) : ∀ name ∈ manifest :: reports,
    name ≠ endpointName n ∧ Step.hiddenName name ≠ endpointName n := by
  intro name hn
  simp only [reports, List.mem_cons, List.not_mem_nil, or_false] at hn
  rcases hn with rfl | rfl | rfl | rfl | rfl <;> exact ⟨stem_ne (by decide) n, stem_ne (by decide) n⟩

theorem rootFiles_nodup : (manifest :: reports).Nodup := by simp [reports, manifest, metricsSummary,
  resultsTable, detailedTable, summaryReport]

/-- No file of the results directory has the name of a hidden one. -/
theorem hiddenName_ne_rootFiles (a : String) : ∀ name ∈ manifest :: reports,
    Step.hiddenName a ≠ name := by
  intro name hn
  refine Step.hiddenName_ne ?_
  revert name
  decide

/-- No file of an endpoint has the name of a hidden one. -/
theorem hiddenName_ne_endpointReports (a : String) : ∀ name ∈ endpointReports,
    Step.hiddenName a ≠ name := by
  intro name hn
  refine Step.hiddenName_ne ?_
  revert name
  decide

end Layout

namespace Location.Apart

variable {root : Location} {a b : String}

theorem of_ne (h : a ≠ b) : Location.Apart (root ++ [a]) (root ++ [b]) :=
  .of_length (by simp) (by simpa using h)

end Location.Apart

namespace ResultsDir

variable (d : ResultsDir)

theorem runLocation_eq (k : RunKey) : d.runLocation k =
    d.location ++ Layout.endpointName k.endpoint :: [Layout.runName k.run] := rfl

theorem endpointLocation_eq (id : Nat) :
    d.endpointLocation id = d.location ++ [Layout.endpointName id] := rfl

/-- A file in the directory of an endpoint that is no run directory lies apart from every run. -/
theorem endpointFile_apart {name : String} (h : ∀ n, name ≠ Layout.runName n) (id : Nat) (k : RunKey) :
    Location.Apart (d.endpointLocation id ++ [name]) (d.runLocation k) := by
  refine .of_length (by simp [endpointLocation_eq, runLocation_eq]) fun he => ?_
  rw [endpointLocation_eq, runLocation_eq, List.append_assoc] at he
  have := List.append_cancel_left he
  simp only [List.singleton_append, List.cons.injEq, and_true] at this
  exact h k.run this.2

end ResultsDir

namespace Report

variable {settings : ReportSettings} {catalog : Option Catalog} {t u : Tree} {c : CollectedResults}
  {b : Location}

/-- The names of the files that are written in the directory of an endpoint. -/
theorem endpointFiles_locations (settings : ReportSettings) (t : Tree) (c : CollectedResults)
    (e : EndpointResults) : ∃ names : List String, names.Sublist Layout.endpointReports ∧
      (endpointFiles settings t c e).map (·.location) =
        names.map fun n => c.dir.endpointLocation e.endpoint ++ [n] := by
  by_cases h : settings.endpointTextSummary = true
  · exact ⟨Layout.endpointReports, List.Sublist.refl _, by simp only [endpointFiles, h, if_pos]; rfl⟩
  · refine ⟨[Layout.averagesJson, Layout.testAnalysis], by decide, ?_⟩
    simp only [endpointFiles, if_neg h]
    rfl

theorem mem_endpointFiles {e : EndpointResults} {f : OutputFile}
    (h : f ∈ endpointFiles settings t c e) :
    ∃ name ∈ Layout.endpointReports, f.location = c.dir.endpointLocation e.endpoint ++ [name] := by
  obtain ⟨names, hn, hl⟩ := endpointFiles_locations settings t c e
  have hm := List.mem_map_of_mem (f := fun f : OutputFile => f.location) h
  rw [hl] at hm
  obtain ⟨name, hname, he⟩ := List.mem_map.mp hm
  exact ⟨name, hn.mem hname, he.symm⟩

/-- A location that the reports of endpoints leave alone. -/
theorem avoids_endpointSteps {e : EndpointResults} (hd : ¬ b <+: c.dir.endpointLocation e.endpoint)
    (hf : ∀ name ∈ Layout.endpointReports,
      Location.Apart (c.dir.endpointLocation e.endpoint ++ [name]) b ∧
        Location.Apart (c.dir.endpointLocation e.endpoint ++ [Step.hiddenName name]) b) :
    ∀ s ∈ endpointSteps settings t c e, s.Avoids b := by
  intro s hs
  rcases List.mem_cons.mp hs with rfl | hs
  · exact Step.avoids_makeDirs hd
  · obtain ⟨f, hfm, hs⟩ := List.mem_flatMap.mp hs
    obtain ⟨name, hn, hl⟩ := mem_endpointFiles hfm
    rw [OutputFile.steps, hl] at hs
    refine Step.avoids_replace (hf name hn).1 ?_ s hs
    rw [Step.hidden_concat]
    exact (hf name hn).2

theorem endpointSteps_avoid_runs (e : EndpointResults) (k : RunKey) :
    ∀ s ∈ endpointSteps settings t c e, s.Avoids (c.dir.runLocation k) := by
  refine avoids_endpointSteps (fun h => ?_) fun name hn => ?_
  · have := h.length_le
    simp [ResultsDir.runLocation_eq, ResultsDir.endpointLocation_eq] at this
  · exact ⟨c.dir.endpointFile_apart (fun n => (Layout.endpointReports_ne_runName n name hn).1) _ k,
      c.dir.endpointFile_apart (fun n => (Layout.endpointReports_ne_runName n name hn).2) _ k⟩

theorem endpointSteps_avoid_rootFile (e : EndpointResults) {name : String}
    (h : name ∈ Layout.manifest :: Layout.reports) :
    ∀ s ∈ endpointSteps settings t c e, s.Avoids (c.dir.location ++ [name]) := by
  have hne := (Layout.rootFiles_ne_endpointName e.endpoint name h).1
  have hapart : ∀ x, Location.Apart (c.dir.endpointLocation e.endpoint ++ [x])
      (c.dir.location ++ [name]) := fun x => (Location.Apart.of_ne hne.symm).append [x]
  exact avoids_endpointSteps (Location.Apart.of_ne hne).1 fun x _ => ⟨hapart x, hapart _⟩

/-! ### The reports of a benchmark -/

/-- The files that a report writes in the results directory. -/
def rootFiles (settings : ReportSettings) (catalog : Option Catalog) (c : CollectedResults) :
    List OutputFile :=
  metricsFile c :: resultsFile catalog c ::
    ((if settings.detailedCsv then [detailedFile c] else []) ++ [narrativeFile settings catalog c])

theorem reportSteps_eq (settings : ReportSettings) (catalog : Option Catalog) (t : Tree)
    (c : CollectedResults) : reportSteps settings catalog t c =
      c.endpoints.flatMap (endpointSteps settings t c) ++
        (rootFiles settings catalog c).flatMap OutputFile.steps := by
  rw [reportSteps, metricsSteps, rootFiles]
  cases settings.detailedCsv <;> simp

/-- The names of the files that a report writes in the results directory. -/
theorem rootFiles_locations (settings : ReportSettings) (catalog : Option Catalog)
    (c : CollectedResults) : ∃ names : List String, names.Sublist Layout.reports ∧
      (rootFiles settings catalog c).map (·.location) = names.map fun n => c.dir.location ++ [n] := by
  by_cases h : settings.detailedCsv = true
  · exact ⟨Layout.reports, List.Sublist.refl _, by simp only [rootFiles, h, if_pos]; rfl⟩
  · refine ⟨[Layout.metricsSummary, Layout.resultsTable, Layout.summaryReport], by decide, ?_⟩
    simp only [rootFiles, if_neg h]
    rfl

theorem mem_rootFiles {f : OutputFile} (h : f ∈ rootFiles settings catalog c) :
    ∃ name ∈ Layout.reports, f.location = c.dir.location ++ [name] := by
  obtain ⟨names, hn, hl⟩ := rootFiles_locations settings catalog c
  have hm := List.mem_map_of_mem (f := fun f : OutputFile => f.location) h
  rw [hl] at hm
  obtain ⟨name, hname, he⟩ := List.mem_map.mp hm
  exact ⟨name, hn.mem hname, he.symm⟩

theorem avoids_reportSteps
    (he : ∀ e ∈ c.endpoints, ∀ s ∈ endpointSteps settings t c e, s.Avoids b)
    (hr : ∀ name ∈ Layout.reports, Location.Apart (c.dir.location ++ [name]) b ∧
      Location.Apart (c.dir.location ++ [Step.hiddenName name]) b) :
    ∀ s ∈ reportSteps settings catalog t c, s.Avoids b := by
  intro s hs
  rw [reportSteps_eq] at hs
  rcases List.mem_append.mp hs with hs | hs
  · obtain ⟨e, hem, hs⟩ := List.mem_flatMap.mp hs
    exact he e hem s hs
  · obtain ⟨f, hf, hs⟩ := List.mem_flatMap.mp hs
    obtain ⟨name, hn, hl⟩ := mem_rootFiles hf
    rw [OutputFile.steps, hl] at hs
    refine Step.avoids_replace (hr name hn).1 ?_ s hs
    rw [Step.hidden_concat]
    exact (hr name hn).2

theorem reportSteps_avoid_manifest :
    ∀ s ∈ reportSteps settings catalog t c, s.Avoids (c.dir.location ++ [Layout.manifest]) :=
  avoids_reportSteps (fun e _ => endpointSteps_avoid_rootFile e List.mem_cons_self) fun name hn =>
    ⟨.of_ne fun he => (List.nodup_cons.mp Layout.rootFiles_nodup).1 (he ▸ hn),
      .of_ne (Layout.hiddenName_ne_rootFiles name _ List.mem_cons_self)⟩

/-- Files of different names in one directory are all there once they were written one after another. -/
theorem read_files {dir : Location} : ∀ (fs : List OutputFile) (names : List String) {t u : Tree},
    fs.map (·.location) = names.map (fun n => dir ++ [n]) → names.Nodup →
    (∀ a ∈ names, ∀ b ∈ names, Step.hiddenName a ≠ b) →
    Step.run t (fs.flatMap OutputFile.steps) = (u, none) → ∀ f ∈ fs, u.read f.location = .ok f.content
  | [], _, _, _, _, _, _, _ => by simp
  | f :: fs, [], _, _, hl, _, _, _ => by simp at hl
  | f :: fs, name :: names, t, u, hl, hn, hh, hr => by
    simp only [List.map_cons, List.cons.injEq] at hl
    rw [List.flatMap_cons] at hr
    obtain ⟨v, hv, hu⟩ := Step.run_append_eq_none.mp hr
    have hrest := read_files fs names hl.2 (List.nodup_cons.mp hn).2
      (fun a ha b hb => hh a (List.mem_cons_of_mem _ ha) b (List.mem_cons_of_mem _ hb)) hu
    intro g hg
    rcases List.mem_cons.mp hg with rfl | hg
    · have hread := (Step.run_replace hv (by simp [hl.1])).1
      -- what is written later stands under other names
      have hlater : ∀ s ∈ fs.flatMap OutputFile.steps, ∀ p, p <+: g.location → ¬ s.Replaces p := by
        intro s hs
        obtain ⟨f', hf', hs⟩ := List.mem_flatMap.mp hs
        have hm := List.mem_map_of_mem (f := fun f : OutputFile => f.location) hf'
        rw [hl.2] at hm
        obtain ⟨name', hname', he⟩ := List.mem_map.mp hm
        have hne : name' ≠ name := fun h => (List.nodup_cons.mp hn).1 (h ▸ hname')
        refine Step.replace_spares ?_ ?_ hs
        · rw [hl.1, ← he]
          exact (Location.Apart.of_ne hne).1
        · rw [hl.1, ← he, Step.hidden_concat]
          exact (Location.Apart.of_ne
            (hh name' (List.mem_cons_of_mem _ hname') name List.mem_cons_self)).1
      have := Step.read_run hlater hread
      rwa [hu] at this
    · exact hrest g hg

/-- The files of an endpoint are there once they were written. -/
theorem read_endpointFiles {e : EndpointResults}
    (h : Step.run t (endpointSteps settings t c e) = (u, none)) :
    ∀ f ∈ endpointFiles settings t c e, u.read f.location = .ok f.content := by
  obtain ⟨v, -, hu⟩ := Step.run_cons_eq_none.mp h
  obtain ⟨names, hn, hl⟩ := endpointFiles_locations settings t c e
  exact read_files _ names hl (hn.nodup (by decide))
    (fun a _ b hb => Layout.hiddenName_ne_endpointReports a b (hn.mem hb)) hu

/-- Every report is there once all of them were written. -/
theorem read_rootFiles (h : Step.run t (reportSteps settings catalog t c) = (u, none)) :
    ∀ f ∈ rootFiles settings catalog c, u.read f.location = .ok f.content := by
  rw [reportSteps_eq] at h
  obtain ⟨v, -, hu⟩ := Step.run_append_eq_none.mp h
  obtain ⟨names, hn, hl⟩ := rootFiles_locations settings catalog c
  refine read_files _ names hl ?_ (fun a _ b hb => ?_) hu
  · exact hn.nodup (List.nodup_cons.mp Layout.rootFiles_nodup).2
  · exact Layout.hiddenName_ne_rootFiles a b (List.mem_cons_of_mem _ (hn.mem hb))

end Report

end SuiteBench
