import SuiteBench.Proofs.Report.Files
import SuiteBench.Proofs.Report.Publication

/-!
# Proofs.Report.Outputs — what a report puts into a results tree

The steps of a report put aggregates into the directories of endpoints and the summary, the tables and
the narrative into the results directory.  Their names are those of reports alone, so that nothing else
is touched and no two of them get in each other's way.
-/

namespace SuiteBench

namespace Report

open Output

/-- What a report puts into the directory of an endpoint. -/
def endpointOutputs (settings : ReportSettings) (t : Tree) (c : CollectedResults)
    (e : EndpointResults) : List Output :=
  .directory (c.dir.endpointLocation e.endpoint) :: (endpointFiles settings t c e).map .file

/-- The aggregates of the endpoints and the summary. -/
def metricsOutputs (settings : ReportSettings) (t : Tree) (c : CollectedResults) : List Output :=
  c.endpoints.flatMap (endpointOutputs settings t c) ++ [.file (metricsFile c)]

/-- The tables and the narrative. -/
def tableOutputs (settings : ReportSettings) (catalog : Option Catalog) (c : CollectedResults) :
    List Output :=
  .file (resultsFile catalog c) :: ((if settings.detailedCsv then [.file (detailedFile c)] else []) ++
    [.file (narrativeFile settings catalog c)])

/-- What a report puts into a results tree. -/
def reportOutputs (settings : ReportSettings) (catalog : Option Catalog) (t : Tree)
    (c : CollectedResults) : List Output := metricsOutputs settings t c ++ tableOutputs settings catalog c

/-- The results table with evaluations put in. -/
def mergedOutput (d : ResultsDir) (text : String) : Output :=
  .file ⟨d.path.join Layout.resultsTable, d.location ++ [Layout.resultsTable], text.toUTF8⟩

section Outputs

variable (settings : ReportSettings) (catalog : Option Catalog) (t : Tree) (c : CollectedResults)

theorem endpointSteps_eq_flatMap (e : EndpointResults) :
    endpointSteps settings t c e = (endpointOutputs settings t c e).flatMap Output.steps := by
  rw [endpointSteps, endpointOutputs, List.flatMap_cons, flatMap_steps_map]
  rfl

theorem metricsSteps_eq_flatMap :
    metricsSteps settings t c = (metricsOutputs settings t c).flatMap Output.steps := by
  rw [metricsSteps, metricsOutputs, List.flatMap_append, List.flatMap_assoc, List.flatMap_singleton]
  exact congrArg (· ++ _) (List.flatMap_congr fun e _ => endpointSteps_eq_flatMap settings t c e)

theorem reportSteps_eq_flatMap : reportSteps settings catalog t c =
    (reportOutputs settings catalog t c).flatMap Output.steps := by
  rw [reportSteps, metricsSteps_eq_flatMap, reportOutputs, List.flatMap_append, tableOutputs]
  cases settings.detailedCsv <;> simp [Output.steps]

end Outputs

/-- Whether a location is that of a report in the results directory or in that of an endpoint. -/
def IsReport (d : ResultsDir) (ids : List Nat) (l : Location) : Prop :=
  (∃ name ∈ Layout.reports, l = d.location ++ [name]) ∨
    ∃ id ∈ ids, ∃ name ∈ Layout.endpointReports, l = d.endpointLocation id ++ [name]

theorem IsReport.eq_concat {d : ResultsDir} {ids : List Nat} {l : Location} (h : IsReport d ids l) :
    ∃ front, ∃ name ∈ Layout.reports ++ Layout.endpointReports,
      l = front ++ [name] ∧ d.location <+: front := by
  rcases h with ⟨name, hn, rfl⟩ | ⟨id, -, name, hn, rfl⟩
  · exact ⟨_, name, List.mem_append_left _ hn, rfl, List.prefix_refl _⟩
  · exact ⟨_, name, List.mem_append_right _ hn, rfl, List.prefix_append _ _⟩

/-- Reports and their hidden neighbours stand below the results directory. -/
theorem IsReport.below {d : ResultsDir} {ids : List Nat} {l : Location} (h : IsReport d ids l) :
    d.location <+: l ∧ d.location <+: Step.hidden l := by
  obtain ⟨front, name, -, rfl, hfront⟩ := h.eq_concat
  rw [Step.hidden_concat]
  exact ⟨hfront.trans (List.prefix_append _ _), hfront.trans (List.prefix_append _ _)⟩

/-- Whether outputs are reports and directories of endpoints. -/
structure Publishes (d : ResultsDir) (ids : List Nat) (outs : List Output) : Prop where
  files : ∀ l ∈ fileLocations outs, IsReport d ids l
  directories : ∀ l ∈ dirLocations outs, ∃ id ∈ ids, l = d.endpointLocation id

section Published

variable {settings : ReportSettings} {catalog : Option Catalog} {t : Tree} {c : CollectedResults}
  {d : ResultsDir} {ids : List Nat} {outs outs' : List Output} {l : Location}

theorem Publishes.append (h : Publishes d ids outs) (h' : Publishes d ids outs') :
    Publishes d ids (outs ++ outs') where
  files l hl := by
    rw [fileLocations_append, List.mem_append] at hl
    exact hl.elim (h.files l) (h'.files l)
  directories l hl := by
    rw [dirLocations_append, List.mem_append] at hl
    exact hl.elim (h.directories l) (h'.directories l)

theorem publishes_endpointOutputs {e : EndpointResults} (he : e ∈ c.endpoints) :
    Publishes c.dir (c.endpoints.map (·.endpoint)) (endpointOutputs settings t c e) := by
  have hid : e.endpoint ∈ c.endpoints.map (·.endpoint) := List.mem_map_of_mem he
  refine ⟨fun l hl => ?_, fun l hl => ?_⟩
  · rw [endpointOutputs, fileLocations, fileLocations_map] at hl
    obtain ⟨f, hf, rfl⟩ := List.mem_map.mp hl
    obtain ⟨name, hn, hl⟩ := mem_endpointFiles hf
    exact .inr ⟨_, hid, name, hn, hl⟩
  · rw [endpointOutputs, dirLocations, dirLocations_map] at hl
    exact ⟨_, hid, List.mem_singleton.mp hl⟩

theorem publishes_flatMap {α : Type} {as : List α} {f : α → List Output}
    (h : ∀ a ∈ as, Publishes d ids (f a)) : Publishes d ids (as.flatMap f) := by
  induction as with
  | nil => exact ⟨fun l hl => (by cases hl), fun l hl => by cases hl⟩
  | cons a as ih =>
    obtain ⟨ha, has⟩ := List.forall_mem_cons.mp h
    rw [List.flatMap_cons]
    exact ha.append (ih has)

theorem publishes_rootFile {f : OutputFile} (name : String) (hn : name ∈ Layout.reports)
    (hf : f.location = d.location ++ [name]) : Publishes d ids [.file f] := by
  refine ⟨fun l hl => .inl ⟨name, hn, ?_⟩, fun l hl => by cases hl⟩
  rw [← hf]
  exact List.mem_singleton.mp hl

theorem publishes_metricsOutputs :
    Publishes c.dir (c.endpoints.map (·.endpoint)) (metricsOutputs settings t c) :=
  (publishes_flatMap fun _ he => publishes_endpointOutputs he).append
    (publishes_rootFile Layout.metricsSummary (by decide) rfl)

theorem publishes_tableOutputs : Publishes c.dir ids (tableOutputs settings catalog c) := by
  have hdetailed : Publishes c.dir ids
      (if settings.detailedCsv then [Output.file (detailedFile c)] else []) := by
    split
    · exact publishes_rootFile Layout.detailedTable (by decide) rfl
    · exact ⟨fun l hl => (by cases hl), fun l hl => by cases hl⟩
  exact (publishes_rootFile Layout.resultsTable (by decide) rfl).append
    (hdetailed.append (publishes_rootFile Layout.summaryReport (by decide) rfl))

theorem publishes_reportOutputs (settings : ReportSettings) (catalog : Option Catalog) (t : Tree)
    (c : CollectedResults) :
    Publishes c.dir (c.endpoints.map (·.endpoint)) (reportOutputs settings catalog t c) :=
  publishes_metricsOutputs.append publishes_tableOutputs

theorem publishes_mergedOutput (text : String) : Publishes d ids [mergedOutput d text] :=
  publishes_rootFile Layout.resultsTable (by decide) rfl

theorem mem_metricsLocations (hl : l ∈ fileLocations (metricsOutputs settings t c)) :
    l = c.dir.location ++ [Layout.metricsSummary] ∨
      ∃ id name, l = c.dir.endpointLocation id ++ [name] := by
  rw [metricsOutputs, fileLocations_append, List.mem_append] at hl
  rcases hl with hl | hl
  · have hpub : ∀ es ⊆ c.endpoints, l ∈ fileLocations (es.flatMap (endpointOutputs settings t c)) →
        ∃ id name, l = c.dir.endpointLocation id ++ [name] := by
      intro es
      induction es with
      | nil => exact fun _ hl => by cases hl
      | cons e es ih =>
        intro hes hl
        rw [List.flatMap_cons, fileLocations_append, List.mem_append, endpointOutputs, fileLocations,
          fileLocations_map] at hl
        rcases hl with hl | hl
        · obtain ⟨f, hf, rfl⟩ := List.mem_map.mp hl
          obtain ⟨name, -, hname⟩ := mem_endpointFiles hf
          exact ⟨_, name, hname⟩
        · exact ih (fun x hx => hes (List.mem_cons_of_mem _ hx)) hl
    exact .inr (hpub _ (List.Subset.refl _) hl)
  · exact .inl (List.mem_singleton.mp hl)

theorem mem_tableLocations (hl : l ∈ fileLocations (tableOutputs settings catalog c)) :
    ∃ name, name ≠ Layout.metricsSummary ∧ l = c.dir.location ++ [name] := by
  rw [tableOutputs, fileLocations, fileLocations_append, List.mem_cons, List.mem_append] at hl
  rcases hl with rfl | hl | hl
  · exact ⟨Layout.resultsTable, by decide, rfl⟩
  · split at hl
    · exact ⟨Layout.detailedTable, by decide, List.mem_singleton.mp hl⟩
    · cases hl
  · exact ⟨Layout.summaryReport, by decide, List.mem_singleton.mp hl⟩

/-- The results table is written once. -/
theorem lastContent?_resultsTable (settings : ReportSettings) (catalog : Option Catalog) (t : Tree)
    (c : CollectedResults) : lastContent? (c.dir.location ++ [Layout.resultsTable])
      (reportOutputs settings catalog t c) = some (resultsFile catalog c).content := by
  have hname : ∀ name, name ≠ Layout.resultsTable →
      c.dir.location ++ [name] ≠ c.dir.location ++ [Layout.resultsTable] := fun name hne he =>
    hne (List.singleton_inj.mp (List.append_cancel_left he))
  have hdetailed := hname Layout.detailedTable (by decide)
  have hsummary := hname Layout.summaryReport (by decide)
  have htable : lastContent? (c.dir.location ++ [Layout.resultsTable]) (tableOutputs settings catalog c) =
      some (resultsFile catalog c).content := by
    rw [tableOutputs, lastContent?, lastContent?_append]
    cases settings.detailedCsv <;>
      simp [lastContent?, resultsFile, detailedFile, narrativeFile, rootFile, hdetailed, hsummary]
  rw [reportOutputs, lastContent?_append, htable, Option.some_or]

theorem summaryReport_mem_reportOutputs (settings : ReportSettings) (catalog : Option Catalog)
    (t : Tree) (c : CollectedResults) : c.dir.location ++ [Layout.summaryReport] ∈
      fileLocations (reportOutputs settings catalog t c) := by
  simp only [reportOutputs, tableOutputs, fileLocations_append, List.mem_append, fileLocations,
    List.mem_cons]
  exact .inr (.inr (.inr (.inl rfl)))

theorem endpoint_mem_reportOutputs {e : EndpointResults} (he : e ∈ c.endpoints) :
    c.dir.endpointLocation e.endpoint ∈ dirLocations (reportOutputs settings catalog t c) := by
  obtain ⟨front, rest, hsplit⟩ := List.append_of_mem he
  simp only [reportOutputs, metricsOutputs, hsplit, List.flatMap_append, List.flatMap_cons,
    dirLocations_append, List.mem_append, endpointOutputs, dirLocations, List.mem_cons]
  exact .inl (.inl (.inr (.inl (.inl trivial))))

/-- Where a report writes does not depend on the catalog. -/
theorem locations_reportOutputs (settings : ReportSettings) (catalog catalog' : Option Catalog)
    (t : Tree) (c : CollectedResults) :
    fileLocations (reportOutputs settings catalog t c) ⊆
        fileLocations (reportOutputs settings catalog' t c) ∧
      dirLocations (reportOutputs settings catalog t c) ⊆
        dirLocations (reportOutputs settings catalog' t c) := by
  have htable : ∀ x, (resultsFile x c).location = c.dir.location ++ [Layout.resultsTable] :=
    fun _ => rfl
  have hnarrative : ∀ x, (narrativeFile settings x c).location =
      c.dir.location ++ [Layout.summaryReport] := fun _ => rfl
  simp only [reportOutputs, tableOutputs, fileLocations_append, dirLocations_append, fileLocations,
    dirLocations, htable, hnarrative]
  exact ⟨List.Subset.refl _, List.Subset.refl _⟩

/-- Whether the names below a results directory that lead to a location are not those of a report or of
the hidden neighbour of one. -/
structure NoReport (ids : List Nat) (names : List String) : Prop where
  root : ∀ name ∈ Layout.reports, names ≠ [name] ∧ names ≠ [Step.hiddenName name]
  endpoint : ∀ id ∈ ids, ∀ name ∈ Layout.endpointReports,
    names ≠ [Layout.endpointName id, name] ∧ names ≠ [Layout.endpointName id, Step.hiddenName name]

theorem Publishes.aside (h : Publishes d ids outs) {names : List String} (hn : NoReport ids names) :
    Tree.Aside (fileLocations outs) (d.location ++ names) := by
  refine ⟨fun hm => ?_, fun hm => ?_⟩
  · rcases h.files _ hm with ⟨name, hname, he⟩ | ⟨id, hid, name, hname, he⟩
    · exact (hn.root name hname).1 (List.append_cancel_left he)
    · rw [ResultsDir.endpointLocation_eq, List.append_assoc] at he
      exact (hn.endpoint id hid name hname).1 (List.append_cancel_left he)
  · obtain ⟨l, hl, he⟩ := List.mem_map.mp hm
    rcases h.files l hl with ⟨name, hname, rfl⟩ | ⟨id, hid, name, hname, rfl⟩
    · rw [Step.hidden_concat] at he
      exact (hn.root name hname).2 (List.append_cancel_left he.symm)
    · rw [Step.hidden_concat, ResultsDir.endpointLocation_eq, List.append_assoc] at he
      exact (hn.endpoint id hid name hname).2 (List.append_cancel_left he.symm)

theorem Publishes.aside_of_outside (h : Publishes d ids outs) (hl : ¬ d.location <+: l) :
    Tree.Aside (fileLocations outs) l := by
  refine ⟨fun hm => hl (h.files _ hm).below.1, fun hm => ?_⟩
  obtain ⟨m, hfile, rfl⟩ := List.mem_map.mp hm
  exact hl (h.files m hfile).below.2

theorem noReport_of_length {names : List String} (h : 2 < names.length) : NoReport ids names := by
  refine ⟨fun name _ => ⟨?_, ?_⟩, fun id _ name _ => ⟨?_, ?_⟩⟩ <;>
    · rintro rfl
      simp at h

theorem noReport_manifest : NoReport ids [Layout.manifest] where
  root name hn := by
    refine ⟨fun he => ?_, fun he => ?_⟩
    · exact (List.nodup_cons.mp Layout.rootFiles_nodup).1 (List.singleton_inj.mp he ▸ hn)
    · exact Layout.hiddenName_ne_rootFiles name _ List.mem_cons_self (List.singleton_inj.mp he).symm
  endpoint id _ name _ := ⟨by simp, by simp⟩

theorem noReport_endpoint (id : Nat) : NoReport ids [Layout.endpointName id] where
  root name hn := by
    have hne := Layout.rootFiles_ne_endpointName id name (List.mem_cons_of_mem _ hn)
    exact ⟨fun he => hne.1 (List.singleton_inj.mp he).symm,
      fun he => hne.2 (List.singleton_inj.mp he).symm⟩
  endpoint id _ name _ := ⟨by simp, by simp⟩

theorem Publishes.aside_endpoint (h : Publishes d ids outs) (id : Nat) :
    Tree.Aside (fileLocations outs) (d.endpointLocation id) := h.aside (noReport_endpoint id)

theorem noReport_run (a : String) (n : Nat) : NoReport ids [a, Layout.runName n] where
  root name _ := ⟨by simp, by simp⟩
  endpoint id _ name hn := by
    have hne := Layout.endpointReports_ne_runName n name hn
    exact ⟨fun he => hne.1 (by simpa using (List.cons.inj he).2.symm),
      fun he => hne.2 (by simpa using (List.cons.inj he).2.symm)⟩

theorem noReport_manualEvaluation (a : String) : NoReport ids [a, Layout.manualEvaluation] where
  root name _ := ⟨by simp, by simp⟩
  endpoint id _ name hn := by
    refine ⟨fun he => ?_, fun he => ?_⟩
    · obtain rfl : Layout.manualEvaluation = name := by simpa using (List.cons.inj he).2
      revert hn
      decide
    · have hm : Layout.manualEvaluation = Step.hiddenName name := by simpa using (List.cons.inj he).2
      exact Step.hiddenName_ne (by decide) hm.symm

/-- Reports and directories of endpoints do not get in each other's way. -/
theorem Publishes.compatible (h : Publishes d ids outs) : Compatible outs where
  ne_nil l hl := by
    obtain ⟨front, name, -, rfl, -⟩ := (h.files l hl).eq_concat
    simp
  hidden l hl m hm he := by
    obtain ⟨front, name, hname, rfl, -⟩ := (h.files m hm).eq_concat
    have hdot : ∀ b ∈ Layout.reports ++ Layout.endpointReports, b.toList.head? ≠ some '.' := by
      decide
    have hlast := congrArg List.getLast? he
    simp only [Step.hidden, List.getLast?_append, List.getLast?_singleton, Option.some_or,
      Option.some.injEq] at hlast
    exact Step.hiddenName_ne (hdot name hname) hlast
  way l hl m hm hp := by
    obtain ⟨id, -, rfl⟩ := h.directories m hm
    rcases h.files l hl with ⟨name, hname, rfl⟩ | ⟨id', -, name, -, rfl⟩
    · rw [Step.hidden_concat] at hp
      have he := hp.eq_of_length (by simp [ResultsDir.endpointLocation_eq])
      rw [ResultsDir.endpointLocation_eq] at he
      exact (Layout.rootFiles_ne_endpointName id name (List.mem_cons_of_mem _ hname)).2
        (List.singleton_inj.mp (List.append_cancel_left he))
    · rw [Step.hidden_concat] at hp
      have hlen := hp.length_le
      simp [ResultsDir.endpointLocation_eq] at hlen

end Published

end Report

end SuiteBench
