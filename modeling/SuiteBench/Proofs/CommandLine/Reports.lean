import SuiteBench.CommandLine.Application
import SuiteBench.Proofs.Benchmark.Attempts
import SuiteBench.Proofs.Report.Reading

/-!
# Proofs.CommandLine.Reports — what the commands about results do when they succeed

A path is followed through directories alone.  A report collects the results, writes the reports about
them, and then puts evaluations into the results table that it wrote.
-/

namespace SuiteBench

/-! ### Where a path leads -/

/-- The locations that a path leads through before its last component. -/
def Path.way (cwd : Location) (p : Path) : List Location :=
  (List.range p.components.length).map fun n =>
    Path.follow (if p.isAbsolute then [] else cwd) (p.components.take n)

theorem Path.follow_cons (start : Location) (s : String) (rest : List String) :
    Path.follow start (s :: rest) =
      Path.follow (if s = ".." then start.dropLast else start ++ [s]) rest := by
  by_cases hs : s = ".."
  · subst hs
    rw [Path.follow, if_pos rfl]
  · rw [Path.follow, if_neg hs]
    exact hs

/-- A path is followed if there is a directory wherever it leads through. -/
theorem Programs.enter_eq_ok_iff {t : Tree} {start l : Location} {components : List String} :
    enter t start components = .ok l ↔
      (∀ n < components.length, t.get (Path.follow start (components.take n)) = .ok .directory) ∧
        l = Path.follow start components := by
  induction components generalizing start with
  | nil => simp [enter, Path.follow, eq_comm]
  | cons s components ih =>
    rw [enter, Path.follow_cons, List.length_cons, Nat.forall_lt_succ_left]
    simp only [List.take_zero, List.take_succ_cons, Path.follow_cons]
    rw [Path.follow]
    cases t.get start with
    | error e => simp
    | ok e =>
      cases e with
      | file c x => simp
      | directory => simpa using ih

namespace CommandLine

namespace Site

variable {site : Site} {t u : Tree} {p : Path} {c : ByteArray}

/-- A file is found at a path that leads to it through directories. -/
theorem file?_eq_some_iff : site.file? t p = some c ↔ p.text.isEmpty = false ∧
    p.endsInDirectory = false ∧ (∀ l ∈ p.way site.cwd, t.get l = .ok .directory) ∧
      ∃ x, t.get (p.locate site.cwd) = .ok (.file c x) := by
  have hway : (∀ l ∈ p.way site.cwd, t.get l = .ok .directory) ↔ ∀ n < p.components.length,
      t.get (Path.follow (if p.isAbsolute then [] else site.cwd) (p.components.take n)) =
        .ok .directory := by
    simp [Path.way]
  rw [file?, Programs.reach, hway]
  cases p.text.isEmpty with
  | true => simp [throw, throwThe, MonadExceptOf.throw, bind, Except.bind]
  | false =>
    cases he : Programs.enter t (if p.isAbsolute then [] else site.cwd) p.components with
    | error e =>
      refine iff_of_false (by simp [bind, Except.bind]) fun hall => ?_
      rw [Programs.enter_eq_ok_iff.mpr ⟨hall.2.2.1, rfl⟩] at he
      cases he
    | ok l =>
      obtain ⟨hdirs, rfl⟩ := Programs.enter_eq_ok_iff.mp he
      have hlocate : Path.follow (if p.isAbsolute then [] else site.cwd) p.components =
          p.locate site.cwd := rfl
      simp only [Bool.false_eq_true, if_false, bind, Except.bind, pure, Except.pure, hlocate]
      cases hg : t.get (p.locate site.cwd) with
      | error e => simp
      | ok e =>
        cases e with
        | directory => cases p.endsInDirectory <;> simp [Entry.isDirectory]
        | file b x =>
          cases p.endsInDirectory with
          | true => simp [Entry.isDirectory, throw, throwThe, MonadExceptOf.throw]
          | false =>
            constructor
            · intro h
              cases h
              exact ⟨trivial, rfl, hdirs, x, rfl⟩
            · rintro ⟨-, -, -, y, hy⟩
              cases hy
              rfl

/-! ### The commands -/

open Report Report.Output

variable {s : Settings} {results : Option Path} {merge : Bool} {w : World} {o : Outcome}

/-- What is put into the results table once a report is written, and what is said about it. -/
inductive Merged (d : ResultsDir) (t : Tree) : Bool → List Output → List String → Prop
  | off : Merged d t false [] []
  | on {n : Nat} {text : String} {content : ByteArray} {x : Bool}
      (found : t.find? (d.location ++ [Layout.resultsTable]) = some (.file content x))
      (merged : mergedTable d t (d.path.join Layout.resultsTable) content = .ok (n, text)) :
      Merged d t true [mergedOutput d text] (mergedLines n)

/-- The results directory of a report. -/
def resultsDir (site : Site) (s : Settings) (results : Option Path) : ResultsDir :=
  .ofPath site.cwd (results.getD s.plan.resultsDir)

namespace Merged

variable {d : ResultsDir} {extra : List Output} {lines : List String}

theorem publishes (h : Merged d t merge extra lines) (ids : List Nat) : Publishes d ids extra := by
  cases h with
  | off => exact ⟨fun l hl => (by cases hl), fun l hl => by cases hl⟩
  | on found merged => exact publishes_mergedOutput _

theorem mem_locations (h : Merged d t merge extra lines) {l : Location}
    (hl : l ∈ fileLocations extra) : l = d.location ++ [Layout.resultsTable] := by
  cases h with
  | off => cases hl
  | on found merged => exact List.mem_singleton.mp hl

/-- What is put into the table depends on the table and on the evaluations alone. -/
theorem of_same (h : Merged d t merge extra lines) (he : evaluations d u = evaluations d t)
    (hf : ∀ c x, t.find? (d.location ++ [Layout.resultsTable]) = some (.file c x) →
      ∃ y, u.find? (d.location ++ [Layout.resultsTable]) = some (.file c y)) :
    Merged d u merge extra lines := by
  cases h with
  | off => exact .off
  | on found merged =>
    obtain ⟨y, hy⟩ := hf _ _ found
    rw [mergedTable, ← he] at merged
    exact .on hy merged

end Merged

theorem merged_of_ok {d : ResultsDir} {n : Nat} {v v' : World}
    (h : mergeEvaluations d v = (.ok n, v')) :
    ∃ outs, Merged d v.tree true outs (mergedLines n) ∧
      Step.run v.tree (outs.flatMap Output.steps) = (v'.tree, none) := by
  rw [mergeEvaluations, mergeSteps] at h
  cases hf : v.tree.find? (d.location ++ [Layout.resultsTable]) with
  | none =>
    rw [hf] at h
    cases h
  | some e =>
    rw [hf] at h
    cases e with
    | directory => cases h
    | file content x =>
      cases hm : mergedTable d v.tree (d.path.join Layout.resultsTable) content with
      | error e =>
        simp only [hm, bind, Except.bind] at h
        cases h
      | ok r =>
        obtain ⟨m, text⟩ := r
        simp only [hm, bind, Except.bind, pure, Except.pure] at h
        cases hp : v.perform (Step.replace (d.location ++ [Layout.resultsTable]) text.toUTF8) with
        | mk v₁ f =>
          rw [hp] at h
          cases f with
          | some f => cases h
          | none =>
            cases h
            refine ⟨_, .on hf hm, ?_⟩
            rw [List.flatMap_singleton]
            exact (World.perform_eq.mp hp).1

theorem ok_of_merged {d : ResultsDir} {v : World} {outs : List Output} {lines : List String}
    (h : Merged d v.tree true outs lines)
    (hr : Step.run v.tree (outs.flatMap Output.steps) = (u, none)) :
    ∃ n v', mergeEvaluations d v = (.ok n, v') ∧ v'.tree = u ∧ lines = mergedLines n := by
  cases h with
  | @on n text content x found merged =>
    refine ⟨n, { v with tree := u }, ?_, rfl, rfl⟩
    have hp : v.perform (Step.replace (d.location ++ [Layout.resultsTable]) text.toUTF8) =
        ({ v with tree := u }, none) := by
      rw [List.flatMap_singleton] at hr
      exact World.perform_eq.mpr ⟨hr, rfl⟩
    rw [mergeEvaluations, mergeSteps, found]
    simp only [merged, bind, Except.bind, pure, Except.pure, hp]

/-- What becomes of collected results: the reports are written, and evaluations put in. -/
def writeReports (settings : ReportSettings) (catalog : Option Catalog) (c : CollectedResults)
    (merge : Bool) (w : World) : Outcome × World :=
  let lines := reportLines settings catalog c
  match w.perform (reportSteps settings catalog w.tree c) with
  | (w, some e) => (.failed (ReportError.file e).chain [], w)
  | (w, none) =>
    if !merge then (.done lines, w)
    else match mergeEvaluations c.dir w with
      | (.error e, w) => (.failed e.chain lines, w)
      | (.ok n, w) => (.done (lines ++ mergedLines n), w)

theorem report_of_collect (merge : Bool) {c : CollectedResults}
    (hc : Report.collect (site.resultsDir s results) w.tree = .ok c) :
    ∃ v : World, v.tree = w.tree ∧ site.report s results merge w =
      writeReports s.report (site.catalog s w.tree).toOption c merge v := by
  rw [resultsDir] at hc
  rw [report, collected, hc]
  dsimp only
  have htree := World.tree_warnAll w (collectWarnings (resultsDir site s results) w.tree c)
  rw [resultsDir] at htree
  generalize w.warnAll (collectWarnings (.ofPath site.cwd (results.getD s.plan.resultsDir)) w.tree c) =
    v at htree ⊢
  rw [← htree]
  cases site.catalog s v.tree with
  | ok catalog => exact ⟨v, rfl, rfl⟩
  | error e =>
    exact ⟨v.warn ("Reporting without endpoint details: " ++ e.message), rfl, rfl⟩

theorem collect_of_report {w' : World} (h : site.report s results merge w = (o, w'))
    (ho : ∃ x, o.ending = .ok x) :
    ∃ c, Report.collect (site.resultsDir s results) w.tree = .ok c := by
  cases hc : Report.collect (site.resultsDir s results) w.tree with
  | ok c => exact ⟨c, rfl⟩
  | error e =>
    rw [resultsDir] at hc
    rw [report, collected, hc] at h
    cases h
    obtain ⟨x, hx⟩ := ho
    cases hx

/-- How reports are written when nothing fails. -/
theorem writeReports_ok {settings : ReportSettings} {catalog : Option Catalog} {c : CollectedResults}
    {w' : World} (h : writeReports settings catalog c merge w = (o, w'))
    (ho : ∃ x, o.ending = .ok x) : ∃ v extra lines,
      Step.run w.tree ((reportOutputs settings catalog w.tree c).flatMap Output.steps) = (v, none) ∧
      Merged c.dir v merge extra lines ∧
      Step.run v (extra.flatMap Output.steps) = (w'.tree, none) ∧
      o = .done (reportLines settings catalog c ++ lines) := by
  rw [writeReports] at h
  cases hp : w.perform (reportSteps settings catalog w.tree c) with
  | mk v f =>
    rw [hp] at h
    obtain ⟨hrun, -⟩ := World.perform_eq.mp hp
    rw [reportSteps_eq_flatMap] at hrun
    cases f with
    | some f =>
      cases h
      obtain ⟨x, hx⟩ := ho
      cases hx
    | none =>
      cases merge with
      | false =>
        cases h
        exact ⟨_, _, _, hrun, .off, rfl, by rw [List.append_nil]⟩
      | true =>
        dsimp only at h
        rw [if_neg (by simp)] at h
        cases hm : mergeEvaluations c.dir v with
        | mk r v' =>
          rw [hm] at h
          cases r with
          | error e =>
            cases h
            obtain ⟨x, hx⟩ := ho
            cases hx
          | ok n =>
            cases h
            obtain ⟨outs, hmerged, hr⟩ := merged_of_ok hm
            exact ⟨_, outs, _, hrun, hmerged, hr, rfl⟩

theorem ok_of_writeReports {settings : ReportSettings} {catalog : Option Catalog}
    {c : CollectedResults} {v : Tree} {extra : List Output} {lines : List String}
    (hr : Step.run w.tree ((reportOutputs settings catalog w.tree c).flatMap Output.steps) = (v, none))
    (hm : Merged c.dir v merge extra lines)
    (hx : Step.run v (extra.flatMap Output.steps) = (u, none)) :
    ∃ w', writeReports settings catalog c merge w =
      (.done (reportLines settings catalog c ++ lines), w') ∧ w'.tree = u := by
  have hp : w.perform (reportSteps settings catalog w.tree c) = ({ w with tree := v }, none) :=
    World.perform_eq.mpr ⟨by rw [reportSteps_eq_flatMap]; exact hr, rfl⟩
  rw [writeReports, hp]
  cases hm with
  | off =>
    cases hx
    exact ⟨_, by rw [List.append_nil]; rfl, rfl⟩
  | on found merged =>
    obtain ⟨n, v', hv', hu, hn⟩ := ok_of_merged (v := { w with tree := v }) (.on found merged) hx
    refine ⟨v', ?_, hu⟩
    dsimp only
    rw [if_neg (by simp), hv', hn]

/-- A report that succeeds writes the reports about the collected results, and puts evaluations into the
results table then. -/
theorem published_of_report {w' : World} (ht : w.tree.Sound) (hd : w.tree.Distinct)
    (h : site.report s results merge w = (o, w')) (ho : ∃ x, o.ending = .ok x) :
    ∃ c u extra lines,
      Report.collect (site.resultsDir s results) w.tree = .ok c ∧
      Published (site.resultsDir s results) (c.endpoints.map (·.endpoint))
        (reportOutputs s.report (site.catalog s w.tree).toOption w.tree c) w.tree u ∧
      Merged (site.resultsDir s results) u merge extra lines ∧
      Published (site.resultsDir s results) (c.endpoints.map (·.endpoint))
        (reportOutputs s.report (site.catalog s w.tree).toOption w.tree c ++ extra) w.tree w'.tree ∧
      o = .done (reportLines s.report (site.catalog s w.tree).toOption c ++ lines) := by
  obtain ⟨c, hc⟩ := collect_of_report h ho
  obtain ⟨v, hv, hreport⟩ := report_of_collect merge hc
  rw [hreport] at h
  obtain ⟨u, extra, lines, hrun, hmerged, hextra, houtcome⟩ := writeReports_ok h ho
  obtain ⟨hdir, -⟩ := collect_inv hc
  have hroot := root_of_collect hc
  have hreports := publishes_reportOutputs s.report (site.catalog s w.tree).toOption w.tree c
  rw [hdir] at hmerged hreports
  rw [hv] at hrun
  refine ⟨c, u, extra, lines, hc, ⟨hreports, ht, hd, hroot, hrun⟩, hmerged,
    ⟨hreports.append (hmerged.publishes _), ht, hd, hroot, ?_⟩, houtcome⟩
  rw [List.flatMap_append]
  exact Step.run_append_eq_none.mpr ⟨u, hrun, hextra⟩

/-- How the aggregates are written when nothing fails. -/
theorem collect_ok {c : CollectedResults}
    (hc : Report.collect (site.resultsDir s results) w.tree = .ok c)
    (hr : Step.run w.tree ((metricsOutputs s.report w.tree c).flatMap Output.steps) = (u, none)) :
    ∃ w', site.collect s results w = (.done (collectLines c), w') ∧ w'.tree = u := by
  have htree := World.tree_warnAll w (collectWarnings (resultsDir site s results) w.tree c)
  rw [resultsDir] at hc htree
  rw [collect, collected, hc]
  dsimp only
  generalize w.warnAll (collectWarnings (.ofPath site.cwd (results.getD s.plan.resultsDir)) w.tree c) =
    v at htree ⊢
  have hp : v.perform (metricsSteps s.report v.tree c) = ({ v with tree := u }, none) :=
    World.perform_eq.mpr ⟨by rw [metricsSteps_eq_flatMap, htree]; exact hr, rfl⟩
  rw [hp]
  exact ⟨_, rfl, rfl⟩

end Site

end CommandLine

end SuiteBench
