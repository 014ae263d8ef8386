import SuiteBench.Benchmark.Harness
import SuiteBench.Proofs.Report.Checklist
import SuiteBench.Proofs.Report.Listed
import SuiteBench.Proofs.Report.Outputs

/-!
# Proofs.Report.Stopping — what is left where writing stops

Whoever writes results prepares each file under a hidden name and moves it into place.  Stopped
anywhere, even within a write, the steps leave every file with what it held before or with all of its
new content; once they are done, no hidden file of theirs is left.
-/

namespace SuiteBench

namespace Tree

variable {t u : Tree} {d l : Location}

/-- What the file at a location holds, if a file stands there. -/
def content? (t : Tree) (l : Location) : Option ByteArray := (t.find? l).bind Entry.content?

theorem content?_congr (h : u.find? l = t.find? l) : u.content? l = t.content? l := by
  rw [content?, content?, h]

/-- In a sound tree every file can be reached. -/
theorem content?_eq_read (ht : t.Sound) (l : Location) : t.content? l = (t.read l).toOption := by
  cases hc : t.read l with
  | ok c =>
    obtain ⟨-, x, hf⟩ := read_eq_ok_iff.mp hc
    rw [content?, hf]
    rfl
  | error e =>
    cases hf : t.find? l with
    | none => rw [content?, hf]; rfl
    | some f =>
      cases f with
      | directory => rw [content?, hf]; rfl
      | file c x =>
        have hok := read_eq_ok_iff.mpr ⟨ht.obstacle? (by simp [hf]), x, hf⟩
        rw [hc] at hok
        cases hok

/-- Making directories changes no file. -/
theorem content?_makeDirs (h : t.makeDirs d = .ok u) (l : Location) : u.content? l = t.content? l := by
  obtain ⟨hdir, helse, hkept⟩ := makeDirs_spec h
  cases hl : t.find? l with
  | some e => exact content?_congr ((hkept l e hl).trans hl.symm)
  | none =>
    cases hd : t.find? d with
    | some e =>
      rw [makeDirs_eq, hd] at h
      cases e with
      | file c x => cases h
      | directory => cases h; rfl
    | none =>
      by_cases hp : l <+: d
      · rw [content?, content?, hl, makeDirs_way h hd hp]
        rfl
      · exact content?_congr (helse l hp)

end Tree

namespace Step

variable {t u v : Tree} {s : Step} {rest : List Step} {l m : Location} {c : ByteArray}

/-! ### Stopping -/

/-- How a step can be cut: of a file any part may have been written, of directories some may have been
made. -/
inductive Cut : Step → Step → Prop
  | write (l : Location) (c part : ByteArray) : Cut (.write l c) (.write l part)
  | makeDirs (p rest : Location) : Cut (.makeDirs (p ++ rest)) (.makeDirs p)

/-- The trees that steps leave when they are stopped: after some of them, or within one. -/
inductive Leaves (t : Tree) (steps : List Step) : Tree → Prop
  | after (n : Nat) : Leaves t steps (run t (steps.take n)).1
  | within {n : Nat} {s cut : Step} {v u : Tree} (before : run t (steps.take n) = (v, none))
      (next : steps[n]? = some s) (part : Cut s cut) (done : cut.apply v = .ok u) : Leaves t steps u

theorem Leaves.of_run {steps : List Step} {e : Option FileError} (h : run t steps = (u, e)) :
    Leaves t steps u := by
  have hall : Leaves t steps (run t (steps.take steps.length)).1 := .after steps.length
  rwa [List.take_length, h] at hall

/-- Steps are stopped before the first, within it, or later. -/
theorem Leaves.cons_cases (h : Leaves t (s :: rest) u) : u = t ∨
    (∃ cut, Cut s cut ∧ cut.apply t = .ok u) ∨ ∃ v, s.apply t = .ok v ∧ Leaves v rest u := by
  cases h with
  | after n =>
    cases n with
    | zero => exact .inl rfl
    | succ n =>
      rw [List.take_succ_cons]
      cases hs : s.apply t with
      | error e => exact .inl (by rw [run, hs])
      | ok v =>
        rw [run_cons_ok hs]
        exact .inr (.inr ⟨v, rfl, .after n⟩)
  | @within n _ cut _ _ before next part done =>
    cases n with
    | zero =>
      cases before
      obtain rfl := Option.some.inj next
      exact .inr (.inl ⟨cut, part, done⟩)
    | succ n =>
      rw [List.take_succ_cons, run_cons_eq_none] at before
      obtain ⟨v, hs, before⟩ := before
      exact .inr (.inr ⟨v, hs, .within before (by simpa using next) part done⟩)

/-- Stopped while a file is replaced, steps leave at most its hidden neighbour. -/
theorem Leaves.replace_cases (h : Leaves t (replace l c ++ rest) u) :
    (∀ m, ¬ hidden l <+: m → u.find? m = t.find? m) ∨
      ∃ v, run t (replace l c) = (v, none) ∧ Leaves v rest u := by
  have hwrite : ∀ {part : ByteArray} {w : Tree}, (write (hidden l) part).apply t = .ok w →
      ∀ m, ¬ hidden l <+: m → w.find? m = t.find? m := fun hw m hm =>
    find?_apply hw fun hmh => hm (hmh ▸ List.prefix_refl _)
  rw [replace_eq, List.cons_append, List.singleton_append] at h
  rcases h.cons_cases with rfl | ⟨cut, hcut, hu⟩ | ⟨v, hv, h⟩
  · exact .inl fun _ _ => rfl
  · cases hcut
    exact .inl (hwrite hu)
  · rcases h.cons_cases with rfl | ⟨cut, hcut, -⟩ | ⟨w, hw, h⟩
    · exact .inl (hwrite hv)
    · cases hcut
    · exact .inr ⟨w, run_cons_eq_none.mpr ⟨v, hv, run_cons_eq_none.mpr ⟨w, hw, rfl⟩⟩, h⟩

/-- A file that is replaced holds its new content; other files are as they were. -/
theorem content?_replace (h : run t (replace l c) = (u, none)) (hl : l ≠ []) :
    u.content? l = some c ∧ ∀ m, m ≠ l → ¬ hidden l <+: m → u.content? m = t.content? m := by
  obtain ⟨-, x, hf⟩ := Tree.read_eq_ok_iff.mp (run_replace h hl).1
  refine ⟨by rw [Tree.content?, hf]; rfl, fun m hm hh => Tree.content?_congr ?_⟩
  exact find?_of_run h fun s hs ht => (replace_touches hs ht).elim hh hm

end Step

namespace Report

open Output Step

/-! ### Writing outputs -/

section Outputs

variable {t u v : Tree} {outs : List Output} {m : Location}

/-- The files among some outputs. -/
def Output.files : List Output → List OutputFile
  | [] => []
  | .directory _ :: outs => files outs
  | .file f :: outs => f :: files outs

theorem Output.fileLocations_eq (outs : List Output) :
    fileLocations outs = (files outs).map (·.location) := by
  induction outs with
  | nil => rfl
  | cons o outs ih => cases o <;> simp [fileLocations, files, ih]

theorem Output.files_append (outs outs' : List Output) :
    files (outs ++ outs') = files outs ++ files outs' := by
  induction outs with
  | nil => rfl
  | cons o outs ih => cases o <;> simp [files, ih]

theorem Output.files_map (fs : List OutputFile) : files (fs.map .file) = fs := by
  induction fs with
  | nil => rfl
  | cons f fs ih => simp [files, ih]

/-- Whether each file is written once and no hidden neighbour of one is on the way to another or to a
directory. -/
structure Separate (outs : List Output) : Prop where
  ne_nil : ∀ f ∈ files outs, f.location ≠ []
  hidden : ∀ f ∈ files outs, ∀ g ∈ files outs, ¬ Step.hidden f.location <+: g.location
  way : ∀ f ∈ files outs, ∀ d ∈ dirLocations outs, ¬ Step.hidden f.location <+: d
  once : ((files outs).map (·.location)).Nodup

theorem Separate.tail {o : Output} (h : Separate (o :: outs)) : Separate outs := by
  cases o with
  | directory d => exact ⟨h.ne_nil, h.hidden, fun f hf m hm => h.way f hf m (List.mem_cons_of_mem _ hm),
      h.once⟩
  | file g =>
    obtain ⟨hne, hhidden, hway, honce⟩ := h
    obtain ⟨-, hne⟩ := List.forall_mem_cons.mp hne
    have hmem : ∀ f ∈ files outs, f ∈ files (.file g :: outs) := fun f hf => List.mem_cons_of_mem _ hf
    exact ⟨hne, fun f hf f' hf' => hhidden f (hmem f hf) f' (hmem f' hf'),
      fun f hf => hway f (hmem f hf), (List.nodup_cons.mp honce).2⟩

/-- Wherever writing stops, a file off the hidden names holds what it held or what is written to it. -/
theorem content?_of_leaves (hne : ∀ f ∈ files outs, f.location ≠ [])
    (hm : ∀ f ∈ files outs, ¬ Step.hidden f.location <+: m)
    (h : Leaves t (outs.flatMap Output.steps) u) : u.content? m = t.content? m ∨
      ∃ f ∈ files outs, f.location = m ∧ u.content? m = some f.content := by
  induction outs generalizing t with
  | nil =>
    rw [List.flatMap_nil] at h
    cases h with
    | after n => exact .inl (by rw [List.take_nil]; rfl)
    | within before next part done => cases next
  | cons o outs ih =>
    rw [List.flatMap_cons] at h
    cases o with
    | directory d =>
      rcases h.cons_cases with rfl | ⟨cut, hcut, hu⟩ | ⟨v, hv, h⟩
      · exact .inl rfl
      · cases hcut
        exact .inl (Tree.content?_makeDirs hu m)
      · rw [← Tree.content?_makeDirs hv m]
        exact ih hne hm h
    | file f =>
      obtain ⟨hf, hne⟩ := List.forall_mem_cons.mp hne
      obtain ⟨hfm, hm⟩ := List.forall_mem_cons.mp hm
      rcases h.replace_cases with hsame | ⟨v, hv, h⟩
      · exact .inl (Tree.content?_congr (hsame m hfm))
      · obtain ⟨hnew, hothers⟩ := Step.content?_replace hv hf
        rcases ih hne hm h with hkept | ⟨g, hg, hgm, hcontent⟩
        · by_cases hmf : m = f.location
          · subst hmf
            exact .inr ⟨f, List.mem_cons_self, rfl, hkept.trans hnew⟩
          · exact .inl (hkept.trans (hothers m hmf hfm))
        · exact .inr ⟨g, List.mem_cons_of_mem _ hg, hgm, hcontent⟩

/-- Writing puts nothing in a place that is neither that of a file nor on the way to a directory. -/
theorem find?_none_of_run (hf : ∀ f ∈ files outs, m ≠ f.location)
    (hd : ∀ d ∈ dirLocations outs, ¬ m <+: d) (hm : t.find? m = none)
    (h : Step.run t (outs.flatMap Output.steps) = (u, none)) : u.find? m = none := by
  induction outs generalizing t with
  | nil =>
    cases h
    exact hm
  | cons o outs ih =>
    rw [List.flatMap_cons, Step.run_append_eq_none] at h
    obtain ⟨v, hv, h⟩ := h
    cases o with
    | directory d =>
      obtain ⟨hnot, hd⟩ := List.forall_mem_cons.mp hd
      obtain ⟨w, hw, hrun⟩ := Step.run_cons_eq_none.mp hv
      cases hrun
      exact ih hf hd (((Tree.makeDirs_spec hw).2.1 m hnot).trans hm) h
    | file f =>
      obtain ⟨hne, hf⟩ := List.forall_mem_cons.mp hf
      refine ih hf hd ?_ h
      cases hx : v.find? m with
      | none => rfl
      | some e =>
        rcases Step.find?_of_replaced hv hx with heq | hold
        · exact absurd heq hne
        · rw [hm] at hold
          cases hold

/-- Once everything is written, each file holds its content and no hidden neighbour is left. -/
theorem written_of_run (hs : Separate outs) (h : Step.run t (outs.flatMap Output.steps) = (u, none)) :
    ∀ f ∈ files outs, u.content? f.location = some f.content ∧
      u.find? (Step.hidden f.location) = none := by
  induction outs generalizing t with
  | nil => simp [files]
  | cons o outs ih =>
    have hrest := h
    rw [List.flatMap_cons, Step.run_append_eq_none] at hrest
    obtain ⟨v, hv, hrest⟩ := hrest
    cases o with
    | directory d => exact ih hs.tail hrest
    | file f =>
      refine List.forall_mem_cons.mpr ⟨⟨?_, ?_⟩, ih hs.tail hrest⟩
      · -- no later file stands in the place of this one
        have hnew := (Step.content?_replace hv (hs.ne_nil f List.mem_cons_self)).1
        have hclear : ∀ g ∈ files outs, ¬ Step.hidden g.location <+: f.location := fun g hg =>
          hs.hidden g (List.mem_cons_of_mem _ hg) f List.mem_cons_self
        rcases content?_of_leaves hs.tail.ne_nil hclear (.of_run hrest) with hkept | ⟨g, hg, hgf, -⟩
        · exact hkept.trans hnew
        · have honce := (List.nodup_cons.mp hs.once).1
          exact absurd (List.mem_map.mpr ⟨g, hg, hgf⟩) honce
      · have hgone := (Step.run_replace hv (hs.ne_nil f List.mem_cons_self)).2
        have hclear : ∀ g ∈ files outs, Step.hidden f.location ≠ g.location := fun g hg he =>
          hs.hidden f List.mem_cons_self g (List.mem_cons_of_mem _ hg) (he ▸ List.prefix_refl _)
        exact find?_none_of_run hclear (hs.way f List.mem_cons_self) hgone hrest

/-- Whether steps write files each at once: stopped anywhere, they leave every file with its old or all
of its new content, and nothing hidden is left once they are done. -/
structure Atomic (t : Tree) (steps : List Step) (files : List OutputFile) : Prop where
  stopped : ∀ u, Leaves t steps u → ∀ f ∈ files,
    u.content? f.location = t.content? f.location ∨ u.content? f.location = some f.content
  others : ∀ u, Leaves t steps u → ∀ m,
    (∀ f ∈ files, m ≠ f.location ∧ ¬ Step.hidden f.location <+: m) → u.content? m = t.content? m
  finished : ∀ u, Step.run t steps = (u, none) → ∀ f ∈ files,
    u.content? f.location = some f.content ∧ u.find? (Step.hidden f.location) = none

theorem Separate.atomic (hs : Separate outs) (t : Tree) :
    Atomic t (outs.flatMap Output.steps) (files outs) where
  stopped u hu f hf := by
    rcases content?_of_leaves hs.ne_nil (fun g hg => hs.hidden g hg f hf) hu with
      hkept | ⟨g, hg, hgf, hcontent⟩
    · exact .inl hkept
    · obtain rfl := List.inj_on_of_nodup_map hs.once hg hf hgf
      exact .inr hcontent
  others u hu m hm := by
    rcases content?_of_leaves hs.ne_nil (fun g hg => (hm g hg).2) hu with hkept | ⟨g, hg, hgm, -⟩
    · exact hkept
    · exact absurd hgm.symm (hm g hg).1
  finished u hu := written_of_run hs hu

/-- One file is written at once. -/
theorem atomic_file (t : Tree) (f : OutputFile) (hf : f.location ≠ []) : Atomic t f.steps [f] := by
  have hs : Separate [.file f] := by
    refine ⟨?_, ?_, ?_, ?_⟩
    · simpa [files] using hf
    · simpa [files] using Step.not_hidden_prefix hf
    · simp [dirLocations]
    · simp [files]
  simpa [Output.steps, files] using hs.atomic t

end Outputs

/-! ### Reports -/

section Reports

variable {settings : ReportSettings} {catalog : Option Catalog} {t : Tree} {c : CollectedResults}
  {d : ResultsDir} {ids : List Nat} {outs : List Output}

/-- No hidden neighbour of a report is on the way to a report. -/
theorem IsReport.not_hidden_prefix {l m : Location} (hl : IsReport d ids l) (hm : IsReport d ids m) :
    ¬ Step.hidden l <+: m := by
  have hdot : ∀ name ∈ Layout.reports ++ Layout.endpointReports, name.toList.head? ≠ some '.' := by
    decide
  intro hp
  rcases hl with ⟨a, ha, rfl⟩ | ⟨id, -, a, ha, rfl⟩ <;> rcases hm with ⟨b, hb, rfl⟩ | ⟨id', -, b, hb, rfl⟩
  · rw [Step.hidden_concat] at hp
    have he := hp.eq_of_length (by simp)
    exact Step.hiddenName_ne (hdot b (List.mem_append_left _ hb))
      (List.singleton_inj.mp (List.append_cancel_left he))
  · rw [Step.hidden_concat, ResultsDir.endpointLocation_eq, List.append_assoc,
      List.prefix_append_right_inj] at hp
    have he : Step.hiddenName a = Layout.endpointName id' := by simpa using hp
    exact (Layout.rootFiles_ne_endpointName id' a (List.mem_cons_of_mem _ ha)).2 he
  · have hlen := hp.length_le
    rw [Step.hidden_concat] at hlen
    simp [ResultsDir.endpointLocation_eq] at hlen
  · rw [Step.hidden_concat] at hp
    have he := hp.eq_of_length (by simp [ResultsDir.endpointLocation_eq])
    have hlast := congrArg List.getLast? he
    simp only [List.getLast?_append, List.getLast?_singleton, Option.some_or, Option.some.injEq] at hlast
    exact Step.hiddenName_ne (hdot b (List.mem_append_right _ hb)) hlast

theorem Publishes.separate (h : Publishes d ids outs)
    (honce : ((Output.files outs).map (·.location)).Nodup) : Separate outs := by
  have hreport : ∀ f ∈ Output.files outs, f.location ∈ fileLocations outs := fun f hf => by
    rw [fileLocations_eq]
    exact List.mem_map_of_mem hf
  have hc := h.compatible
  have hhidden : ∀ f ∈ Output.files outs, ∀ g ∈ Output.files outs,
      ¬ Step.hidden f.location <+: g.location := fun f hf g hg =>
    IsReport.not_hidden_prefix (h.files _ (hreport f hf)) (h.files _ (hreport g hg))
  exact ⟨fun f hf => hc.ne_nil _ (hreport f hf), hhidden, fun f hf => hc.way _ (hreport f hf), honce⟩

/-- Files of different names in one directory are different files. -/
theorem nodup_locations {dir : Location} {names all : List String} {fs : List OutputFile}
    (hsub : names.Sublist all) (hall : all.Nodup)
    (hl : fs.map (·.location) = names.map fun n => dir ++ [n]) : (fs.map (·.location)).Nodup := by
  rw [hl]
  exact (hsub.nodup hall).map fun a b hab => List.singleton_inj.mp (List.append_cancel_left hab)

theorem nodup_endpointFiles (settings : ReportSettings) (t : Tree) (c : CollectedResults)
    (e : EndpointResults) : ((endpointFiles settings t c e).map (·.location)).Nodup := by
  obtain ⟨names, hsub, hl⟩ := endpointFiles_locations settings t c e
  exact nodup_locations hsub (by decide) hl

theorem nodup_rootFiles (settings : ReportSettings) (catalog : Option Catalog)
    (c : CollectedResults) : ((rootFiles settings catalog c).map (·.location)).Nodup := by
  obtain ⟨names, hsub, hl⟩ := rootFiles_locations settings catalog c
  exact nodup_locations hsub (List.nodup_cons.mp Layout.rootFiles_nodup).2 hl

/-- The files that a report writes. -/
def reportFiles (settings : ReportSettings) (catalog : Option Catalog) (t : Tree)
    (c : CollectedResults) : List OutputFile :=
  c.endpoints.flatMap (endpointFiles settings t c) ++ rootFiles settings catalog c

/-- The files that the aggregates and the summary are written to. -/
def metricsFiles (settings : ReportSettings) (t : Tree) (c : CollectedResults) : List OutputFile :=
  c.endpoints.flatMap (endpointFiles settings t c) ++ [metricsFile c]

/-- No two files of a report stand in one place. -/
theorem nodup_reportFiles (settings : ReportSettings) (catalog : Option Catalog) (t : Tree)
    (hids : (c.endpoints.map (·.endpoint)).Pairwise (· < ·)) :
    ((reportFiles settings catalog t c).map (·.location)).Nodup := by
  have hends : ((c.endpoints.flatMap (endpointFiles settings t c)).map (·.location)).Nodup := by
    rw [List.map_flatMap, List.nodup_flatMap]
    refine ⟨fun e _ => nodup_endpointFiles settings t c e, ?_⟩
    refine (List.pairwise_map.mp hids).imp fun {a b} hab l ha hb => ?_
    obtain ⟨f, hf, rfl⟩ := List.mem_map.mp ha
    obtain ⟨g, hg, hfg⟩ := List.mem_map.mp hb
    obtain ⟨x, -, hx⟩ := mem_endpointFiles hf
    obtain ⟨y, -, hy⟩ := mem_endpointFiles hg
    rw [hx, hy, ResultsDir.endpointLocation_eq, ResultsDir.endpointLocation_eq] at hfg
    have hname : Layout.endpointName b.endpoint = Layout.endpointName a.endpoint := by
      have := List.append_cancel_left ((List.append_assoc ..).symm.trans (hfg.trans (List.append_assoc ..)))
      simpa using (List.cons.inj this).1
    have := Layout.stem_injective _ hname
    omega
  rw [reportFiles, List.map_append, List.nodup_append]
  refine ⟨hends, nodup_rootFiles settings catalog c, fun l hl m hm he => ?_⟩
  obtain ⟨f, hf, rfl⟩ := List.mem_map.mp hl
  obtain ⟨e, -, hf⟩ := List.mem_flatMap.mp hf
  obtain ⟨x, -, hx⟩ := mem_endpointFiles hf
  obtain ⟨g, hg, rfl⟩ := List.mem_map.mp hm
  obtain ⟨y, -, hy⟩ := mem_rootFiles hg
  have hlen := congrArg List.length (hx.symm.trans (he.trans hy))
  simp [ResultsDir.endpointLocation_eq] at hlen

theorem files_endpointOutputs (settings : ReportSettings) (t : Tree) (c : CollectedResults)
    (e : EndpointResults) :
    Output.files (endpointOutputs settings t c e) = endpointFiles settings t c e := by
  rw [endpointOutputs, Output.files, files_map]

theorem files_flatMap {α : Type} (as : List α) (f : α → List Output) :
    Output.files (as.flatMap f) = as.flatMap fun a => Output.files (f a) := by
  induction as with
  | nil => rfl
  | cons a as ih => rw [List.flatMap_cons, List.flatMap_cons, files_append, ih]

theorem files_metricsOutputs (settings : ReportSettings) (t : Tree) (c : CollectedResults) :
    Output.files (metricsOutputs settings t c) = metricsFiles settings t c := by
  simp only [metricsOutputs, files_append, files_flatMap, files_endpointOutputs, metricsFiles,
    Output.files]

theorem files_reportOutputs (settings : ReportSettings) (catalog : Option Catalog) (t : Tree)
    (c : CollectedResults) :
    Output.files (reportOutputs settings catalog t c) = reportFiles settings catalog t c := by
  rw [reportOutputs, files_append, files_metricsOutputs, metricsFiles, reportFiles, rootFiles,
    tableOutputs]
  cases settings.detailedCsv <;> simp [Output.files]

/-- The files of an endpoint are written at once each. -/
theorem atomic_endpointSteps (settings : ReportSettings) (t u : Tree) (c : CollectedResults)
    (e : EndpointResults) :
    Atomic u (endpointSteps settings t c e) (endpointFiles settings t c e) := by
  have hpub : Publishes c.dir [e.endpoint] (endpointOutputs settings t c e) :=
    publishes_endpointOutputs (c := ⟨c.dir, c.manifest, [e]⟩) List.mem_cons_self
  have hs : Separate (endpointOutputs settings t c e) := hpub.separate (by
    rw [files_endpointOutputs]
    exact nodup_endpointFiles settings t c e)
  rw [endpointSteps_eq_flatMap, ← files_endpointOutputs]
  exact hs.atomic u

/-- The files of a report about endpoints that differ are written at once each. -/
theorem atomic_reportSteps (settings : ReportSettings) (catalog : Option Catalog) (t u : Tree)
    (hids : (c.endpoints.map (·.endpoint)).Pairwise (· < ·)) :
    Atomic u (reportSteps settings catalog t c) (reportFiles settings catalog t c) := by
  have hs : Separate (reportOutputs settings catalog t c) :=
    (publishes_reportOutputs settings catalog t c).separate (by
      rw [files_reportOutputs]
      exact nodup_reportFiles settings catalog t hids)
  rw [reportSteps_eq_flatMap, ← files_reportOutputs]
  exact hs.atomic u

theorem atomic_metricsSteps (settings : ReportSettings) (t u : Tree)
    (hids : (c.endpoints.map (·.endpoint)).Pairwise (· < ·)) :
    Atomic u (metricsSteps settings t c) (metricsFiles settings t c) := by
  have honce : ((metricsFiles settings t c).map (·.location)).Nodup := by
    have hsub : (metricsFiles settings t c).Sublist (reportFiles settings none t c) :=
      (List.Sublist.refl _).append (List.singleton_sublist.mpr List.mem_cons_self)
    exact (hsub.map _).nodup (nodup_reportFiles settings none t hids)
  have hs : Separate (metricsOutputs settings t c) := publishes_metricsOutputs.separate (by
    rw [files_metricsOutputs]
    exact honce)
  rw [metricsSteps_eq_flatMap, ← files_metricsOutputs]
  exact hs.atomic u

end Reports

end Report

/-! ### Records and the manifest -/

namespace Store

open Report

/-- The files of a record. -/
def recordFiles (d : ResultsDir) (r : RunRecord) : List OutputFile := [
  ⟨(d.runDir r.key).join Layout.resourceMetrics, metricsAt d r.key, r.metrics.toJson.fileText⟩,
  ⟨(d.runDir r.key).join Layout.exitStatus, statusAt d r.key, r.exitStatus.toJson.fileText⟩]

/-- The documents of a record are written at once each. -/
theorem atomic_saveSteps (d : ResultsDir) (r : RunRecord) (t : Tree) :
    Atomic t (saveSteps d r) (recordFiles d r) := by
  have hlocations : (recordFiles d r).map (·.location) =
      [Layout.resourceMetrics, Layout.exitStatus].map fun n => d.runLocation r.key ++ [n] := rfl
  have hnames : ∀ f ∈ recordFiles d r, ∃ name ∈ [Layout.resourceMetrics, Layout.exitStatus],
      f.location = d.runLocation r.key ++ [name] := fun f hf => by
    have hm := List.mem_map_of_mem (f := fun f : OutputFile => f.location) hf
    rw [hlocations] at hm
    obtain ⟨name, hname, he⟩ := List.mem_map.mp hm
    exact ⟨name, hname, he.symm⟩
  have hs : Separate (.directory (d.runLocation r.key) :: (recordFiles d r).map .file) := by
    refine ⟨fun f hf => ?_, fun f hf g hg hp => ?_, fun f hf m hm hp => ?_, ?_⟩
    · rw [Output.files, Output.files_map] at hf
      obtain ⟨name, -, hl⟩ := hnames f hf
      simp [hl]
    · rw [Output.files, Output.files_map] at hf hg
      obtain ⟨a, -, ha⟩ := hnames f hf
      obtain ⟨b, hb, hl⟩ := hnames g hg
      rw [ha, hl, Step.hidden_concat] at hp
      have he := hp.eq_of_length (by simp)
      have hdot : ∀ name ∈ [Layout.resourceMetrics, Layout.exitStatus],
        name.toList.head? ≠ some '.' := by decide
      exact Step.hiddenName_ne (hdot b hb) (List.singleton_inj.mp (List.append_cancel_left he))
    · rw [Output.files, Output.files_map] at hf
      rw [Output.dirLocations, Output.dirLocations_map] at hm
      obtain ⟨a, -, ha⟩ := hnames f hf
      rw [ha, List.mem_singleton.mp hm, Step.hidden_concat] at hp
      have hlen := hp.length_le
      simp at hlen
    · rw [Output.files, Output.files_map]
      exact nodup_locations (List.Sublist.refl _) (by decide) hlocations
  have hsteps : saveSteps d r = (Output.directory (d.runLocation r.key) ::
      (recordFiles d r).map Output.file).flatMap Output.steps := by
    rw [saveSteps_eq, List.flatMap_cons, Output.flatMap_steps_map]
    simp [recordFiles, Output.steps, OutputFile.steps]
  have h := hs.atomic t
  rwa [← hsteps, Output.files, Output.files_map] at h

end Store

/-- The file of a benchmark's manifest. -/
def Harness.manifestFile (h : Harness) (b : BenchmarkRun) : Report.OutputFile :=
  ⟨h.manifestPath, h.results.location ++ [Layout.manifest], b.manifest.toJson.fileText⟩

open Report in
/-- A save, the manifest, the reports and a merge of evaluations write each of their files at once. -/
theorem written_atomically :
    (∀ (d : ResultsDir) (r : RunRecord) (t : Tree),
      Atomic t (Store.saveSteps d r) (Store.recordFiles d r)) ∧
    (∀ (h : Harness) (b : BenchmarkRun) (t : Tree), Atomic t (h.manifestSteps b) [h.manifestFile b]) ∧
    (∀ (settings : ReportSettings) (t u : Tree) (c : CollectedResults) (e : EndpointResults),
      Atomic u (endpointSteps settings t c e) (endpointFiles settings t c e)) ∧
    (∀ (settings : ReportSettings) (catalog : Option Catalog) (d : ResultsDir) (t u : Tree)
      (c : CollectedResults), collect d t = .ok c →
        Atomic u (metricsSteps settings t c) (metricsFiles settings t c) ∧
        Atomic u (reportSteps settings catalog t c) (reportFiles settings catalog t c)) ∧
    ∀ (d : ResultsDir) (t u : Tree) (table : Path) (l : Location) (n : Nat) (steps : List Step),
      mergeSteps d t table l = .ok (n, steps) →
        ∃ content x text, t.find? l = some (.file content x) ∧
          mergedTable d t table content = .ok (n, text) ∧ Atomic u steps [⟨table, l, text.toUTF8⟩] := by
  refine ⟨Store.atomic_saveSteps, fun h b t => ?_, fun settings t u c e =>
    atomic_endpointSteps settings t u c e, fun settings catalog d t u c hc => ?_, ?_⟩
  · exact atomic_file t (h.manifestFile b) (by simp [Harness.manifestFile])
  · obtain ⟨hids, -⟩ := collect_eq_ok hc
    exact ⟨atomic_metricsSteps settings t u hids, atomic_reportSteps settings catalog t u hids⟩
  · intro d t u table l n steps hm
    obtain ⟨content, x, text, hf, hmerged, rfl⟩ := mergeSteps_eq_ok_iff.mp hm
    have hl : l ≠ [] := by
      rintro rfl
      cases hf
    exact ⟨content, x, text, hf, hmerged, atomic_file u ⟨table, l, text.toUTF8⟩ hl⟩

/-- A results directory with a table that has one row. -/
def tableTree : Tree :=
  (Tree.empty.set ["results"] .directory).set ["results", Layout.resultsTable]
    (.file "endpoint_id,run_number\n3,7\n".toUTF8 false)

open Report in
theorem written_atomically_sample : ∃ c n steps,
    collect sampleDir tableTree = .ok c ∧
    mergeSteps sampleDir tableTree ⟨"/results/benchmark-results.csv"⟩
      ["results", Layout.resultsTable] = .ok (n, steps) ∧
    Atomic tableTree (reportSteps ⟨[], true, true⟩ none tableTree c)
      (reportFiles ⟨[], true, true⟩ none tableTree c) ∧
    ∃ text : String, Atomic tableTree steps
      [⟨⟨"/results/benchmark-results.csv"⟩, ["results", Layout.resultsTable], text.toUTF8⟩] := by
  have hc : (collect sampleDir tableTree).isOk = true := by decide +kernel
  have hm : (mergeSteps sampleDir tableTree ⟨"/results/benchmark-results.csv"⟩
      ["results", Layout.resultsTable]).isOk = true := by decide +kernel
  cases hcollect : collect sampleDir tableTree with
  | error e => simp [hcollect, Except.isOk, Except.toBool] at hc
  | ok c =>
    cases hmerge : mergeSteps sampleDir tableTree ⟨"/results/benchmark-results.csv"⟩
        ["results", Layout.resultsTable] with
    | error e => simp [hmerge, Except.isOk, Except.toBool] at hm
    | ok merged =>
      obtain ⟨-, -, -, hreport, hmerged⟩ := written_atomically
      obtain ⟨-, -, text, -, -, hatomic⟩ := hmerged _ _ tableTree _ _ _ _ hmerge
      exact ⟨c, _, _, rfl, rfl, (hreport _ _ _ _ tableTree _ hcollect).2, text, hatomic⟩

end SuiteBench
