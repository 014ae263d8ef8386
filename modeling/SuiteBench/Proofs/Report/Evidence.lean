import SuiteBench.Proofs.Execution.Confinement
import SuiteBench.Proofs.Report.Files
import SuiteBench.Proofs.Report.Listed
import SuiteBench.Proofs.Store.Untouched

/-!
# Proofs.Report.Evidence — what the reports of an endpoint are made of

The files of an endpoint's report are made of what stands in the directory of the endpoint, its reports
apart.  Where this evidence stays as it is, its order included, and can be reached, the same runs are
listed with the same records and the same tests, so that the same files come out.
-/

namespace SuiteBench

/-! ### What can be reached -/

namespace Tree

variable {t u : Tree} {l : Location} {name : String} {s : Step}

theorem Way.apply (h : t.Way l) (hs : s.apply t = .ok u) (hr : ∀ p, p <+: l → ¬ s.Replaces p) :
    u.Way l :=
  fun p hp => Step.find?_apply_some hs (hr p hp) (h p hp)

theorem Way.get_eq (h : t.Way l) : t.get l = .ok .directory :=
  get_eq_ok_iff.mpr ⟨obstacle?_eq_none_iff.mpr fun p hp => h p (hp.trans (List.dropLast_prefix l)),
    h l (List.prefix_refl l)⟩

theorem way_of_obstacle? (h : t.obstacle? (l ++ [name]).dropLast = none) : t.Way l := by
  rw [List.dropLast_concat] at h
  exact obstacle?_eq_none_iff.mp h

/-- What a step puts into a directory can be reached. -/
theorem way_of_put (hs : s.apply t = .ok u) (hr : ∀ p, p <+: l → ¬ s.Replaces p)
    (ht : t.find? (l ++ [name]) = none) (hu : u.find? (l ++ [name]) ≠ none) : u.Way l := by
  have hne : l ++ [name] ≠ [] := by simp
  cases s with
  | makeDirs k =>
    have hmk : t.makeDirs k = .ok u := hs
    have hk : t.find? k = none := by
      by_contra hk
      rw [makeDirs_eq_self hmk hk] at hu
      exact hu ht
    have hlk : l ++ [name] <+: k := by
      by_contra hlk
      rw [(makeDirs_spec hmk).2.1 _ hlk] at hu
      exact hu ht
    exact fun p hp => makeDirs_way hmk hk ((hp.trans (List.prefix_append l [name])).trans hlk)
  | write k c =>
    obtain ⟨ho, x, rfl⟩ := Step.apply_write hs
    obtain rfl : l ++ [name] = k := by
      by_contra hlk
      rw [find?_set_of_ne t _ hlk] at hu
      exact hu ht
    exact (way_of_obstacle? ho).apply hs hr
  | rename a b =>
    obtain ⟨ho, -, e, -, rfl⟩ := Step.apply_rename hs
    obtain rfl : l ++ [name] = b := by
      by_contra hlb
      rw [find?_set_of_ne _ _ hlb] at hu
      by_cases hal : a <+: l ++ [name]
      · exact hu (find?_cut_below t hal hne)
      · rw [find?_cut_elsewhere t hal] at hu
        exact hu ht
    exact (way_of_obstacle? ho).apply hs hr
  | remove k =>
    obtain ⟨-, rfl⟩ := Step.apply_remove hs
    by_cases hk : k <+: l ++ [name]
    · exact absurd (find?_cut_below t hk hne) hu
    · rw [find?_cut_elsewhere t hk] at hu
      exact absurd ht hu

/-- A directory that could be made was there, or nothing was found in its place. -/
theorem makeDirs_cases (h : t.makeDirs l = .ok u) : u = t ∨ t.get l = .error .notFound := by
  by_cases hl : t.find? l = none
  · refine .inr (get_of_no_file hl fun p hp => Bool.eq_false_iff.mpr fun hf => ?_)
    obtain ⟨c, x, hf⟩ := isFile_iff.mp hf
    have hdir := makeDirs_way h hl hp
    rw [(makeDirs_spec h).2.2 p _ hf] at hdir
    cases hdir
  · exact .inl (makeDirs_eq_self h hl)

end Tree

namespace ResultsDir

variable {d : ResultsDir} {t u : Tree} {s : Step} {id : Nat} {m : Location}

/-- Whether all that stands in the directory of an endpoint can be reached. -/
def Open (d : ResultsDir) (t : Tree) : Prop :=
  ∀ id name, t.find? (d.endpointLocation id ++ [name]) ≠ none → t.Way (d.endpointLocation id)

/-- Whether a step takes nothing on the way to the directory of an endpoint. -/
def LeavesWays (d : ResultsDir) (s : Step) : Prop :=
  ∀ id p, p <+: d.endpointLocation id → ¬ s.Replaces p

theorem open_of_sound (h : t.Sound) : d.Open t := fun id name hne p hp =>
  h _ hne p (hp.trans (List.prefix_append _ _)) fun he => by
    have hlen := hp.length_le
    simp [he] at hlen

theorem Open.apply (h : d.Open t) (hs : s.apply t = .ok u) (hw : d.LeavesWays s) : d.Open u := by
  intro id name hne
  by_cases ht : t.find? (d.endpointLocation id ++ [name]) = none
  · exact Tree.way_of_put hs (hw id) ht hne
  · exact (h id name ht).apply hs (hw id)

/-! ### Evidence -/

/-- The names that stand in the directory of an endpoint when its reports are written. -/
def reserved : List String :=
  Layout.endpointReports ++ Layout.endpointReports.map Step.hiddenName

/-- Whether a location is in the directory of an endpoint and none of its reports. -/
def Evidence (d : ResultsDir) (id : Nat) (m : Location) : Prop :=
  d.endpointLocation id <+: m ∧
    ∃ name ∈ (m.drop (d.endpointLocation id).length).head?, name ∉ reserved

instance (d : ResultsDir) (id : Nat) : DecidablePred (d.Evidence id) :=
  fun _ => inferInstanceAs (Decidable (_ ∧ _))

theorem evidence_iff : d.Evidence id m ↔
    ∃ name rest, m = d.endpointLocation id ++ name :: rest ∧ name ∉ reserved := by
  constructor
  · rintro ⟨⟨rest, rfl⟩, name, hname, hr⟩
    rw [List.drop_left] at hname
    obtain ⟨rest, rfl⟩ := List.head?_eq_some_iff.mp hname
    exact ⟨name, rest, rfl, hr⟩
  · rintro ⟨name, rest, rfl, hr⟩
    refine ⟨List.prefix_append _ _, name, ?_, hr⟩
    rw [List.drop_left]
    rfl

theorem evidence_of_number? {name : String} {n : Nat} (h : Layout.number? name "run" = some n) :
    d.Evidence id (d.endpointLocation id ++ [name]) := by
  refine evidence_iff.mpr ⟨name, [], rfl, fun hr => ?_⟩
  have hnone : ∀ a ∈ reserved, Layout.number? a "run" = none := by decide
  rw [hnone name hr] at h
  cases h

theorem evidence_run (d : ResultsDir) (k : RunKey) {m : Location} (h : d.runLocation k <+: m) :
    d.Evidence k.endpoint m := by
  obtain ⟨rest, rfl⟩ := h
  refine evidence_iff.mpr ⟨Layout.runName k.run, rest, by
    simp [runLocation_eq, endpointLocation_eq], fun hr => ?_⟩
  rcases List.mem_append.mp hr with hr | hr
  · exact (Layout.endpointReports_ne_runName k.run _ hr).1 rfl
  · obtain ⟨a, ha, he⟩ := List.mem_map.mp hr
    exact (Layout.endpointReports_ne_runName k.run a ha).2 he

/-- Whether a step leaves the ways to endpoints and the evidence of an endpoint alone. -/
structure LeavesEvidence (d : ResultsDir) (id : Nat) (s : Step) : Prop where
  ways : d.LeavesWays s
  evidence : ∀ m, d.Evidence id m → ¬ s.Touches m

/-- Whether the evidence of an endpoint stands in a tree as in another one and can be reached there. -/
structure KeepsEvidence (d : ResultsDir) (id : Nat) (t u : Tree) : Prop where
  way : u.Way (d.endpointLocation id)
  untouched : Tree.Untouched (d.Evidence id) t u
  opened : d.Open u

namespace KeepsEvidence

variable {v : Tree}

theorem apply (h : d.KeepsEvidence id t u) (hs : s.apply u = .ok v) (hl : d.LeavesEvidence id s) :
    d.KeepsEvidence id t v where
  way := h.way.apply hs (hl.ways id)
  untouched := h.untouched.trans (.of_apply hs hl.evidence)
  opened := h.opened.apply hs hl.ways

theorem run {steps : List Step} (h : d.KeepsEvidence id t u)
    (hl : ∀ s ∈ steps, d.LeavesEvidence id s) : d.KeepsEvidence id t (Step.run u steps).1 :=
  Step.run_induction steps (fun s hs _ _ ha hv => hv.apply ha (hl s hs)) h

theorem of_run {steps : List Step} {f : Option FileError} (h : d.KeepsEvidence id t u)
    (hr : Step.run u steps = (v, f)) (hl : ∀ s ∈ steps, d.LeavesEvidence id s) :
    d.KeepsEvidence id t v := by
  have hv := h.run hl
  rwa [hr] at hv

end KeepsEvidence

/-! ### Steps that leave evidence alone -/

theorem leavesEvidence_replace {l : Location} {content : ByteArray}
    (hw : ∀ id', ¬ l <+: d.endpointLocation id' ∧ ¬ Step.hidden l <+: d.endpointLocation id')
    (he : ∀ m, d.Evidence id m → m ≠ l ∧ ¬ Step.hidden l <+: m) :
    ∀ s ∈ Step.replace l content, d.LeavesEvidence id s := fun _ hs =>
  ⟨fun id' => Step.replace_spares (hw id').1 (hw id').2 hs, fun m hm ht =>
    (Step.replace_touches hs ht).elim (he m hm).2 (he m hm).1⟩

/-- A file in the results directory that is no endpoint directory is no evidence. -/
theorem leavesEvidence_rootFile (d : ResultsDir) (id : Nat) {name : String}
    (h : name ∈ Layout.manifest :: Layout.reports) (content : ByteArray) :
    ∀ s ∈ Step.replace (d.location ++ [name]) content, d.LeavesEvidence id s := by
  have hapart : ∀ id' a, a = name ∨ a = Step.hiddenName name →
      Location.Apart (d.location ++ [a]) (d.endpointLocation id') := by
    rintro id' a (rfl | rfl)
    · exact .of_ne (Layout.rootFiles_ne_endpointName id' _ h).1
    · exact .of_ne (Layout.rootFiles_ne_endpointName id' _ h).2
  refine leavesEvidence_replace (fun id' => ?_) fun m hm => ?_
  · rw [Step.hidden_concat]
    exact ⟨(hapart id' _ (.inl rfl)).1, (hapart id' _ (.inr rfl)).1⟩
  · rw [Step.hidden_concat]
    refine ⟨?_, fun hp => (hapart id _ (.inr rfl)).not_both hp hm.1⟩
    rintro rfl
    exact (hapart id _ (.inl rfl)).2 hm.1

/-- What is written about endpoints is no evidence. -/
theorem leavesEvidence_endpointSteps {settings : ReportSettings} {t : Tree} {c : CollectedResults}
    {e : EndpointResults} (id : Nat) :
    ∀ s ∈ Report.endpointSteps settings t c e, c.dir.LeavesEvidence id s := by
  intro s hs
  rcases List.mem_cons.mp hs with rfl | hs
  · refine ⟨fun _ _ _ hr => hr, fun m hm ht => ?_⟩
    obtain ⟨name, rest, rfl, -⟩ := evidence_iff.mp hm
    have hlen := List.IsPrefix.length_le ht
    simp [endpointLocation_eq] at hlen
  · obtain ⟨f, hf, hs⟩ := List.mem_flatMap.mp hs
    obtain ⟨a, ha, hl⟩ := Report.mem_endpointFiles hf
    have hlong : ∀ id' b, ¬ c.dir.endpointLocation e.endpoint ++ [b] <+:
        c.dir.endpointLocation id' := fun id' b hp => by
      have hlen := hp.length_le
      simp [endpointLocation_eq] at hlen
    -- neither a report nor its hidden neighbour is at or above evidence
    have hreserved : ∀ b ∈ reserved, ∀ m, c.dir.Evidence id m →
        ¬ c.dir.endpointLocation e.endpoint ++ [b] <+: m := by
      rintro b hb m hm ⟨tail, htail⟩
      obtain ⟨name, rest, rfl, hname⟩ := evidence_iff.mp hm
      simp only [endpointLocation_eq, List.append_assoc, List.cons_append, List.nil_append,
        List.append_cancel_left_eq, List.cons.injEq] at htail
      exact hname (htail.2.1 ▸ hb)
    rw [Report.OutputFile.steps, hl] at hs
    refine leavesEvidence_replace (fun id' => ?_) (fun m hm => ?_) s hs
    · rw [Step.hidden_concat]
      exact ⟨hlong id' _, hlong id' _⟩
    · rw [Step.hidden_concat]
      refine ⟨?_, hreserved _ (List.mem_append_right _ (List.mem_map_of_mem ha)) m hm⟩
      rintro rfl
      exact hreserved a (List.mem_append_left _ ha) _ hm (List.prefix_refl _)

theorem leavesEvidence_reportSteps {settings : ReportSettings} {catalog : Option Catalog} {t : Tree}
    {c : CollectedResults} (id : Nat) :
    ∀ s ∈ Report.reportSteps settings catalog t c, c.dir.LeavesEvidence id s := by
  intro s hs
  rw [Report.reportSteps_eq] at hs
  rcases List.mem_append.mp hs with hs | hs
  · obtain ⟨e, -, hs⟩ := List.mem_flatMap.mp hs
    exact leavesEvidence_endpointSteps id s hs
  · obtain ⟨f, hf, hs⟩ := List.mem_flatMap.mp hs
    obtain ⟨name, hn, hl⟩ := Report.mem_rootFiles hf
    rw [Report.OutputFile.steps, hl] at hs
    exact c.dir.leavesEvidence_rootFile id (List.mem_cons_of_mem _ hn) _ s hs

/-- Writing the files of an endpoint leaves its evidence alone; its directory was there, or was not
found before. -/
theorem keepsEvidence_of_written {settings : ReportSettings} {c : CollectedResults}
    {e : EndpointResults} (ho : c.dir.Open t)
    (hr : Step.run t (Report.endpointSteps settings t c e) = (u, none)) :
    (t.Way (c.dir.endpointLocation e.endpoint) ∨
        t.get (c.dir.endpointLocation e.endpoint) = .error .notFound) ∧
      c.dir.KeepsEvidence e.endpoint t u := by
  have hl : ∀ s ∈ Report.endpointSteps settings t c e, c.dir.LeavesEvidence e.endpoint s :=
    leavesEvidence_endpointSteps e.endpoint
  obtain ⟨v, hv, hu⟩ := Step.run_cons_eq_none.mp hr
  obtain ⟨hmake, hfiles⟩ := List.forall_mem_cons.mp hl
  -- the first file is written only where the directory can be reached
  have hway : v.Way (c.dir.endpointLocation e.endpoint) := by
    obtain ⟨w, hw, -⟩ := Step.run_cons_eq_none.mp hu
    have ho : v.obstacle? (c.dir.endpointLocation e.endpoint ++
        [Step.hiddenName Layout.averagesJson]).dropLast = none := by
      rw [← Step.hidden_concat]
      exact (Step.apply_write hw).1
    exact Tree.way_of_obstacle? ho
  have hkeeps : c.dir.KeepsEvidence e.endpoint t v :=
    ⟨hway, .of_apply hv hmake.evidence, ho.apply hv hmake.ways⟩
  refine ⟨?_, hkeeps.of_run hu hfiles⟩
  rcases Tree.makeDirs_cases hv with rfl | hnone
  · exact .inl hway
  · exact .inr hnone

end ResultsDir

/-! ### What is made of evidence -/

theorem Store.number?_of_numbered {stem : String} {x : String × Entry}
    (h : (if x.2.isDirectory then (Layout.number? x.1 stem).map fun n => (n, x.1) else none) ≠ none) :
    Layout.number? x.1 stem ≠ none := by
  obtain ⟨y, hy⟩ := Option.ne_none_iff_exists'.mp h
  simp [(Store.numbered_eq_some_iff.mp hy).2.2]

namespace ResultsDir.KeepsEvidence

open Store

variable {d : ResultsDir} {id : Nat} {t u : Tree} (h : d.KeepsEvidence id t u)

include h

/-- The run directories that are listed are the same. -/
theorem numbered_eq (ho : d.Open t)
    (ht : t.Way (d.endpointLocation id) ∨ t.get (d.endpointLocation id) = .error .notFound) :
    numbered u (d.endpointLocation id) "run" = numbered t (d.endpointLocation id) "run" := by
  have hpick : ∀ f : String × Entry → Option (Nat × String),
      (∀ x, f x ≠ none → Layout.number? x.1 "run" ≠ none) →
        (u.children (d.endpointLocation id)).filterMap f =
          (t.children (d.endpointLocation id)).filterMap f := fun f hf =>
    h.untouched.children_eq fun x hx =>
      have ⟨_, hn⟩ := Option.ne_none_iff_exists'.mp (hf x hx)
      evidence_of_number? hn
  rw [numbered, numbered, Tree.list, Tree.list, h.way.get_eq]
  rcases ht with ht | ht
  · rw [ht.get_eq]
    dsimp only
    rw [hpick _ fun _ => number?_of_numbered]
  -- where there was no directory, nothing was in it
  · have hnone : t.children (d.endpointLocation id) = [] := by
      refine List.eq_nil_iff_forall_not_mem.mpr fun x hx => ?_
      obtain ⟨⟨k, e⟩, hmem, hx⟩ := List.mem_filterMap.mp hx
      obtain ⟨rfl, -⟩ := Tree.child_eq_some_iff.mp hx
      have hway := ho id x.1 (Option.isSome_iff_ne_none.mp (Tree.find?_isSome_of_mem hmem))
      rw [hway.get_eq] at ht
      cases ht
    rw [ht]
    dsimp only
    rw [hpick _ fun _ => number?_of_numbered, hnone, List.filterMap_nil, List.mergeSort_nil]

/-- The record of a run is the same. -/
theorem recordIn_eq (ht : t.Way (d.endpointLocation id)) (n : Nat) :
    recordIn u (d.runLocation ⟨id, n⟩) = recordIn t (d.runLocation ⟨id, n⟩) := by
  have hread : ∀ name, u.read (d.runLocation ⟨id, n⟩ ++ [name]) =
      t.read (d.runLocation ⟨id, n⟩ ++ [name]) := fun name => by
    refine Tree.read_congr fun p hp => ?_
    by_cases hrun : d.runLocation ⟨id, n⟩ <+: p
    · exact h.untouched.find?_eq (d.evidence_run ⟨id, n⟩ hrun)
    · have hp : p <+: d.endpointLocation id := by
        rcases List.prefix_concat_iff.mp hp with rfl | hp
        · exact absurd (List.prefix_append _ _) hrun
        · rw [runLocation_eq_concat] at hp hrun
          exact (List.prefix_concat_iff.mp hp).resolve_left fun he => hrun (he ▸ List.prefix_refl _)
      rw [h.way p hp, ht p hp]
  simp only [recordIn, documentAt, hread]

theorem listRuns_eq (ho : d.Open t)
    (ht : t.Way (d.endpointLocation id) ∨ t.get (d.endpointLocation id) = .error .notFound) :
    listRuns d u id = listRuns d t id := by
  rw [Store.listRuns_eq, Store.listRuns_eq, h.numbered_eq ho ht]
  rcases ht with ht | ht
  · have hrun : numberedRun d u id = numberedRun d t id := by
      funext x
      rw [numberedRun, numberedRun, h.recordIn_eq ht]
    rw [hrun]
  · rw [numbered, Tree.list, ht]
    rfl

/-- The generated tests of a run are the same. -/
theorem ofDirectory_eq (n : Nat) : SuiteAnalysis.ofDirectory u (Report.testsLocation d ⟨id, n⟩) =
    SuiteAnalysis.ofDirectory t (Report.testsLocation d ⟨id, n⟩) := by
  have hin : ∀ m, Report.testsLocation d ⟨id, n⟩ <+: m → d.Evidence id m := fun m hm =>
    d.evidence_run ⟨id, n⟩ ((List.prefix_append _ _).trans hm)
  rw [SuiteAnalysis.ofDirectory, SuiteAnalysis.ofDirectory, SuiteAnalysis.sources,
    SuiteAnalysis.sources, h.untouched.filesBelow_eq hin, Tree.isDirectory, Tree.isDirectory,
    h.untouched.find?_eq (hin _ (List.prefix_refl _))]

/-- The files of the endpoint are the same if they are about the same records. -/
theorem endpointFiles_eq (settings : ReportSettings) {c c' : CollectedResults}
    {e e' : EndpointResults} (hc : c.dir = d) (hc' : c'.dir = d)
    (he : e.endpoint = id ∧ e.endpoint = e'.endpoint) (hruns : e.expectedRuns = e'.expectedRuns)
    (hrec : e.records = e'.records) :
    Report.endpointFiles settings u c e = Report.endpointFiles settings t c' e' := by
  obtain ⟨rfl, he⟩ := he
  have htests : Report.endpointTests d u e = Report.endpointTests d t e' := by
    simp only [Report.endpointTests, ← he, ← hrec, h.ofDirectory_eq]
  have haggregate : Report.aggregateOf e = Report.aggregateOf e' := by
    rw [Report.aggregateOf, Report.aggregateOf, he, hruns, hrec]
  simp only [Report.endpointFiles, haggregate, hc, hc', htests, he]

end ResultsDir.KeepsEvidence

end SuiteBench
