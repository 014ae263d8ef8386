import SuiteBench.Proofs.Report.Cells
import SuiteBench.Proofs.Report.Counts
import SuiteBench.Proofs.Report.Files
import SuiteBench.Proofs.Report.Listed
import SuiteBench.Proofs.Store.Keeping

/-!
# Proofs.Report.Agreement — the summary and the aggregates tell the same

The summary counts all records, an aggregate those of its endpoint, in order and each run once.  In a
results directory as the store keeps it every record that is listed for an endpoint is one of this
endpoint, and no run is listed twice, so that the aggregates count each record once.
-/

namespace SuiteBench

namespace Report

open Store

variable {c : CollectedResults}

/-! ### Orderly results -/

/-- Whether the records of each endpoint are its own, and of each run there is one. -/
structure Orderly (c : CollectedResults) : Prop where
  endpoints : (c.endpoints.map (·.endpoint)).Nodup
  own : ∀ e ∈ c.endpoints, ∀ r ∈ e.records, r.key.endpoint = e.endpoint
  once : ∀ e ∈ c.endpoints, (e.records.map (·.key)).Nodup

/-- An aggregate is about all records of its endpoint. -/
theorem Orderly.runsOf_perm (h : Orderly c) {e : EndpointResults} (he : e ∈ c.endpoints) :
    (runsOf e.endpoint e.records).Perm e.records := by
  have hperm := Report.runsOf_perm (h.once e he) e.endpoint
  rwa [List.filter_eq_self.mpr fun r hr => by simpa using h.own e he r hr] at hperm

/-- What the aggregates count of their runs comes to what is counted of all records. -/
theorem Orderly.sum_countP (h : Orderly c) (f : EndpointAggregate → Nat) (p : RunRecord → Bool)
    (hf : ∀ e, f (aggregateOf e) = (runsOf e.endpoint e.records).countP p) :
    ((aggregates c).map f).sum = c.records.countP p := by
  rw [CollectedResults.records, List.countP_flatMap, aggregates, List.map_map]
  refine congrArg List.sum (List.map_congr_left fun e he => ?_)
  rw [Function.comp_apply, hf, Function.comp_apply, (h.runsOf_perm he).countP_eq]

/-! ### What agrees -/

/-- Whether the summary tells what the aggregates tell taken together, and the results table has a row
for each run that it counts. -/
structure Agrees (c : CollectedResults) : Prop where
  totalEndpoints : (summary c).totalEndpoints = (aggregates c).length
  totalRuns : (summary c).totalRuns = ((aggregates c).map (·.totalRuns)).sum
  successfulRuns : (summary c).successfulRuns = ((aggregates c).map (·.successfulRuns)).sum
  failedRuns : (summary c).failedRuns = ((aggregates c).map (·.failedRuns)).sum
  timedOutRuns : (summary c).timedOutRuns = ((aggregates c).map (·.timedOut)).sum
  diagnoses : ∀ x, (summary c).diagnoses.count x =
    ((aggregates c).map (·.errors.diagnoses.count x)).sum
  ordered : (summary c).diagnoses.Ordered ∧ ∀ a ∈ aggregates c, a.errors.diagnoses.Ordered
  allFailed : (summary c).allFailed =
    ((aggregates c).filter fun a => 0 < a.totalRuns ∧ a.successfulRuns = 0).map (·.endpoint)
  table : ∀ catalog, (tableFormat.read (resultsFile catalog c).content).header = .ok resultColumns ∧
    (tableFormat.read (resultsFile catalog c).content).rows.map (·.map Csv.Row.cells) =
      (c.records.map (resultRow catalog)).map .ok ∧
    (tableFormat.read (resultsFile catalog c).content).rows.length = (summary c).totalRuns

theorem length_sub_countP {α : Type} (l : List α) (p : α → Bool) :
    l.length - l.countP p = l.countP fun a => !p a := by
  rw [List.length_eq_countP_add_countP p, Nat.add_sub_cancel_left]
  exact List.countP_congr fun a _ => by simp

/-- The results table is read with a row for each record. -/
theorem read_resultsFile (catalog : Option Catalog) (c : CollectedResults) :
    (tableFormat.read (resultsFile catalog c).content).header = .ok resultColumns ∧
      (tableFormat.read (resultsFile catalog c).content).rows.map (·.map Csv.Row.cells) =
        (c.records.map (resultRow catalog)).map .ok := read_resultsTable catalog c.records

/-- Results tables that are written alike have the same rows. -/
theorem rows_of_resultsFile {catalog catalog' : Option Catalog}
    (h : (resultsFile catalog c).content = (resultsFile catalog' c).content) :
    c.records.map (resultRow catalog) = c.records.map (resultRow catalog') := by
  have hrows := (read_resultsFile catalog c).2
  rw [h, (read_resultsFile catalog' c).2] at hrows
  exact (List.map_injective_iff.mpr (fun _ _ => Except.ok.inj) hrows).symm

/-- The results table tells whether the catalog has the endpoint of a record. -/
theorem resultRow_ne {catalog : Catalog} {r : RunRecord} {e : Endpoint}
    (h : catalog.lookup r.key.endpoint = .ok e) : resultRow (some catalog) r ≠ resultRow none r := by
  intro he
  have hname : ∀ m : HttpMethod, m.name ≠ notAvailable := by
    rintro (_ | _) <;> decide
  have hmethod := congrArg (·[2]?) he
  simp [resultRow, cellOf, h, Except.toOption, hname] at hmethod

/-- Of orderly results the summary and the aggregates tell the same. -/
theorem Orderly.agrees (h : Orderly c) : Agrees c where
  totalEndpoints := rfl
  totalRuns := by
    have hsum := h.sum_countP (·.totalRuns) (fun _ => true) fun e => by
      rw [List.countP_true]
      rfl
    rw [hsum, List.countP_true]
    rfl
  successfulRuns := (h.sum_countP (·.successfulRuns) (·.ranWithoutError) fun _ => rfl).symm
  failedRuns := by
    have hfailed : (summary c).failedRuns = c.records.countP fun r => !r.ranWithoutError :=
      length_sub_countP c.records _
    rw [hfailed]
    exact (h.sum_countP (·.failedRuns) _ fun e => length_sub_countP _ _).symm
  timedOutRuns := (h.sum_countP (·.timedOut) (·.timedOut) fun _ => rfl).symm
  diagnoses x := by
    have hall : (summary c).diagnoses.count x =
        c.records.countP fun r => r.diagnosis.isFailure && r.diagnosis = x :=
      count_failures c.records x
    rw [hall]
    exact (h.sum_countP (·.errors.diagnoses.count x) _ fun e => count_failures _ x).symm
  ordered := by
    refine ⟨ordered_failures _, fun a ha => ?_⟩
    obtain ⟨e, -, rfl⟩ := List.mem_map.mp ha
    exact ordered_failures _
  allFailed := by
    have hfilter : (aggregates c).filter EndpointAggregate.allFailed =
        (aggregates c).filter fun a => 0 < a.totalRuns ∧ a.successfulRuns = 0 :=
      List.filter_congr fun a _ => by
        rw [EndpointAggregate.allFailed, Bool.decide_and]
        rfl
    exact congrArg (List.map (·.endpoint)) hfilter
  table catalog := by
    obtain ⟨hheader, hrows⟩ := read_resultsFile catalog c
    have hlength := congrArg List.length hrows
    simp only [List.length_map] at hlength
    exact ⟨hheader, hrows, hlength⟩

/-! ### What is collected from a directory that the store keeps -/

variable {cwd : Location} {p : Path} {t : Tree}

theorem list_root {d : ResultsDir} (h : Kept d t) :
    t.list d.location = .ok (t.children d.location) :=
  Tree.list_eq_ok_iff.mpr ⟨h.sound.get_eq_ok_iff.mpr h.root, rfl⟩

/-- The directory of an endpoint can be listed if it is there. -/
theorem list_endpoint {d : ResultsDir} (h : Kept d t) {id : Nat} {f : FileError}
    (hf : t.list (d.endpointLocation id) = .error f) : f = .notFound := by
  have hno : ∀ m, m <+: d.endpointLocation id → t.isFile m = false := by
    intro m hm
    rcases List.prefix_concat_iff.mp hm with rfl | hm
    · exact h.endpoints id
    · rw [Tree.isFile, h.sound.directory_of_prefix h.root hm]
      rfl
  cases he : t.find? (d.endpointLocation id) with
  | none =>
    rw [Tree.list, Tree.get_of_no_file he hno] at hf
    exact (Except.error.inj hf).symm
  | some e =>
    cases e with
    | file content x =>
      have hfile := h.endpoints id
      rw [Tree.isFile, he] at hfile
      cases hfile
    | directory =>
      rw [Tree.list, h.sound.get_eq_ok_iff.mpr he] at hf
      cases hf

/-- The runs of an endpoint are listed, each once and with its own record. -/
theorem listRuns_of_kept (h : Kept (.ofPath cwd p) t) (endpoint : Nat) :
    ∃ runs, listRuns (.ofPath cwd p) t endpoint = .ok runs ∧
      (runs.Pairwise fun x y => x.key.run < y.key.run) ∧
      ∀ s ∈ runs, s.key.endpoint = endpoint ∧ ∀ r, s.record = some r → r.key = s.key := by
  rcases listRuns_cases h.distinct cwd p endpoint with ⟨f, hf, hne, -⟩ | ⟨runs, hruns, hl⟩
  · exact absurd (list_endpoint h hf) hne
  · have hfaithful := hl.faithful_iff.mpr (h.wellNamed.unambiguous endpoint)
    refine ⟨runs, hruns, hfaithful.ascending, fun s hs =>
      ⟨endpoint_of_listRuns hruns s hs, fun r hr => ?_⟩⟩
    rw [hl.record s hs, recordIn_runLocation, Option.join_eq_some_iff, toOption_eq_some_iff] at hr
    exact h.status.key_of_load hr

theorem collect_of_kept (h : Kept (.ofPath cwd p) t) : ∃ c, collect (.ofPath cwd p) t = .ok c := by
  have hd := Tree.isDirectory_iff.mpr h.root
  have hlisted : ∃ ids, listEndpoints (.ofPath cwd p) t = .ok ids := by
    rcases numbered_cases h.distinct (ResultsDir.ofPath cwd p).location "endpoint" with
      ⟨f, hf, -, -⟩ | ⟨ns, hns, -⟩
    · rw [list_root h] at hf
      cases hf
    · exact ⟨_, by rw [listEndpoints, hns]; rfl⟩
  obtain ⟨ids, hids⟩ := hlisted
  rw [collect_of_listed hd hids]
  cases hm : (collectedIds (.ofPath cwd p) t ids).mapM (fun id =>
      (endpointResults (.ofPath cwd p) t (manifest? (.ofPath cwd p) t) id).mapError
        ReportError.store) with
  | ok endpoints => exact ⟨_, rfl⟩
  | error e =>
    obtain ⟨id, -, hid⟩ := mapM_error hm
    obtain ⟨runs, hruns, -⟩ := listRuns_of_kept h id
    rw [endpointResults_eq_ok.mpr ⟨runs, hruns, rfl⟩] at hid
    cases hid

theorem orderly_of_kept (h : Kept (.ofPath cwd p) t) (hc : collect (.ofPath cwd p) t = .ok c) :
    Orderly c := by
  obtain ⟨hascending, hrecords⟩ := collect_eq_ok hc
  have hown : ∀ e ∈ c.endpoints, ∃ runs : List StoredRun,
      e.records = runs.filterMap (·.record) ∧ (runs.Pairwise fun x y => x.key.run < y.key.run) ∧
      ∀ s ∈ runs, s.key.endpoint = e.endpoint ∧ ∀ r, s.record = some r → r.key = s.key := by
    intro e he
    obtain ⟨runs, hruns, heq⟩ := hrecords e he
    obtain ⟨runs', hruns', hall⟩ := listRuns_of_kept h e.endpoint
    obtain rfl : runs = runs' := Except.ok.inj (hruns.symm.trans hruns')
    exact ⟨runs, heq, hall⟩
  refine ⟨hascending.imp fun h => h.ne, fun e he r hr => ?_, fun e he => ?_⟩
  · obtain ⟨runs, heq, -, hkeys⟩ := hown e he
    rw [heq] at hr
    obtain ⟨s, hs, hsr⟩ := List.mem_filterMap.mp hr
    rw [(hkeys s hs).2 r hsr, (hkeys s hs).1]
  · obtain ⟨runs, heq, hasc, hkeys⟩ := hown e he
    rw [heq]
    refine List.pairwise_map.mpr (List.Pairwise.filterMap _ (fun x y hxy r hr r' hr' => ?_)
      (List.Pairwise.and_mem.mp hasc))
    rw [(hkeys x hxy.1).2 r hr, (hkeys y hxy.2.1).2 r' hr']
    exact fun he => hxy.2.2.ne (congrArg RunKey.run he)

end Report

/-! ### A manifest -/

open Store in
/-- A manifest that is written, whatever it holds, leaves a directory as the store keeps it. -/
theorem Store.Kept.manifest {d : ResultsDir} {t : Tree} (h : Kept d t) (content : ByteArray) :
    Kept d (Step.run t (Step.replace (d.location ++ [Layout.manifest]) content)).1 := by
  have hne : d.location ++ [Layout.manifest] ≠ [] := by simp
  have hsame : ∀ id m p, d.endpointLocation id <+: m → p <+: m →
      (Step.run t (Step.replace (d.location ++ [Layout.manifest]) content)).1.find? p = t.find? p := by
    intro id m p hm hp
    obtain ⟨hname, hhidden⟩ := Layout.rootFiles_ne_endpointName id _ List.mem_cons_self
    refine Step.find?_run fun s hs ht => ?_
    rcases Step.replace_touches hs ht with hl | rfl
    · rw [Step.hidden_concat] at hl
      exact (Location.Apart.of_ne hhidden).not_both (hl.trans hp) hm
    · exact (Location.Apart.of_ne hname).not_both hp hm
  have hsound := Step.sound_run h.sound (Step.regular_replace hne (c := content))
  refine ⟨hsound, Step.distinct_run h.distinct _, ?_, fun k name hk => ?_, fun id => ?_, fun k s hs => ?_⟩
  · rw [hsame 0 (d.endpointLocation 0) _ (List.prefix_refl _) (List.prefix_append _ _), h.root]
  · refine h.wellNamed k name ((isRunDir_iff h.sound).mpr ?_)
    rw [← hsame k.endpoint _ _ (List.prefix_append _ [name]) (List.prefix_refl _)]
    exact (isRunDir_iff hsound).mp hk
  · rw [Tree.isFile, hsame id _ _ (List.prefix_refl _) (List.prefix_refl _)]
    exact h.endpoints id
  · refine h.status k s ?_
    rw [← hs]
    refine (statusOf?_congr (Tree.read_congr fun p hp => hsame k.endpoint _ p ?_ hp)).symm
    rw [statusAt, runLocation_eq_concat, List.append_assoc]
    exact List.prefix_append _ _

/-- A store in whose directory a manifest is written, if there is one. -/
def Custody.putManifest (d : ResultsDir) (s : Custody) (content : Option ByteArray) : Custody :=
  match content with
  | some bytes =>
    { s with tree := (Step.run s.tree (Step.replace (d.location ++ [Layout.manifest]) bytes)).1 }
  | none => s

theorem Custody.kept_putManifest {d : ResultsDir} {s : Custody} (h : Store.Kept d s.tree)
    (content : Option ByteArray) : Store.Kept d (s.putManifest d content).tree := by
  cases content with
  | none => exact h
  | some bytes => exact h.manifest bytes

open Report in
/-- Whatever is asked of a store that starts with an empty directory, before and after a manifest is
written if one is, its results are collected, and the summary and the aggregates tell the same. -/
theorem summary_agrees {cwd : Location} {p : Path} {t : Tree} (ht : t.Sound) (hd : t.Distinct)
    (hroot : t.find? (p.locate cwd) = some .directory)
    (hempty : ∀ m, m ≠ [] → t.find? (p.locate cwd ++ m) = none) (claims : Claims)
    {before after : List Custody.Request} (hq : ∀ q ∈ before ++ after, q.Fits)
    (manifest : Option ByteArray) :
    let d := ResultsDir.ofPath cwd p
    let s := (((⟨t, claims⟩ : Custody).after d before).putManifest d manifest).after d after
    ∃ c, collect d s.tree = .ok c ∧ Agrees c ∧
      ∀ settings catalog u, Step.run s.tree (reportSteps settings catalog s.tree c) = (u, none) →
        u.read (d.location ++ [Layout.resultsTable]) = .ok (resultsFile catalog c).content := by
  intro d s
  have hbefore : ∀ q ∈ before, q.Fits := fun q hm => hq q (List.mem_append_left _ hm)
  have hafter : ∀ q ∈ after, q.Fits := fun q hm => hq q (List.mem_append_right _ hm)
  have hkept : Store.Kept d s.tree :=
    Custody.kept_after hafter (Custody.kept_putManifest
      (Custody.kept_after hbefore (Store.kept_of_empty ht hd hroot hempty)) manifest)
  obtain ⟨c, hc⟩ := collect_of_kept hkept
  refine ⟨c, hc, (orderly_of_kept hkept hc).agrees, fun settings catalog u hu => ?_⟩
  have hread := read_rootFiles hu (resultsFile catalog c) (by simp [rootFiles])
  have hdir : c.dir = d := (collect_inv hc).1
  rwa [resultsFile, rootFile, hdir] at hread

/-- A tree in which only an empty results directory stands. -/
def clearedTree : Tree := Tree.empty.set sampleDir.location .directory

/-- A writer that saves one record. -/
def oneSave : List Custody.Request := [.claim "w" ⟨3, 7⟩, .save "w" sampleRecord, .drop "w"]

theorem sound_clearedTree : clearedTree.Sound :=
  Tree.sound_set Tree.sound_empty (by decide) rfl fun h => by cases h

theorem find?_clearedTree {m : Location} (hm : m ≠ []) :
    clearedTree.find? (sampleDir.location ++ m) = none := by
  rw [clearedTree, Tree.find?_set_of_ne _ _ (by simpa using hm),
    Tree.find?_of_ne_nil _ (by simp [sampleDir])]
  rfl

theorem fits_oneSave : ∀ q ∈ oneSave ++ [], q.Fits := by
  simp only [oneSave, List.append_nil, List.forall_mem_cons, Custody.Request.Fits]
  exact ⟨trivial, fits_sampleRecord, trivial, by simp⟩

open Report in
theorem summary_agrees_oneSave :
    clearedTree.Sound ∧ clearedTree.Distinct ∧ (∀ q ∈ oneSave ++ [], q.Fits) ∧
      ∃ c, collect sampleDir ((⟨clearedTree, .none⟩ : Custody).after sampleDir oneSave).tree = .ok c ∧
        c.endpoints.map (·.endpoint) = [3] ∧ Agrees c := by
  have hd : clearedTree.Distinct := Tree.distinct_set Tree.distinct_empty _ _
  have hdir : ResultsDir.ofPath [] ⟨"/results"⟩ = sampleDir := by decide
  have hloc : Path.locate [] ⟨"/results"⟩ = sampleDir.location := congrArg ResultsDir.location hdir
  have hroot : clearedTree.find? (Path.locate [] ⟨"/results"⟩) = some .directory := by
    rw [hloc]
    rfl
  have hempty : ∀ m, m ≠ [] → clearedTree.find? (Path.locate [] ⟨"/results"⟩ ++ m) = none := by
    intro m hm
    rw [hloc]
    exact find?_clearedTree hm
  obtain ⟨c, hc, hagrees, -⟩ :=
    summary_agrees sound_clearedTree hd hroot hempty .none fits_oneSave none
  rw [hdir, Custody.putManifest, Custody.after, List.foldl_nil] at hc
  have hids : (collect sampleDir
      ((⟨clearedTree, .none⟩ : Custody).after sampleDir oneSave).tree).toOption.map
        (·.endpoints.map (·.endpoint)) = some [3] := by decide +kernel
  rw [hc] at hids
  exact ⟨sound_clearedTree, hd, fits_oneSave, c, hc, Option.some.inj hids, hagrees⟩

end SuiteBench
