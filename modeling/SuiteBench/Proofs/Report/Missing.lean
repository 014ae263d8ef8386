import SuiteBench.Proofs.Report.Listed
import SuiteBench.Report.Outputs

/-!
# Proofs.Report.Missing — every requested run is told of

A run that the manifest asks for has a line in the aggregate of its endpoint or is told of as missing,
and never both.  Which of the two it is depends on the records of the endpoint's run directories alone:
a directory that is not there, holds no record or holds that of another run makes the run missing.
-/

namespace SuiteBench

namespace Report

variable {rs : List RunRecord} {endpoint n : Nat}

/-! ### The lines of an aggregate -/

theorem mem_dropRepeatedRuns : n ∈ (dropRepeatedRuns rs).map (·.key.run) ↔
    n ∈ rs.map (·.key.run) := by
  induction rs with
  | nil => rfl
  | cons r rs ih =>
    rw [List.map_cons, List.mem_cons, ← ih, dropRepeatedRuns]
    cases dropRepeatedRuns rs with
    | nil => simp
    | cons s ss =>
      dsimp only
      split
      · next h => simp [h]
      · simp

/-- Of runs in order each is kept once. -/
theorem pairwise_dropRepeatedRuns (h : rs.Pairwise fun a b => a.key.run ≤ b.key.run) :
    (dropRepeatedRuns rs).Pairwise fun a b => a.key.run < b.key.run := by
  induction rs with
  | nil => exact .nil
  | cons r rs ih =>
    obtain ⟨hr, hrs⟩ := List.pairwise_cons.mp h
    have hle : ∀ x ∈ dropRepeatedRuns rs, r.key.run ≤ x.key.run := fun x hx => by
      obtain ⟨y, hy, hyx⟩ :=
        List.mem_map.mp (mem_dropRepeatedRuns.mp (List.mem_map_of_mem (f := (·.key.run)) hx))
      exact hyx ▸ hr y hy
    have hasc := ih hrs
    rw [dropRepeatedRuns]
    cases hd : dropRepeatedRuns rs with
    | nil => exact List.pairwise_singleton _ r
    | cons s ss =>
      rw [hd] at hasc hle
      obtain ⟨hs, hss⟩ := List.pairwise_cons.mp hasc
      dsimp only
      split
      · next heq => exact List.pairwise_cons.mpr ⟨fun x hx => heq ▸ hs x hx, hss⟩
      · next hne =>
        have hlt : r.key.run < s.key.run := lt_of_le_of_ne (hle s List.mem_cons_self) hne
        refine List.pairwise_cons.mpr ⟨fun x hx => ?_, hasc⟩
        rcases List.mem_cons.mp hx with rfl | hx
        · exact hlt
        · exact hlt.trans (hs x hx)

/-- The runs of an endpoint are in ascending order, each once. -/
theorem pairwise_runsOf (endpoint : Nat) (rs : List RunRecord) :
    (runsOf endpoint rs).Pairwise fun a b => a.key.run < b.key.run := by
  have hsorted : ((rs.filter fun r => r.key.endpoint = endpoint).mergeSort
      fun a b => a.key.run ≤ b.key.run).Pairwise fun a b => a.key.run ≤ b.key.run := by
    refine (List.pairwise_mergeSort (fun a b c hab hbc => ?_) (fun a b => ?_) _).imp fun h => ?_
    · simp only [decide_eq_true_eq] at hab hbc ⊢
      exact hab.trans hbc
    · simpa using Nat.le_total a.key.run b.key.run
    · simpa using h
  exact pairwise_dropRepeatedRuns hsorted

theorem nodup_runsOf (endpoint : Nat) (rs : List RunRecord) :
    ((runsOf endpoint rs).map (·.key.run)).Nodup :=
  List.pairwise_map.mpr ((pairwise_runsOf endpoint rs).imp fun h => h.ne)

/-- An aggregate has a line for each run of its endpoint. -/
theorem mem_runsOf : n ∈ (runsOf endpoint rs).map (·.key.run) ↔ ∃ r ∈ rs, r.key = ⟨endpoint, n⟩ := by
  have hkey : ∀ r : RunRecord,
      (r.key.endpoint = endpoint ∧ r.key.run = n) ↔ r.key = ⟨endpoint, n⟩ := fun r => by
    rw [RunKey.ext_iff]
  rw [runsOf, mem_dropRepeatedRuns, ((List.mergeSort_perm _ _).map _).mem_iff]
  simp only [List.mem_map, List.mem_filter, decide_eq_true_eq, and_assoc, hkey]

/-- A run that is expected is missing once, unless it is there. -/
theorem count_missingRuns {expected : Nat} (h1 : 1 ≤ n) (hn : n ≤ expected) :
    (missingRuns (some expected) rs).count n = if n ∈ rs.map (·.key.run) then 0 else 1 := by
  have hnodup : (missingRuns (some expected) rs).Nodup :=
    List.filter_sublist.nodup (List.nodup_range.map fun a b hab => Nat.succ.inj hab)
  have hmem : n ∈ missingRuns (some expected) rs ↔ n ∉ rs.map (·.key.run) := by
    simp only [missingRuns, Option.getD_some, List.mem_filter, List.mem_map, List.mem_range,
      List.contains_iff_mem, Bool.not_eq_true', Bool.eq_false_iff, ne_eq]
    refine and_iff_right ⟨n - 1, ?_, ?_⟩
    · omega
    · omega
  split
  · next hin => exact List.count_eq_zero_of_not_mem fun hm => hmem.mp hm hin
  · next hout => exact List.count_eq_one_of_mem hnodup (hmem.mpr hout)

end Report

/-! ### The missing runs of a summary -/

namespace BenchmarkSummary

/-- Missing runs of an endpoint behind all the others go to the end. -/
theorem putMissing_of_lt {id : Nat} {runs : List Nat} {l : List (Nat × List Nat)}
    (h : ∀ x ∈ l, x.1 < id) : putMissing id runs l = l ++ [(id, runs)] := by
  induction l with
  | nil => rfl
  | cons x l ih =>
    have hx : x.1 < id := h x List.mem_cons_self
    rw [putMissing, if_neg (by omega), if_neg (by omega),
      ih fun y hy => h y (List.mem_cons_of_mem _ hy)]
    rfl

theorem foldl_putMissing {l : List EndpointAggregate} {acc : List (Nat × List Nat)}
    (hl : l.Pairwise fun a b => a.endpoint < b.endpoint)
    (hacc : ∀ x ∈ acc, ∀ a ∈ l, x.1 < a.endpoint) :
    l.foldl (fun acc a => putMissing a.endpoint a.missingRuns acc) acc =
      acc ++ l.map fun a => (a.endpoint, a.missingRuns) := by
  induction l generalizing acc with
  | nil => simp
  | cons a l ih =>
    obtain ⟨ha, hl⟩ := List.pairwise_cons.mp hl
    rw [List.foldl_cons, putMissing_of_lt fun x hx => hacc x hx a List.mem_cons_self,
      ih hl fun x hx b hb => ?_, List.append_assoc]
    · rfl
    · rcases List.mem_append.mp hx with hx | hx
      · exact hacc x hx b (List.mem_cons_of_mem _ hb)
      · obtain rfl := List.mem_singleton.mp hx
        exact ha b hb

/-- Of endpoints in ascending order a summary tells the missing runs of each that has any. -/
theorem missingRuns_of {l : List EndpointAggregate} (rs : List RunRecord)
    (hl : l.Pairwise fun a b => a.endpoint < b.endpoint) : (BenchmarkSummary.of l rs).missingRuns =
      (l.filter fun a => !a.missingRuns.isEmpty).map fun a => (a.endpoint, a.missingRuns) :=
  foldl_putMissing (hl.sublist List.filter_sublist) (by simp)

theorem lookup_missingRuns {l : List EndpointAggregate} (rs : List RunRecord)
    (hl : l.Pairwise fun a b => a.endpoint < b.endpoint) {a : EndpointAggregate} (ha : a ∈ l) :
    ((BenchmarkSummary.of l rs).missingRuns.lookup a.endpoint).getD [] = a.missingRuns := by
  have hkeys : ((BenchmarkSummary.of l rs).missingRuns.map Prod.fst).Nodup := by
    rw [missingRuns_of rs hl, List.map_map]
    exact List.pairwise_map.mpr ((hl.sublist List.filter_sublist).imp fun h => h.ne)
  by_cases hempty : a.missingRuns = []
  · have hnone : (BenchmarkSummary.of l rs).missingRuns.lookup a.endpoint = none := by
      rw [List.lookup_eq_none_iff, missingRuns_of rs hl]
      rintro x hx
      obtain ⟨b, hb, rfl⟩ := List.mem_map.mp hx
      obtain ⟨hb, hsome⟩ := List.mem_filter.mp hb
      rw [bne_iff_ne]
      intro heq
      obtain rfl : a = b := by
        have hids : (l.map (·.endpoint)).Nodup := List.pairwise_map.mpr (hl.imp fun h => h.ne)
        exact List.inj_on_of_nodup_map hids ha hb heq
      simp [hempty] at hsome
    rw [hnone, hempty]
    rfl
  · have hsome : (BenchmarkSummary.of l rs).missingRuns.lookup a.endpoint =
        some a.missingRuns := by
      rw [Tree.lookup_eq_some_iff_mem hkeys, missingRuns_of rs hl]
      exact List.mem_map.mpr ⟨a, List.mem_filter.mpr ⟨ha, by simpa using hempty⟩, rfl⟩
    rw [hsome]
    rfl

end BenchmarkSummary

namespace Report

theorem endpoint_aggregates (c : CollectedResults) :
    (aggregates c).map (·.endpoint) = c.endpoints.map (·.endpoint) := by
  rw [aggregates, List.map_map]
  rfl

/-- A run that is expected has a line or is missing. -/
theorem count_aggregate {expected n : Nat} (h1 : 1 ≤ n) (hn : n ≤ expected) (id : Nat)
    (rs : List RunRecord) :
    ((aggregate id (some expected) rs).runs.map (·.run)).count n +
      (aggregate id (some expected) rs).missingRuns.count n = 1 := by
  have hruns : (aggregate id (some expected) rs).runs.map (·.run) =
      (runsOf id rs).map (·.key.run) := by
    rw [aggregate, ofRuns, List.map_map]
    rfl
  have hmissing : (aggregate id (some expected) rs).missingRuns =
      missingRuns (some expected) (runsOf id rs) := rfl
  rw [hruns, hmissing, count_missingRuns h1 hn]
  split
  · next hin => rw [List.count_eq_one_of_mem (nodup_runsOf id rs) hin]
  · next hout => rw [List.count_eq_zero_of_not_mem hout]

theorem expectedRuns_of_requested {m : Manifest} {id : Nat} (hid : id ∈ m.endpointIds)
    (runs : List Store.StoredRun) : expectedRuns (some m) id runs = some m.runsPerEndpoint := by
  simp [expectedRuns, hid]

end Report

open Report in
/-- No endpoint is collected twice.  A run that a readable manifest asks for has one line in the
aggregate of its endpoint or is told of once in the summary as missing, and not both; it has a line
exactly if one of the endpoint's run directories is listed with a record of this run. -/
theorem requested_accounted {d : ResultsDir} {t : Tree} {c : CollectedResults}
    (hc : collect d t = .ok c) :
    (c.endpoints.map (·.endpoint)).Nodup ∧
      (aggregates c).map (·.endpoint) = c.endpoints.map (·.endpoint) ∧
      ∀ m, manifest? d t = some m → ∀ id ∈ m.endpointIds, ∀ n, 1 ≤ n → n ≤ m.runsPerEndpoint →
        ∃ a ∈ aggregates c, a.endpoint = id ∧
          (a.runs.map (·.run)).count n +
            (((summary c).missingRuns.lookup id).getD []).count n = 1 ∧
          ∃ runs, Store.listRuns d t id = .ok runs ∧
            (n ∈ a.runs.map (·.run) ↔ ∃ s ∈ runs, ∃ r, s.record = some r ∧ r.key = ⟨id, n⟩) := by
  have hascending := (collect_eq_ok hc).1
  refine ⟨hascending.imp fun h => h.ne, endpoint_aggregates c, fun m hm id hid n h1 hn => ?_⟩
  obtain ⟨e, he, rfl⟩ := requested_collected hc hm hid
  obtain ⟨-, -, listed, -, -, hresults⟩ := collect_inv hc
  obtain ⟨runs, hruns, heq⟩ := endpointResults_eq_ok.mp (hresults e he)
  have hexpected : e.expectedRuns = some m.runsPerEndpoint := by
    rw [heq, hm]
    exact expectedRuns_of_requested hid runs
  have hrecords : e.records = runs.filterMap (·.record) := congrArg EndpointResults.records heq
  have hagg : aggregateOf e ∈ aggregates c := List.mem_map_of_mem he
  have hcount := count_aggregate h1 hn e.endpoint e.records
  rw [← hexpected] at hcount
  have hlookup : ((summary c).missingRuns.lookup e.endpoint).getD [] =
      (aggregateOf e).missingRuns := by
    refine BenchmarkSummary.lookup_missingRuns c.records ?_ hagg
    rw [← endpoint_aggregates] at hascending
    exact List.pairwise_map.mp hascending
  refine ⟨aggregateOf e, hagg, rfl, by rw [hlookup]; exact hcount, runs, hruns, ?_⟩
  have hlines : (aggregateOf e).runs.map (·.run) = (runsOf e.endpoint e.records).map (·.key.run) := by
    rw [aggregateOf, aggregate, ofRuns, List.map_map]
    rfl
  rw [hlines, mem_runsOf, hrecords]
  simp only [List.mem_filterMap]
  constructor
  · rintro ⟨r, ⟨s, hs, hr⟩, hk⟩
    exact ⟨s, hs, r, hr, hk⟩
  · rintro ⟨s, hs, r, hr, hk⟩
    exact ⟨r, ⟨s, hs, hr⟩, hk⟩

/-- A manifest that asks for an endpoint with a record and for one without a directory. -/
def requestedManifest : Manifest :=
  (BenchmarkRun.new [3, 9] 7 60 ⟨1772359200, 0⟩).manifest

/-- The sample tree with this manifest. -/
def requestedTree : Tree :=
  sampleTree.set (sampleDir.location ++ [Layout.manifest])
    (.file requestedManifest.toJson.fileText false)

theorem manifest_requestedTree : Report.manifest? sampleDir requestedTree = some requestedManifest := by
  decide +kernel

open Report in
theorem requested_accounted_sample :
    ∃ c, collect sampleDir requestedTree = .ok c ∧
      manifest? sampleDir requestedTree = some requestedManifest ∧
      (c.endpoints.map (·.endpoint)).Nodup ∧
      ∀ id ∈ [3, 9], ∀ n, 1 ≤ n → n ≤ 7 → ∃ a ∈ aggregates c, a.endpoint = id ∧
        (a.runs.map (·.run)).count n +
          (((summary c).missingRuns.lookup id).getD []).count n = 1 := by
  have hc : (collect sampleDir requestedTree).toOption.isSome = true := by decide +kernel
  cases h : collect sampleDir requestedTree with
  | error e =>
    rw [h] at hc
    cases hc
  | ok c =>
    obtain ⟨hnodup, -, hall⟩ := requested_accounted h
    refine ⟨c, rfl, manifest_requestedTree, hnodup, fun id hid n h1 hn => ?_⟩
    obtain ⟨a, ha, hid, hcount, -⟩ := hall _ manifest_requestedTree id hid n h1 hn
    exact ⟨a, ha, hid, hcount⟩

end SuiteBench
