import SuiteBench.Proofs.Store.Listing
import SuiteBench.Report.Collected

/-!
# Proofs.Report.Listed — what is listed is collected, each endpoint once

The records that are collected are those of the run directories that are listed, endpoint after
endpoint.  No record is collected twice where the listings are faithful.  Listing and collecting skip the
records that cannot be decoded, so that they fail only where a directory is missing or cannot be read.
-/

namespace SuiteBench

/-! ### Why a results tree cannot be collected -/

namespace Store

variable {d : ResultsDir} {t : Tree} {e : StoreError}

theorem numbered_error {l : Location} {stem : String} (h : numbered t l stem = .error e) :
    ∃ f, e = .file f := by
  rw [numbered] at h
  split at h
  · cases h
  · cases h
    exact ⟨_, rfl⟩
  · cases h

theorem eq_error_of_map {α β : Type} {x : Except StoreError α} {f : α → β}
    (h : x.map f = .error e) : x = .error e := by
  cases x with
  | error e' =>
    cases h
    rfl
  | ok a => cases h

theorem listRuns_error {endpoint : Nat} (h : listRuns d t endpoint = .error e) :
    ∃ f, e = .file f :=
  numbered_error (eq_error_of_map h)

theorem loadEndpoint_error {endpoint : Nat} (h : loadEndpoint d t endpoint = .error e) :
    ∃ f, e = .file f :=
  listRuns_error (eq_error_of_map h)

theorem listEndpoints_error (h : listEndpoints d t = .error e) : ∃ f, e = .file f :=
  numbered_error (eq_error_of_map h)

end Store

namespace Report

variable {d : ResultsDir} {t : Tree}

theorem endpointResults_error {m : Option Manifest} {id : Nat} {e : StoreError}
    (h : endpointResults d t m id = .error e) : ∃ f, e = .file f :=
  Store.listRuns_error (Store.eq_error_of_map h)

theorem mapM_error {α β ε : Type} {f : α → Except ε β} {e : ε} :
    ∀ {l : List α}, l.mapM f = .error e → ∃ a ∈ l, f a = .error e
  | [], h => by simp [pure, Except.pure] at h
  | a :: l, h => by
    rw [List.mapM_cons] at h
    cases ha : f a with
    | error e' =>
      rw [ha] at h
      cases h
      exact ⟨a, List.mem_cons_self, ha⟩
    | ok b =>
      rw [ha] at h
      cases hl : l.mapM f with
      | error e' =>
        simp only [hl, bind, Except.bind] at h
        cases h
        obtain ⟨x, hx, he⟩ := mapM_error hl
        exact ⟨x, List.mem_cons_of_mem _ hx, he⟩
      | ok bs =>
        simp only [hl, bind, Except.bind, pure, Except.pure] at h
        cases h

/-- The endpoints that are collected: those with a directory and those that the manifest asks for. -/
def collectedIds (d : ResultsDir) (t : Tree) (listed : List Nat) : List Nat :=
  (listed ++ ((manifest? d t).map (·.endpointIds)).getD []).foldr insertId []

theorem collect_of_listed (hd : t.isDirectory d.location = true) {listed : List Nat}
    (hl : Store.listEndpoints d t = .ok listed) : collect d t = (collectedIds d t listed).mapM
      (fun id => (endpointResults d t (manifest? d t) id).mapError ReportError.store) >>=
        fun endpoints => .ok ⟨d, manifest? d t, endpoints⟩ := by
  rw [collect, hd, hl]
  rfl

/-- What a results tree holds is collected from its own directory, unless this is missing or something
in it cannot be read. -/
theorem collect_cases (d : ResultsDir) (t : Tree) :
    (∃ c, collect d t = .ok c ∧ c.dir = d) ∨
      (∃ p, collect d t = .error (.missingResults p)) ∨
        ∃ f, collect d t = .error (.store (.file f)) := by
  by_cases hd : t.isDirectory d.location = true
  · cases hl : Store.listEndpoints d t with
    | error e =>
      obtain ⟨f, rfl⟩ := Store.listEndpoints_error hl
      refine .inr (.inr ⟨f, ?_⟩)
      rw [collect, hd, hl]
      rfl
    | ok listed =>
      have hc := collect_of_listed hd hl
      cases hm : (collectedIds d t listed).mapM
          (fun id => (endpointResults d t (manifest? d t) id).mapError ReportError.store) with
      | error e =>
        obtain ⟨id, -, hid⟩ := mapM_error hm
        cases hr : endpointResults d t (manifest? d t) id with
        | error e' =>
          obtain ⟨f, rfl⟩ := endpointResults_error hr
          rw [hr] at hid
          cases hid
          refine .inr (.inr ⟨f, ?_⟩)
          rw [hc, hm]
          rfl
        | ok r =>
          rw [hr] at hid
          cases hid
      | ok endpoints =>
        refine .inl ⟨⟨d, manifest? d t, endpoints⟩, ?_, rfl⟩
        rw [hc, hm]
        rfl
  · refine .inr (.inl ⟨d.path, ?_⟩)
    rw [collect, if_pos (by simpa using hd)]
    rfl

end Report

namespace Report

open Store

variable {d : ResultsDir} {t : Tree} {c : CollectedResults}

/-! ### Ids in ascending order -/

theorem mem_insertId {n m : Nat} {ids : List Nat} : m ∈ insertId n ids ↔ m = n ∨ m ∈ ids := by
  induction ids with
  | nil => simp [insertId]
  | cons i ids ih =>
    rw [insertId]
    split
    · simp
    · split
      · next he => simp [he]
      · rw [List.mem_cons, ih, List.mem_cons]
        exact or_left_comm

theorem pairwise_insertId (n : Nat) {ids : List Nat} (h : ids.Pairwise (· < ·)) :
    (insertId n ids).Pairwise (· < ·) := by
  induction ids with
  | nil => exact List.pairwise_singleton _ n
  | cons i ids ih =>
    obtain ⟨hi, hids⟩ := List.pairwise_cons.mp h
    rw [insertId]
    split
    · next hn =>
      refine List.pairwise_cons.mpr ⟨fun m hm => ?_, h⟩
      rcases List.mem_cons.mp hm with rfl | hm
      · exact hn
      · exact hn.trans (hi m hm)
    · next hn =>
      split
      · exact h
      · next hne =>
        refine List.pairwise_cons.mpr ⟨fun m hm => ?_, ih hids⟩
        rcases mem_insertId.mp hm with rfl | hm
        · omega
        · exact hi m hm

theorem pairwise_collectedIds (d : ResultsDir) (t : Tree) (listed : List Nat) :
    (collectedIds d t listed).Pairwise (· < ·) := by
  rw [collectedIds]
  generalize listed ++ ((manifest? d t).map (·.endpointIds)).getD [] = ids
  induction ids with
  | nil => exact List.Pairwise.nil
  | cons n ids ih => exact pairwise_insertId n ih

theorem mem_collectedIds {listed : List Nat} {id : Nat} : id ∈ collectedIds d t listed ↔
    id ∈ listed ∨ id ∈ ((manifest? d t).map (·.endpointIds)).getD [] := by
  rw [collectedIds, ← List.mem_append]
  generalize listed ++ ((manifest? d t).map (·.endpointIds)).getD [] = ids
  induction ids with
  | nil => rfl
  | cons n ids ih => rw [List.foldr_cons, mem_insertId, ih, List.mem_cons]

/-! ### Collecting -/

theorem forall₂_of_mapM {α β ε : Type} {f : α → Except ε β} :
    ∀ {l : List α} {bs : List β}, l.mapM f = .ok bs → List.Forall₂ (fun a b => f a = .ok b) l bs
  | [], bs, h => by
    cases h
    exact .nil
  | a :: l, bs, h => by
    rw [List.mapM_cons] at h
    cases ha : f a with
    | error e =>
      rw [ha] at h
      cases h
    | ok b =>
      rw [ha] at h
      cases hl : l.mapM f with
      | error e =>
        simp only [hl, bind, Except.bind] at h
        cases h
      | ok bs' =>
        simp only [hl, bind, Except.bind, pure, Except.pure] at h
        cases h
        exact .cons ha (forall₂_of_mapM hl)

theorem eq_ok_of_mapError {α ε ε' : Type} {x : Except ε α} {f : ε → ε'} {a : α}
    (h : x.mapError f = .ok a) : x = .ok a := by
  cases x with
  | error e => cases h
  | ok b =>
    cases h
    rfl

/-- The run directories that are listed for some endpoints. -/
def listedRuns (d : ResultsDir) (t : Tree) (endpoints : List Nat) : List StoredRun :=
  endpoints.flatMap fun endpoint => (listRuns d t endpoint).toOption.getD []

theorem endpointResults_eq_ok {m : Option Manifest} {id : Nat} {e : EndpointResults} :
    endpointResults d t m id = .ok e ↔ ∃ runs, listRuns d t id = .ok runs ∧
      e = ⟨id, expectedRuns m id runs, runs.filterMap (·.record),
        (runs.filter fun r => r.record.isNone).map (·.key.run)⟩ := by
  rw [endpointResults]
  cases listRuns d t id with
  | error f => simp [bind, Except.bind]
  | ok runs => simp [bind, Except.bind, pure, Except.pure, eq_comm]

/-- Results are collected from a directory alone. -/
theorem root_of_collect (hc : collect d t = .ok c) : t.find? d.location = some .directory := by
  refine Tree.isDirectory_iff.mp ?_
  by_contra hd
  rw [collect, if_pos (by simpa using hd)] at hc
  cases hc

/-- What is collected, endpoint after endpoint. -/
theorem collect_inv (h : collect d t = .ok c) : c.dir = d ∧ c.manifest = manifest? d t ∧
    ∃ listed, listEndpoints d t = .ok listed ∧
      c.endpoints.map (·.endpoint) = collectedIds d t listed ∧
      ∀ e ∈ c.endpoints, endpointResults d t (manifest? d t) e.endpoint = .ok e := by
  have hd := Tree.isDirectory_iff.mpr (root_of_collect h)
  cases hl : listEndpoints d t with
  | error e =>
    rw [collect, hd, hl] at h
    cases h
  | ok listed =>
    rw [collect_of_listed hd hl] at h
    cases hm : (collectedIds d t listed).mapM
        (fun id => (endpointResults d t (manifest? d t) id).mapError ReportError.store) with
    | error e =>
      rw [hm] at h
      cases h
    | ok endpoints =>
      rw [hm] at h
      cases h
      have hall : List.Forall₂ (fun (e : EndpointResults) id =>
          endpointResults d t (manifest? d t) e.endpoint = .ok e ∧ e.endpoint = id)
            endpoints (collectedIds d t listed) := by
        refine (forall₂_of_mapM hm).flip.imp fun e id he => ?_
        have hres := eq_ok_of_mapError he
        obtain ⟨runs, -, rfl⟩ := endpointResults_eq_ok.mp hres
        exact ⟨hres, rfl⟩
      obtain ⟨hresults, hids⟩ := (List.forall₂_and_left _ _).mp hall
      rw [← List.forall₂_map_left_iff, List.forall₂_eq_eq_eq] at hids
      exact ⟨rfl, rfl, listed, rfl, hids, hresults⟩

/-- The collected endpoints are in ascending order, each with the records that are listed for it. -/
theorem collect_eq_ok (h : collect d t = .ok c) :
    (c.endpoints.map (·.endpoint)).Pairwise (· < ·) ∧ ∀ e ∈ c.endpoints, ∃ runs,
      listRuns d t e.endpoint = .ok runs ∧ e.records = runs.filterMap (·.record) := by
  obtain ⟨-, -, listed, -, hids, hresults⟩ := collect_inv h
  refine ⟨hids ▸ pairwise_collectedIds d t listed, fun e he => ?_⟩
  obtain ⟨runs, hruns, heq⟩ := endpointResults_eq_ok.mp (hresults e he)
  exact ⟨runs, hruns, congrArg EndpointResults.records heq⟩

/-- Every endpoint that the manifest asks for is collected. -/
theorem requested_collected (h : collect d t = .ok c) {m : Manifest} (hm : manifest? d t = some m)
    {id : Nat} (hid : id ∈ m.endpointIds) : ∃ e ∈ c.endpoints, e.endpoint = id := by
  obtain ⟨-, -, listed, -, hids, -⟩ := collect_inv h
  have hmem : id ∈ collectedIds d t listed := by
    rw [mem_collectedIds, hm]
    exact .inr hid
  rw [← hids] at hmem
  exact List.mem_map.mp hmem

/-- The records that are collected are those that are listed. -/
theorem records_eq (h : collect d t = .ok c) :
    c.records = (listedRuns d t (c.endpoints.map (·.endpoint))).filterMap (·.record) := by
  rw [CollectedResults.records, listedRuns, List.flatMap_map, List.filterMap_flatMap]
  refine List.flatMap_congr fun e he => ?_
  obtain ⟨runs, hruns, hrec⟩ := (collect_eq_ok h).2 e he
  rw [hruns, hrec]
  rfl

/-- Endpoint after endpoint, faithful listings hold no run twice. -/
theorem nodup_listedRuns {cwd : Location} {endpoints : List Nat} (he : endpoints.Nodup)
    (hf : ∀ endpoint runs, listRuns d t endpoint = .ok runs → Faithful cwd t runs) :
    ((listedRuns d t endpoints).map (·.key)).Nodup := by
  have hget : ∀ {endpoint x}, x ∈ (listRuns d t endpoint).toOption.getD [] →
      ∃ runs, listRuns d t endpoint = .ok runs ∧ x ∈ runs := by
    intro endpoint x hx
    cases hr : listRuns d t endpoint with
    | error f => simp [hr, Except.toOption] at hx
    | ok runs => exact ⟨runs, rfl, by simpa [hr, Except.toOption] using hx⟩
  rw [listedRuns, List.map_flatMap, List.nodup_flatMap]
  refine ⟨fun endpoint _ => ?_, he.imp fun {a b} hne => ?_⟩
  · cases hr : listRuns d t endpoint with
    | error f => exact List.nodup_nil
    | ok runs =>
      exact List.pairwise_map.mpr ((hf endpoint runs hr).ascending.imp fun hlt hk =>
        hlt.ne (congrArg RunKey.run hk))
  · intro k ha hb
    obtain ⟨x, hx, rfl⟩ := List.mem_map.mp ha
    obtain ⟨y, hy, hyx⟩ := List.mem_map.mp hb
    obtain ⟨runs, hr, hx⟩ := hget hx
    obtain ⟨runs', hr', hy⟩ := hget hy
    rw [← endpoint_of_listRuns hr x hx, ← endpoint_of_listRuns hr' y hy, hyx] at hne
    exact hne rfl

end Report

open Store Report in
/-- An endpoint's run directories are listed, each once and in the order of the runs, unless they cannot
be read.  The listing names each run once and with the record in its own directory exactly if no run
has two directories and each holds the record that is loaded for the run.  Where the store itself
wrote the tree, whatever was saved, discarded or cut short, every listing is such a one, and no run is
collected twice. -/
theorem listRuns_faithful_iff (cwd : Location) (p : Path) :
    (∀ (t : Tree) (endpoint : Nat), t.Distinct →
      (∃ f, t.list ((ResultsDir.ofPath cwd p).endpointLocation endpoint) = .error f ∧
        f ≠ .notFound ∧ listRuns (.ofPath cwd p) t endpoint = .error (.file f)) ∨
      ∃ runs, listRuns (.ofPath cwd p) t endpoint = .ok runs ∧ Listing cwd p t endpoint runs ∧
        (Faithful cwd t runs ↔ Unambiguous (.ofPath cwd p) t endpoint)) ∧
    ∀ (t : Tree) (accesses : List Access), t.Sound → t.Distinct → WellNamed (.ofPath cwd p) t →
      let u := accesses.foldl (Access.perform (.ofPath cwd p)) t
      (∀ endpoint runs, listRuns (.ofPath cwd p) u endpoint = .ok runs → Faithful cwd u runs ∧
        loadEndpoint (.ofPath cwd p) u endpoint = .ok (runs.filterMap (·.record))) ∧
      ∀ c, collect (.ofPath cwd p) u = .ok c →
        c.records = (listedRuns (.ofPath cwd p) u (c.endpoints.map (·.endpoint))).filterMap
          (·.record) ∧
        ((listedRuns (.ofPath cwd p) u (c.endpoints.map (·.endpoint))).map (·.key)).Nodup := by
  refine ⟨fun t endpoint ht => ?_, fun t accesses ht hd hn => ?_⟩
  · rcases listRuns_cases ht cwd p endpoint with h | ⟨runs, hr, hl⟩
    · exact .inl h
    · exact .inr ⟨runs, hr, hl, hl.faithful_iff⟩
  · obtain ⟨hdu, hnu⟩ := wellNamed_history accesses ht hd hn
    have hf : ∀ endpoint runs, listRuns (.ofPath cwd p)
        (accesses.foldl (Access.perform (.ofPath cwd p)) t) endpoint = .ok runs →
          Faithful cwd (accesses.foldl (Access.perform (.ofPath cwd p)) t) runs := by
      intro endpoint runs hr
      rcases listRuns_cases hdu cwd p endpoint with ⟨f, -, -, he⟩ | ⟨runs', hr', hl⟩
      · rw [he] at hr
        cases hr
      · rw [hr'] at hr
        cases hr
        exact hl.faithful_iff.mpr (hnu.unambiguous endpoint)
    refine ⟨fun endpoint runs hr => ⟨hf endpoint runs hr, by rw [loadEndpoint, hr]; rfl⟩,
      fun c hc => ⟨records_eq hc, ?_⟩⟩
    exact nodup_listedRuns ((collect_eq_ok hc).1.imp fun h => h.ne) hf

open Store in
theorem listRuns_sampleTree : Tree.empty.Sound ∧ Tree.empty.Distinct ∧
    WellNamed (.ofPath [] ⟨"/results"⟩) .empty ∧ sampleTree.Distinct ∧
    ∃ runs, listRuns (.ofPath [] ⟨"/results"⟩) sampleTree 3 = .ok runs ∧
      runs.map (·.key) = [⟨3, 7⟩] ∧ Faithful [] sampleTree runs ∧
      Unambiguous (.ofPath [] ⟨"/results"⟩) sampleTree 3 := by
  have hdir : ResultsDir.ofPath [] ⟨"/results"⟩ = sampleDir := by decide
  have hn := wellNamed_empty (.ofPath [] ⟨"/results"⟩)
  have hd : sampleTree.Distinct := by decide
  have hu : [Access.save ⟨3, 7⟩ sampleRecord].foldl (Access.perform (.ofPath [] ⟨"/results"⟩)) .empty =
      sampleTree := by
    rw [hdir]
    rfl
  have hruns : ∃ runs, listRuns (.ofPath [] ⟨"/results"⟩) sampleTree 3 = .ok runs ∧
      runs.map (·.key) = [⟨3, 7⟩] := by
    have hns : numbered sampleTree ["results", "endpoint_03"] "run" = .ok [(7, "run_07")] :=
      toOption_eq_some_iff.mp (by decide +kernel)
    rw [hdir, listRuns_eq]
    exact ⟨_, congrArg (Except.map _) hns, rfl⟩
  obtain ⟨hlist, hstore⟩ := listRuns_faithful_iff [] ⟨"/results"⟩
  obtain ⟨runs, hr, hk⟩ := hruns
  have hf := ((hstore .empty [.save ⟨3, 7⟩ sampleRecord] Tree.sound_empty Tree.distinct_empty hn).1 3
    runs (hu ▸ hr)).1
  rw [hu] at hf
  obtain ⟨f, -, -, he⟩ | ⟨runs', hr', -, hiff⟩ := hlist sampleTree 3 hd
  · rw [he] at hr
    cases hr
  · rw [hr] at hr'
    cases hr'
    exact ⟨Tree.sound_empty, Tree.distinct_empty, hn, hd, runs, hr, hk, hf, hiff.mp hf⟩

/-- The sample tree with a second directory for its run, under a name with the number alone. -/
def doubledTree : Tree := sampleTree.set ["results", "endpoint_03", "run_7"] .directory

open Store in
theorem listRuns_doubled : doubledTree.Distinct ∧
    ∃ x y : StoredRun, listRuns sampleDir doubledTree 3 = .ok [x, y] ∧ x.key = y.key ∧
      y.dir = ⟨"/results/endpoint_03/run_7"⟩ ∧ y.record = some sampleRecord.stored ∧
      recordIn doubledTree ["results", "endpoint_03", "run_7"] = none ∧
      loadEndpoint sampleDir doubledTree 3 = .ok [sampleRecord.stored, sampleRecord.stored] := by
  have hchildren : doubledTree.list (sampleDir.endpointLocation 3) =
      .ok [("run_07", .directory), ("run_7", .directory)] := rfl
  have hns : numbered doubledTree (sampleDir.endpointLocation 3) "run" =
      .ok [(7, "run_07"), (7, "run_7")] := by
    rw [numbered, hchildren]
    exact congrArg Except.ok (List.mergeSort_of_pairwise (by decide))
  have hload : load sampleDir doubledTree ⟨3, 7⟩ = .ok (some sampleRecord.stored) :=
    load_of_documents rfl rfl fits_sampleRecord readsBack_sampleRecord
  have hrec : recordIn doubledTree (sampleDir.runLocation ⟨3, 7⟩) = some sampleRecord.stored := by
    rw [recordIn_runLocation, hload]
    rfl
  have hruns : listRuns sampleDir doubledTree 3 =
      .ok [⟨⟨3, 7⟩, ⟨"/results/endpoint_03/run_07"⟩, some sampleRecord.stored⟩,
        ⟨⟨3, 7⟩, ⟨"/results/endpoint_03/run_7"⟩, some sampleRecord.stored⟩] := by
    rw [listRuns_eq, hns, ← hrec]
    rfl
  refine ⟨by decide, _, _, hruns, rfl, rfl, rfl, rfl, ?_⟩
  rw [loadEndpoint, hruns]
  rfl

end SuiteBench
