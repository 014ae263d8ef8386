import Mathlib.Data.List.Forall2
import Mathlib.Data.List.Nodup
import Mathlib.Data.List.Perm.Basic
import Mathlib.Data.List.Range
import SuiteBench.Endpoint.Catalog

/-!
# Proofs.Endpoint.Rows — the rows that make a catalog

A catalog that was loaded holds the endpoints 1, 2, 3 and so on in this order, and an id that it has
selects the endpoint with that id.  A table makes a catalog just where each of its rows describes an
endpoint and the ids are 1, 2, 3 and so on in some order.  Nothing else of the rows matters, so their
order does not.
-/

namespace SuiteBench

namespace Catalog

/-! ### The ids of a loaded catalog -/

theorem ids_of_firstGap? : ∀ {n : Nat} {es : List Endpoint}, firstGap? n es = none →
    es.map (·.id) = List.range' n es.length
  | _, [], _ => rfl
  | n, e :: es, h => by
    rw [firstGap?] at h
    split at h
    · next he => rw [List.map_cons, ids_of_firstGap? h, he, List.length_cons, List.range'_succ]
    · cases h

/-- The endpoints of a loaded catalog are numbered from 1 without a gap. -/
theorem ids_ofBytes {bytes : ByteArray} {c : Catalog} (h : ofBytes bytes = .ok c) :
    c.endpoints.map (·.id) = List.range' 1 c.size := by
  rw [ofBytes, ofTable] at h
  simp only [bind, Except.bind] at h
  split at h
  · cases h
  · split at h
    · cases h
    · split at h
      · cases h
      · split at h
        · cases h
        · next hg =>
          cases h
          exact ids_of_firstGap? hg

variable {c : Catalog}

/-- An id of the catalog selects the endpoint with that id. -/
theorem lookup_of_ids (hc : c.endpoints.map (·.id) = List.range' 1 c.size) {id : Nat}
    (h : 1 ≤ id ∧ id ≤ c.size) : ∃ e, c.lookup id = .ok e ∧ e.id = id := by
  have hlt : id - 1 < c.endpoints.length := by
    have := h.2
    rw [size] at this
    omega
  have hid : (c.endpoints.map (·.id))[id - 1]? = some id := by
    rw [hc, List.getElem?_range' (by rw [size]; exact hlt)]
    congr 1
    omega
  rw [List.getElem?_map, List.getElem?_eq_getElem hlt, Option.map_some, Option.some.injEq] at hid
  refine ⟨c.endpoints[id - 1], ?_, hid⟩
  rw [lookup, if_neg (by omega), List.getElem?_eq_getElem hlt]

/-- An id that selects something is one of the catalog. -/
theorem bounds_of_lookup {id : Nat} {e : Endpoint} (h : c.lookup id = .ok e) :
    1 ≤ id ∧ id ≤ c.size := by
  rw [lookup] at h
  split at h
  · next hsome =>
    split at hsome
    · cases hsome
    · obtain ⟨hlt, -⟩ := List.getElem?_eq_some_iff.mp hsome
      rw [size]
      omega
  · cases h

end Catalog

/-- The cells of the rows of a table, wherever these stand. -/
def Csv.Table.contents (t : Csv.Table) : List (Except Csv.ReadError (List String)) :=
  t.rows.map fun r => r.map Csv.Row.cells

namespace Catalog

variable {header : List String} {row : Csv.Row} {rows : List Csv.Row} {e : Endpoint}
  {es seen : List Endpoint} {t : Csv.Table} {c : Catalog}

/-! ### One row -/

/-- Where a row stands matters only for the error that it may give. -/
theorem endpointOfRow_eq_ok_iff : endpointOfRow header row = .ok e ↔
    duplicateColumn? header = none ∧ (requiredColumns.find? fun c => !header.contains c) = none ∧
      endpointOf (fun c => (Csv.lookup header row.cells c).getD "") = .ok e := by
  rw [endpointOfRow]
  cases hdouble : duplicateColumn? header with
  | some name => simp [throw, throwThe, MonadExceptOf.throw, bind, Except.bind]
  | none =>
    cases hmissing : requiredColumns.find? fun c => !header.contains c with
    | some name => simp [throw, throwThe, MonadExceptOf.throw, bind, Except.bind]
    | none =>
      cases endpointOf fun c => (Csv.lookup header row.cells c).getD "" with
      | error what => simp [Except.mapError]
      | ok e' => simp [Except.mapError]

/-- Whether cells describe an endpoint, wherever they stand. -/
def Describe (header cells : List String) (e : Endpoint) : Prop :=
  ∀ p, endpointOfRow header ⟨p, cells⟩ = .ok e

theorem describe_cells_iff : Describe header row.cells e ↔ endpointOfRow header row = .ok e := by
  refine ⟨fun h => h row.position, fun h p => ?_⟩
  have hrow := endpointOfRow_eq_ok_iff.mp h
  exact endpointOfRow_eq_ok_iff.mpr hrow

/-! ### All rows -/

/-- The rows of a table are collected if each of them describes an endpoint and no id comes twice. -/
theorem collect_eq_ok_iff {entries : List (Except Csv.ReadError Csv.Row)} :
    collect header seen entries = .ok es ↔ ∃ rows new, entries = rows.map .ok ∧
      List.Forall₂ (fun r e => endpointOfRow header r = .ok e) rows new ∧
        es = seen.reverse ++ new ∧ (∀ e ∈ new, ∀ s ∈ seen, s.id ≠ e.id) ∧
          (new.map (·.id)).Nodup := by
  induction entries generalizing seen with
  | nil =>
    rw [collect, Except.ok.injEq]
    constructor
    · rintro rfl
      exact ⟨[], [], rfl, .nil, (List.append_nil _).symm, nofun, .nil⟩
    · rintro ⟨rows, new, hrows, hall, rfl, -⟩
      obtain rfl : rows = [] := List.map_eq_nil_iff.mp hrows.symm
      cases hall
      exact (List.append_nil _).symm
  | cons entry entries ih =>
    cases entry with
    | error e =>
      refine iff_of_false (by simp [collect]) ?_
      rintro ⟨rows, new, hrows, -⟩
      cases rows <;> cases hrows
    | ok row =>
      rw [collect]
      constructor
      · intro h
        split at h
        · cases h
        · next e he =>
          split at h
          · cases h
          · next hnew =>
            obtain ⟨rows, new, rfl, hrows, rfl, hfresh, hnodup⟩ := ih.mp h
            have hfirst : ∀ s ∈ seen, s.id ≠ e.id := by simpa using hnew
            have hrest : ∀ d ∈ new, e.id ≠ d.id := fun d hd => hfresh d hd e List.mem_cons_self
            refine ⟨row :: rows, e :: new, rfl, .cons he hrows, by simp, ?_, ?_⟩
            · refine List.forall_mem_cons.mpr ⟨hfirst, fun d hd s hs => ?_⟩
              exact hfresh d hd s (List.mem_cons_of_mem _ hs)
            · rw [List.map_cons, List.nodup_cons]
              exact ⟨by simpa [eq_comm] using hrest, hnodup⟩
      · rintro ⟨rows, new, hrows, hall, rfl, hfresh, hnodup⟩
        cases hall with
        | nil => cases hrows
        | @cons r e rows new he hrest =>
          obtain ⟨hr, rfl⟩ := List.cons_eq_cons.mp hrows
          cases hr
          obtain ⟨hfirst, hfresh⟩ := List.forall_mem_cons.mp hfresh
          rw [List.map_cons, List.nodup_cons] at hnodup
          have hnew : ¬ (seen.any fun s => s.id == e.id) = true := by simpa using hfirst
          simp only [he]
          rw [if_neg hnew]
          refine ih.mpr ⟨rows, new, rfl, hrest, by simp, fun d hd => ?_, hnodup.2⟩
          refine List.forall_mem_cons.mpr ⟨fun heq => hnodup.1 ?_, hfresh d hd⟩
          exact List.mem_map.mpr ⟨d, hd, heq.symm⟩

/-- The ids of endpoints that are numbered without a gap. -/
theorem firstGap?_of_ids : ∀ {n : Nat} {es : List Endpoint},
    es.map (·.id) = List.range' n es.length → firstGap? n es = none
  | _, [], _ => rfl
  | n, e :: es, h => by
    rw [List.map_cons, List.length_cons, List.range'_succ] at h
    obtain ⟨hid, hrest⟩ := List.cons_eq_cons.mp h
    rw [firstGap?, if_pos hid, firstGap?_of_ids hrest]

theorem pairwise_mergeSort (es : List Endpoint) :
    (es.mergeSort fun a b => a.id ≤ b.id).Pairwise fun a b => a.id ≤ b.id := by
  have htrans (a b c : Endpoint) (hab : decide (a.id ≤ b.id) = true)
      (hbc : decide (b.id ≤ c.id) = true) : decide (a.id ≤ c.id) = true := by
    simp only [decide_eq_true_eq] at *
    omega
  have htotal (a b : Endpoint) : (decide (a.id ≤ b.id) || decide (b.id ≤ a.id)) = true := by
    simp only [Bool.or_eq_true, decide_eq_true_eq]
    omega
  simpa only [decide_eq_true_eq] using List.pairwise_mergeSort htrans htotal es

/-- Endpoints with ids in ascending order are what sorting any order of them gives. -/
theorem eq_mergeSort_of_perm (hids : (es.map (·.id)).Pairwise (· < ·)) (hperm : es.Perm seen) :
    seen.mergeSort (fun a b => a.id ≤ b.id) = es := by
  have hlt : es.Pairwise fun a b => a.id < b.id := List.pairwise_map.mp hids
  refine List.Perm.eq_of_pairwise (fun a b ha hb hab hba => ?_) (pairwise_mergeSort seen)
    (hlt.imp Nat.le_of_lt) ((List.mergeSort_perm _ _).trans hperm.symm)
  -- endpoints of one id are one endpoint
  have hnodup : (es.map (·.id)).Nodup := hids.imp Nat.ne_of_lt
  have ha : a ∈ es := hperm.mem_iff.mpr ((List.mergeSort_perm _ _).mem_iff.mp ha)
  exact List.inj_on_of_nodup_map hnodup ha hb (Nat.le_antisymm hab hba)

/-- A table makes a catalog in steps: its rows are collected, sorted and looked through for gaps. -/
theorem ofTable_eq_ok : ofTable t = .ok c ↔ ∃ header es, t.header = .ok header ∧
    collect header [] t.rows = .ok es ∧ es ≠ [] ∧
      firstGap? 1 (es.mergeSort fun a b => a.id ≤ b.id) = none ∧
        c = ⟨es.mergeSort fun a b => a.id ≤ b.id⟩ := by
  rw [ofTable]
  cases t.header with
  | error e => simp [Except.mapError, bind, Except.bind]
  | ok header =>
    cases hcollect : collect header [] t.rows with
    | error e => simp [Except.mapError, bind, Except.bind, hcollect]
    | ok es =>
      simp only [Except.mapError, bind, Except.bind, hcollect, Except.ok.injEq, exists_and_left,
        exists_eq_left']
      by_cases hes : es = []
      · simp [hes, throw, throwThe, MonadExceptOf.throw]
      · rw [if_neg (by simpa using hes)]
        cases firstGap? 1 (es.mergeSort fun a b => a.id ≤ b.id) with
        | some gap => simp [throw, throwThe, MonadExceptOf.throw]
        | none => simp [hes, pure, Except.pure, eq_comm]

/-- Collected endpoints make the catalog that holds them in the order 1, 2, 3 and so on. -/
theorem ofTable_of_collect (hheader : t.header = .ok header)
    (hcollect : collect header [] t.rows = .ok es) (hperm : c.endpoints.Perm es)
    (hids : c.endpoints.map (·.id) = List.range' 1 es.length) (hne : es ≠ []) :
    ofTable t = .ok c := by
  have hasc : (c.endpoints.map (·.id)).Pairwise (· < ·) := by
    rw [hids]
    exact List.pairwise_lt_range'
  have hsorted := eq_mergeSort_of_perm hasc hperm
  refine ofTable_eq_ok.mpr ⟨header, es, hheader, hcollect, hne, ?_, by rw [hsorted]⟩
  rw [hsorted]
  exact firstGap?_of_ids (by rw [hids, hperm.length_eq])

/-- A table makes a catalog just where its rows describe endpoints with the ids 1, 2, 3 and so on, of
which there is at least one; the catalog holds these endpoints in the order of their ids. -/
theorem ofTable_eq_ok_iff : ofTable t = .ok c ↔ ∃ header rows es, t.header = .ok header ∧
    t.rows = rows.map .ok ∧ List.Forall₂ (fun r e => endpointOfRow header r = .ok e) rows es ∧
      c.endpoints.Perm es ∧ c.endpoints.map (·.id) = List.range' 1 rows.length ∧
        rows ≠ [] := by
  constructor
  · intro h
    obtain ⟨header, es, hheader, hcollect, hne, hgap, rfl⟩ := ofTable_eq_ok.mp h
    obtain ⟨rows, es', hrows, hall, heq, -, -⟩ := collect_eq_ok_iff.mp hcollect
    obtain rfl : es = es' := heq
    have hids := ids_of_firstGap? hgap
    rw [List.length_mergeSort, ← hall.length_eq] at hids
    refine ⟨header, rows, es, hheader, hrows, hall, List.mergeSort_perm _ _, hids, ?_⟩
    rintro rfl
    cases hall
    exact hne rfl
  · rintro ⟨header, rows, es, hheader, hrows, hall, hperm, hids, hne⟩
    have hnodup : (c.endpoints.map (·.id)).Nodup := hids ▸ List.nodup_range'
    have hfresh : ∀ e ∈ es, ∀ s ∈ ([] : List Endpoint), s.id ≠ e.id := by simp
    have hcollect : collect header [] t.rows = .ok es := collect_eq_ok_iff.mpr
      ⟨rows, es, hrows, hall, rfl, hfresh, (hperm.map _).nodup_iff.mp hnodup⟩
    have hlen : c.endpoints.map (·.id) = List.range' 1 es.length := by rw [hids, hall.length_eq]
    refine ofTable_of_collect hheader hcollect hperm hlen ?_
    rintro rfl
    cases hall
    exact hne rfl

/-! ### Rows in another order -/

/-- Whether an entry of a table has cells that describe an endpoint. -/
def EntryDescribes (header : List String) (entry : Except Csv.ReadError (List String))
    (e : Endpoint) : Prop :=
  ∃ cells, entry = .ok cells ∧ Describe header cells e

theorem forall₂_entryDescribes_iff {entries : List (Except Csv.ReadError Csv.Row)} :
    List.Forall₂ (EntryDescribes header) (entries.map fun r => r.map Csv.Row.cells) es ↔
      ∃ rows, entries = rows.map .ok ∧
        List.Forall₂ (fun r e => endpointOfRow header r = .ok e) rows es := by
  induction entries generalizing es with
  | nil =>
    constructor
    · intro h
      exact ⟨[], rfl, by simpa using h⟩
    · rintro ⟨rows, hrows, hall⟩
      obtain rfl : rows = [] := List.map_eq_nil_iff.mp hrows.symm
      simpa using hall
  | cons entry entries ih =>
    rw [List.map_cons]
    constructor
    · intro h
      cases h with
      | cons hfirst hrest =>
        obtain ⟨rows, rfl, hall⟩ := ih.mp hrest
        obtain ⟨cells, hcells, hdescribe⟩ := hfirst
        cases entry with
        | error e => cases hcells
        | ok row =>
          cases hcells
          exact ⟨row :: rows, rfl, .cons (describe_cells_iff.mp hdescribe) hall⟩
    · rintro ⟨rows, hrows, hall⟩
      cases hall with
      | nil => cases hrows
      | cons hfirst hrest =>
        obtain ⟨rfl, rfl⟩ := List.cons_eq_cons.mp hrows
        exact .cons ⟨_, rfl, describe_cells_iff.mpr hfirst⟩ (ih.mpr ⟨_, rfl, hrest⟩)

/-- A table with the same rows in another order makes the same catalog. -/
theorem ofTable_of_perm {t' : Csv.Table} (h : ofTable t = .ok c) (hheader : t'.header = t.header)
    (hperm : t'.contents.Perm t.contents) : ofTable t' = .ok c := by
  obtain ⟨header, rows, es, hh, hrows, hall, hc, hids, hne⟩ := ofTable_eq_ok_iff.mp h
  have hentries := forall₂_entryDescribes_iff.mpr ⟨rows, hrows, hall⟩
  obtain ⟨es', hentries', hes⟩ := List.perm_comp_forall₂ hperm hentries
  obtain ⟨rows', hrows', hall'⟩ := forall₂_entryDescribes_iff.mp hentries'
  have hlen : rows'.length = rows.length := by rw [hall'.length_eq, hes.length_eq, hall.length_eq]
  refine ofTable_eq_ok_iff.mpr ⟨header, rows', es', hheader.trans hh, hrows', hall',
    hc.trans hes.symm, by rw [hlen, hids], ?_⟩
  rintro rfl
  exact hne (List.length_eq_zero_iff.mp hlen.symm)

/-! ### What a catalog holds -/

theorem lookup_eq_ok_iff (hc : c.endpoints.map (·.id) = List.range' 1 c.size) {id : Nat} :
    c.lookup id = .ok e ↔ e ∈ c.endpoints ∧ e.id = id := by
  have hmem {id : Nat} {e : Endpoint} (h : c.lookup id = .ok e) : e ∈ c.endpoints := by
    rw [lookup] at h
    split at h
    · next hsome =>
      cases h
      split at hsome
      · cases hsome
      · exact List.mem_of_getElem? hsome
    · cases h
  constructor
  · intro h
    obtain ⟨e', he', hid⟩ := lookup_of_ids hc (bounds_of_lookup h)
    rw [h] at he'
    cases he'
    exact ⟨hmem h, hid⟩
  · rintro ⟨he, rfl⟩
    have hid : e.id ∈ List.range' 1 c.size := hc ▸ List.mem_map_of_mem he
    have hbounds : 1 ≤ e.id ∧ e.id ≤ c.size := by
      rw [List.mem_range'_1] at hid
      omega
    obtain ⟨e', he', hid'⟩ := lookup_of_ids hc hbounds
    -- ids are not doubled, so what is found is this endpoint
    have hnodup : (c.endpoints.map (·.id)).Nodup := hc ▸ List.nodup_range'
    rw [List.inj_on_of_nodup_map hnodup (hmem he') he hid'] at he'
    exact he'

/-- Whether a catalog is well formed and holds just what some rows describe. -/
structure Holds (c : Catalog) (header : List String) (rows : List Csv.Row) : Prop where
  /-- Each row describes one endpoint, and these are the endpoints, once each. -/
  described : ∃ es, List.Forall₂ (fun r e => endpointOfRow header r = .ok e) rows es ∧
    c.endpoints.Perm es
  ids : c.endpoints.map (·.id) = List.range' 1 rows.length
  nonempty : 1 ≤ rows.length
  found : ∀ id, (∃ e, c.lookup id = .ok e) ↔ 1 ≤ id ∧ id ≤ rows.length
  lookup : ∀ id e, c.lookup id = .ok e ↔ e ∈ c.endpoints ∧ e.id = id
  selectAll : c.select none = .ok c.endpoints
  selectOne : ∀ id, c.select (some id) = (c.lookup id).map fun e => [e]

/-- A source that is accepted makes a well-formed catalog of just its rows, and so does every source
with the same header and the same rows in another order, with the same catalog. -/
theorem ofBytes_holds {bytes : ByteArray} (h : ofBytes bytes = .ok c) :
    ∃ header rows, (format.read bytes).header = .ok header ∧
      (format.read bytes).rows = rows.map .ok ∧ c.Holds header rows ∧
      ∀ bytes', (format.read bytes').header = (format.read bytes).header →
        (format.read bytes').contents.Perm (format.read bytes).contents → ofBytes bytes' = .ok c := by
  obtain ⟨header, rows, es, hheader, hrows, hall, hperm, hids, hne⟩ := ofTable_eq_ok_iff.mp h
  have hsame (bytes' : ByteArray)
      (hheader' : (format.read bytes').header = (format.read bytes).header)
      (hrows' : (format.read bytes').contents.Perm (format.read bytes).contents) :
      ofTable (format.read bytes') = .ok c :=
    ofTable_of_perm (t := format.read bytes) h hheader' hrows'
  have hsize : c.size = rows.length := by rw [size, hperm.length_eq, hall.length_eq]
  have hc : c.endpoints.map (·.id) = List.range' 1 c.size := by rw [hsize, hids]
  refine ⟨header, rows, hheader, hrows, ?_, hsame⟩
  exact {
    described := ⟨es, hall, hperm⟩
    ids := hids
    nonempty := List.length_pos_iff.mpr hne
    found := fun id => by
      rw [← hsize]
      constructor
      · rintro ⟨e, he⟩
        exact bounds_of_lookup he
      · intro hid
        obtain ⟨e, he, -⟩ := lookup_of_ids hc hid
        exact ⟨e, he⟩
    lookup := fun id e => lookup_eq_ok_iff hc
    selectAll := rfl
    selectOne := fun id => rfl }

/-- Two endpoints, the second before the first. -/
def secondFirst : ByteArray :=
  ("id,service,path,http_method,controller_class,method_name\n" ++
    "2,b,/b,PUT,B,b\n1,a,/a,GET,A,a\n").toUTF8

/-- The same endpoints in the other order, with a comment between them and blanks around a cell. -/
def firstFirst : ByteArray :=
  ("id,service,path,http_method,controller_class,method_name\n" ++
    "1,a,/a,GET,A,a\n# more\n2, b ,/b,PUT,B,b\n").toUTF8

/-- Their catalog. -/
def twoEndpoints : Catalog :=
  ⟨[⟨1, "a", "/a", .get, "A", "a", [], false, [], .none⟩,
    ⟨2, "b", "/b", .put, "B", "b", [], false, [], .none⟩]⟩

theorem ofBytes_secondFirst : ofBytes secondFirst = .ok twoEndpoints := by
  have hheader : (format.read secondFirst).header = .ok requiredColumns := by decide +kernel
  have hcollect : collect requiredColumns [] (format.read secondFirst).rows =
      .ok twoEndpoints.endpoints.reverse := by decide +kernel
  exact ofTable_of_collect hheader hcollect (List.reverse_perm _).symm rfl (by decide)

theorem ofBytes_holds_secondFirst : ∃ header rows, ofBytes secondFirst = .ok twoEndpoints ∧
    twoEndpoints.Holds header rows ∧ ofBytes firstFirst = .ok twoEndpoints := by
  obtain ⟨header, rows, -, -, hholds, hsame⟩ := ofBytes_holds ofBytes_secondFirst
  exact ⟨header, rows, ofBytes_secondFirst, hholds,
    hsame firstFirst (by decide +kernel) (by decide +kernel)⟩

end Catalog

end SuiteBench
