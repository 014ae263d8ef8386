import SuiteBench.CommandLine.Application
import SuiteBench.Proofs.Csv.RoundTrip
import SuiteBench.Proofs.Report.Checklist
import SuiteBench.Proofs.Report.Reading

/-!
# Proofs.Report.Overlay — what evaluations do to a table

A merge rewrites the rows of evaluated endpoints and nothing else: the answers go to the first columns
of their criteria, and the first column for it says whether there are enough.  Written again, the table
stays as it is, unless the table is itself a checklist, which the first merge may change.
-/

namespace SuiteBench

namespace Report

/-! ### Cells -/

section Cells

variable {header cells : List String} {e : Evaluation} {i : Nat} {a b : String}

/-- What the last of some columns and values that concern a cell puts into it. -/
def newCell? (header : List String) (i : Nat) : List (String × String) → Option String
  | [] => none
  | (column, value) :: rest =>
    (newCell? header i rest).or (if header.findIdx? (· == column) = some i then some value else none)

theorem getElem?_setCell (column value : String) : (setCell header cells column value)[i]? =
    cells[i]?.map fun c => if header.findIdx? (· == column) = some i then value else c := by
  rw [setCell]
  cases hj : header.findIdx? (· == column) with
  | none => simp
  | some j =>
    by_cases hji : j = i
    · subst hji
      cases hc : cells[j]? with
      | none =>
        have hlen := List.getElem?_eq_none_iff.mp hc
        simp [hlen]
      | some c =>
        obtain ⟨hlen, -⟩ := List.getElem?_eq_some_iff.mp hc
        simp [hlen]
    · simp [hji]

/-- A cell holds what was put into it last. -/
theorem getElem?_foldl_setCell (kvs : List (String × String)) (cells : List String) :
    (kvs.foldl (fun cells (column, value) => setCell header cells column value) cells)[i]? =
      cells[i]?.map fun c => (newCell? header i kvs).getD c := by
  induction kvs generalizing cells with
  | nil => simp [newCell?]
  | cons kv kvs ih =>
    rw [List.foldl_cons, ih, getElem?_setCell, Option.map_map, newCell?]
    congr 1
    funext c
    cases newCell? header i kvs with
    | some v => rfl
    | none => by_cases h : header.findIdx? (· == kv.1) = some i <;> simp [h]

theorem getElem?_overlay (header : List String) (e : Evaluation) (cells : List String) (i : Nat) :
    (overlay header e cells)[i]? = cells[i]?.map fun c => (newCell? header i e.cells).getD c :=
  getElem?_foldl_setCell e.cells cells

/-- Putting an evaluation in again changes nothing. -/
theorem overlay_overlay (header : List String) (e : Evaluation) (cells : List String) :
    overlay header e (overlay header e cells) = overlay header e cells := by
  refine List.ext_getElem? fun i => ?_
  rw [getElem?_overlay, getElem?_overlay, Option.map_map]
  congr 1
  funext c
  cases newCell? header i e.cells <;> rfl

theorem length_setCell (header cells : List String) (column value : String) :
    (setCell header cells column value).length = cells.length := by
  rw [setCell]
  split
  · exact List.length_set
  · rfl

theorem length_overlay (header : List String) (e : Evaluation) (cells : List String) :
    (overlay header e cells).length = cells.length := by
  rw [overlay]
  induction e.cells generalizing cells with
  | nil => rfl
  | cons kv kvs ih => rw [List.foldl_cons, ih, length_setCell]

/-- Two columns do not have one first index. -/
theorem eq_of_findIdx? (ha : header.findIdx? (· == a) = some i)
    (hb : header.findIdx? (· == b) = some i) : a = b := by
  obtain ⟨_, ha', -⟩ := List.findIdx?_eq_some_iff_getElem.mp ha
  obtain ⟨_, hb', -⟩ := List.findIdx?_eq_some_iff_getElem.mp hb
  exact (beq_iff_eq.mp ha').symm.trans (beq_iff_eq.mp hb')

theorem newCell?_eq_none {kvs : List (String × String)}
    (h : ∀ x ∈ kvs, header.findIdx? (· == x.1) ≠ some i) : newCell? header i kvs = none := by
  induction kvs with
  | nil => rfl
  | cons kv kvs ih =>
    obtain ⟨hkv, hkvs⟩ := List.forall_mem_cons.mp h
    rw [newCell?, ih hkvs, if_neg hkv, Option.none_or]

/-- Of columns that differ, one decides what is in a cell. -/
theorem newCell?_of_mem {kvs : List (String × String)} (hn : (kvs.map (·.1)).Nodup) {x : String × String}
    (hx : x ∈ kvs) (hi : header.findIdx? (· == x.1) = some i) : newCell? header i kvs = some x.2 := by
  induction kvs with
  | nil => cases hx
  | cons kv kvs ih =>
    obtain ⟨hkv, hn⟩ := List.nodup_cons.mp hn
    rw [newCell?]
    rcases List.mem_cons.mp hx with rfl | hx
    · have hnone : newCell? header i kvs = none := newCell?_eq_none fun y hy hyi =>
        hkv (List.mem_map.mpr ⟨y, hy, eq_of_findIdx? hyi hi⟩)
      rw [hnone, if_pos hi, Option.none_or]
    · rw [ih hn hx, Option.some_or]

/-- What an evaluation makes of a row. -/
structure Updated (header : List String) (e : Evaluation) (old new : List String) : Prop where
  length : new.length = old.length
  answered : ∀ x ∈ e.answers, ∀ i, header.findIdx? (· == x.1) = some i → new[i]? = some x.2
  complete : ∀ i, header.findIdx? (· == completeColumn) = some i → new[i]? =
    some (if 5 ≤ e.answers.countP fun a => a.2 ≠ "" ∧ a.2 ≠ "N/A" then "TRUE" else "FALSE")
  others : ∀ i, (∀ column ∈ completeColumn :: e.answers.map (·.1),
    header.findIdx? (· == column) ≠ some i) → new[i]? = old[i]?

theorem nodup_cells (text : String) : ((Evaluation.ofText text).cells.map (·.1)).Nodup := by
  rw [Evaluation.cells, List.map_append, List.nodup_append]
  refine ⟨Evaluation.nodup_ofText text, by simp, fun a ha b hb he => ?_⟩
  obtain ⟨x, hx, rfl⟩ := List.mem_map.mp ha
  have hcomplete : x.1 = completeColumn := he.trans (by simpa using hb)
  have hcolumn := Evaluation.column_of_mem_ofText hx
  rw [hcomplete] at hcolumn
  revert hcolumn
  decide

theorem lt_of_findIdx? (h : header.findIdx? (· == a) = some i) : i < header.length := by
  obtain ⟨hi, -⟩ := List.findIdx?_eq_some_iff_getElem.mp h
  exact hi

theorem updated_overlay (text : String) (hlen : cells.length = header.length) :
    Updated header (.ofText text) cells (overlay header (.ofText text) cells) where
  length := length_overlay header _ cells
  answered x hx i hcolumn := by
    have hi : i < cells.length := hlen ▸ lt_of_findIdx? hcolumn
    rw [getElem?_overlay, newCell?_of_mem (nodup_cells text) (List.mem_append_left _ hx) hcolumn,
      List.getElem?_eq_getElem hi]
    rfl
  complete i hcolumn := by
    have hi : i < cells.length := hlen ▸ lt_of_findIdx? hcolumn
    have hmem : (completeColumn, flagCell (Evaluation.ofText text).isComplete) ∈
        (Evaluation.ofText text).cells := List.mem_append_right _ List.mem_cons_self
    rw [getElem?_overlay, newCell?_of_mem (nodup_cells text) hmem hcolumn, List.getElem?_eq_getElem hi,
      Evaluation.isComplete_ofText, flagCell]
    simp only [Option.map_some, Option.getD_some, decide_eq_true_eq]
  others i hi := by
    have hnone : newCell? header i (Evaluation.ofText text).cells = none :=
      newCell?_eq_none fun x hx => by
        rcases List.mem_append.mp hx with hx | hx
        · exact hi x.1 (List.mem_cons_of_mem _ (List.mem_map_of_mem hx))
        · rw [List.mem_singleton.mp hx]
          exact hi completeColumn List.mem_cons_self
    rw [getElem?_overlay, hnone]
    simp

end Cells

/-! ### Tables -/

section Tables

variable {d : ResultsDir} {t u : Tree} {table : Path} {l : Location} {bytes : ByteArray}
  {header old : List String} {rows : List (List String)} {es : List (Nat × Evaluation)} {at_ n : Nat}
  {text : String}

/-- Whether bytes are read as a table with some header and rows. -/
structure IsTable (bytes : ByteArray) (header : List String) (rows : List (List String)) : Prop where
  header : (tableFormat.read bytes).header = .ok header
  rows : (tableFormat.read bytes).rows.map (·.map Csv.Row.cells) = rows.map .ok

theorem IsTable.length_of_mem (h : IsTable bytes header rows) {r : List String} (hr : r ∈ rows) :
    r.length = header.length := by
  have hmem : (.ok r : Except Csv.ReadError (List String)) ∈ rows.map .ok := List.mem_map_of_mem hr
  rw [← h.rows] at hmem
  obtain ⟨x, hx, hxr⟩ := List.mem_map.mp hmem
  cases x with
  | error e => cases hxr
  | ok row =>
    cases hxr
    exact Csv.length_of_read rfl h.header hx

/-- A table is read as it was written, unless a byte order mark seems to be in front of it. -/
theorem isTable_write (hne : header ≠ []) (hrows : ∀ r ∈ rows, r.length = header.length)
    (hmark : ¬ Csv.Marked header) : IsTable (Csv.write (header :: rows)).toUTF8 header rows :=
  have h := Csv.read_write (o := tableFormat) rfl rfl hne hrows hmark
  ⟨h.1, h.2⟩

/-- A row with the evaluation of its endpoint put in. -/
def overlaid (header : List String) (es : List (Nat × Evaluation)) (at_ : Nat) (cells : List String) :
    List String :=
  match evaluationOf? es cells[at_]? with
  | some e => overlay header e cells
  | none => cells

/-- How many rows have an evaluation. -/
def evaluatedRows (es : List (Nat × Evaluation)) (at_ : Nat) (rows : List (List String)) : Nat :=
  rows.countP fun cells => (evaluationOf? es cells[at_]?).isSome

theorem mapM_mapError_eq_ok_iff {α ε ε' : Type} {f : ε → ε'} {xs : List (Except ε α)} {as : List α} :
    xs.mapM (fun x => x.mapError f) = .ok as ↔ xs = as.map .ok := by
  induction xs generalizing as with
  | nil => cases as <;> simp [pure, Except.pure]
  | cons x xs ih =>
    rw [List.mapM_cons]
    cases x with
    | error e => cases as <;> simp [Except.mapError, bind, Except.bind]
    | ok a =>
      cases hxs : xs.mapM fun x => x.mapError f with
      | error e =>
        have hne : ∀ bs : List α, xs ≠ bs.map .ok := fun bs hbs => by
          rw [ih.mpr hbs] at hxs
          cases hxs
        cases as <;> simp [Except.mapError, bind, Except.bind, hne]
      | ok bs =>
        have hinj : ∀ cs : List α, bs = cs ↔ xs = cs.map .ok := fun cs => by
          rw [← ih, hxs, Except.ok.injEq]
        cases as <;> simp [Except.mapError, bind, Except.bind, pure, Except.pure, hinj]

/-- Rows that are read have cells, and cells that are read belong to rows. -/
theorem map_cells_eq_iff {xs : List (Except Csv.ReadError Csv.Row)} :
    xs.map (·.map Csv.Row.cells) = rows.map .ok ↔
      ∃ rs : List Csv.Row, xs = rs.map .ok ∧ rs.map Csv.Row.cells = rows := by
  induction xs generalizing rows with
  | nil => cases rows <;> simp
  | cons x xs ih =>
    cases rows with
    | nil => simp
    | cons r rows =>
      rw [List.map_cons, List.map_cons, List.cons.injEq, ih]
      constructor
      · rintro ⟨hx, rs, rfl, rfl⟩
        cases x with
        | error e => cases hx
        | ok row =>
          cases hx
          exact ⟨row :: rs, rfl, rfl⟩
      · rintro ⟨rs, hrs, hr⟩
        cases rs with
        | nil => cases hrs
        | cons row rs =>
          cases hrs
          cases hr
          exact ⟨rfl, rs, rfl, rfl⟩

theorem mapError_ok {α ε ε' : Type} (f : ε → ε') (a : α) :
    (Except.ok a : Except ε α).mapError f = .ok a := rfl

theorem mergedTable_eq_ok_iff : mergedTable d t table bytes = .ok (n, text) ↔
    ∃ es header at_ rows, evaluations d t = .ok es ∧ IsTable bytes header rows ∧
      header.findIdx? (· == "endpoint_id") = some at_ ∧ n = evaluatedRows es at_ rows ∧
        text = Csv.write (header :: rows.map (overlaid header es at_)) := by
  have hfound : ∀ (es : List (Nat × Evaluation)) (at_ : Nat) (rs : List Csv.Row),
      (rs.map fun r => (r.cells, evaluationOf? es r.cells[at_]?)).countP (·.2.isSome) =
        evaluatedRows es at_ (rs.map Csv.Row.cells) := by
    intro es at_ rs
    rw [List.countP_map, evaluatedRows, List.countP_map]
    rfl
  have hmerged : ∀ (es : List (Nat × Evaluation)) (header : List String) (at_ : Nat)
      (rs : List Csv.Row), ((rs.map fun r => (r.cells, evaluationOf? es r.cells[at_]?)).map
        fun x => match x.2 with
          | some e => overlay header e x.1
          | none => x.1) = (rs.map Csv.Row.cells).map (overlaid header es at_) := by
    intro es header at_ rs
    rw [List.map_map, List.map_map]
    rfl
  constructor
  · intro h
    rw [mergedTable] at h
    cases hes : evaluations d t with
    | error e => simp [hes, bind, Except.bind] at h
    | ok es =>
      cases hheader : (tableFormat.read bytes).header with
      | error e => simp [hes, hheader, bind, Except.bind, Except.mapError] at h
      | ok header =>
        cases hat : header.findIdx? (· == "endpoint_id") with
        | none => simp [hes, hheader, hat, bind, Except.bind, mapError_ok] at h
        | some at_ =>
          cases hrows : (tableFormat.read bytes).rows.mapM fun r => r.mapError ReportError.table with
          | error e => simp [hes, hheader, hat, hrows, bind, Except.bind, mapError_ok] at h
          | ok rs =>
            simp only [hes, hheader, hat, hrows, bind, Except.bind, mapError_ok, pure, Except.pure,
              Except.ok.injEq, Prod.mk.injEq] at h
            obtain ⟨hn, htext⟩ := h
            have hrs := mapM_mapError_eq_ok_iff.mp hrows
            refine ⟨es, header, at_, rs.map Csv.Row.cells, rfl, ⟨hheader, ?_⟩, hat, ?_, ?_⟩
            · exact map_cells_eq_iff.mpr ⟨rs, hrs, rfl⟩
            · rw [← hn, hfound]
            · rw [← htext]
              exact congrArg (fun ls => Csv.write (header :: ls)) (hmerged es header at_ rs)
  · rintro ⟨es, header, at_, rows, hes, ⟨hheader, hrows⟩, hat, rfl, rfl⟩
    obtain ⟨rs, hrs, rfl⟩ := map_cells_eq_iff.mp hrows
    have hmap := mapM_mapError_eq_ok_iff (f := ReportError.table).mpr hrs
    rw [mergedTable, hes]
    simp only [hheader, hat, hmap, bind, Except.bind, mapError_ok, pure, Except.pure]
    rw [hfound]
    exact congrArg (fun ls => Except.ok (_, Csv.write (header :: ls))) (hmerged es header at_ rs)

/-! ### Merging -/

/-- Whether evaluations are those of checklists. -/
def FromChecklists (es : List (Nat × Evaluation)) : Prop :=
  ∀ x ∈ es, ∃ text, x.2 = Evaluation.ofText text

theorem fromChecklists_foldlM {xs : List (String × Entry)} (h : FromChecklists es)
    {es' : List (Nat × Evaluation)} (hfold : xs.foldlM (takeEvaluation d t) es = .ok es') :
    FromChecklists es' := by
  induction xs generalizing es with
  | nil =>
    cases hfold
    exact h
  | cons x xs ih =>
    rw [List.foldlM_cons] at hfold
    cases htake : takeEvaluation d t es x with
    | error e => simp [htake, bind, Except.bind] at hfold
    | ok es'' =>
      rw [htake] at hfold
      refine ih ?_ hfold
      rw [takeEvaluation] at htake
      split at htake
      · cases htake
        exact h
      · split at htake
        · split at htake
          · next text _ =>
            cases htake
            intro y hy
            rcases List.mem_cons.mp hy with rfl | hy
            · exact ⟨text, rfl⟩
            · exact h y (List.mem_filter.mp hy).1
          · cases htake
        · cases htake
          exact h

theorem root_of_evaluations (h : evaluations d t = .ok es) : t.get d.location = .ok .directory := by
  rw [evaluations, Tree.list] at h
  cases hg : t.get d.location with
  | error e => simp [hg, Except.mapError, bind, Except.bind] at h
  | ok e =>
    cases e with
    | directory => rfl
    | file c x => simp [hg, Except.mapError, bind, Except.bind] at h

theorem fromChecklists (h : evaluations d t = .ok es) : FromChecklists es := by
  rw [evaluations_eq_foldlM (root_of_evaluations h)] at h
  exact fromChecklists_foldlM (fun x hx => by cases hx) h

theorem ofText_of_evaluationOf? (h : FromChecklists es) {id : Option String} {e : Evaluation}
    (he : evaluationOf? es id = some e) : ∃ text, e = Evaluation.ofText text := by
  rw [evaluationOf?, Option.bind_eq_bind, Option.bind_eq_some_iff] at he
  obtain ⟨cell, -, he⟩ := he
  split at he
  · next n _ =>
    obtain ⟨front, back, rfl, -⟩ := List.lookup_eq_some_iff.mp he
    exact h (n, e) (List.mem_append_right _ List.mem_cons_self)
  · cases he

/-- No evaluation concerns the column of the endpoints. -/
theorem overlaid_id (h : FromChecklists es) (hat : header.findIdx? (· == "endpoint_id") = some at_)
    (cells : List String) : (overlaid header es at_ cells)[at_]? = cells[at_]? := by
  rw [overlaid]
  cases he : evaluationOf? es cells[at_]? with
  | none => rfl
  | some e =>
    obtain ⟨text, rfl⟩ := ofText_of_evaluationOf? h he
    have hcolumn : ∀ x ∈ (Evaluation.ofText text).cells, x.1 ≠ "endpoint_id" := by
      intro x hx hid
      have hall : "endpoint_id" ∉ completeColumn :: qualitativeColumns := by decide
      rcases List.mem_append.mp hx with hx | hx
      · exact hall (List.mem_cons_of_mem _ (hid ▸ Evaluation.column_of_mem_ofText hx))
      · rw [List.mem_singleton.mp hx] at hid
        exact hall (hid ▸ List.mem_cons_self)
    have hnone : newCell? header at_ (Evaluation.ofText text).cells = none :=
      newCell?_eq_none fun x hx hi => hcolumn x hx (eq_of_findIdx? hi hat)
    dsimp only
    rw [getElem?_overlay, hnone]
    simp

theorem overlaid_overlaid (h : FromChecklists es)
    (hat : header.findIdx? (· == "endpoint_id") = some at_) (cells : List String) :
    overlaid header es at_ (overlaid header es at_ cells) = overlaid header es at_ cells := by
  have hid := overlaid_id h hat cells
  rw [overlaid, hid]
  cases he : evaluationOf? es cells[at_]? with
  | none => rfl
  | some e =>
    have hover : overlaid header es at_ cells = overlay header e cells := by rw [overlaid, he]
    dsimp only
    rw [hover, overlay_overlay]

theorem length_overlaid (header : List String) (es : List (Nat × Evaluation)) (at_ : Nat)
    (cells : List String) : (overlaid header es at_ cells).length = cells.length := by
  rw [overlaid]
  split
  · exact length_overlay header _ cells
  · rfl

/-- What a merge makes of a row: only the row of an endpoint with an evaluation is changed. -/
inductive RowMerged (header : List String) (es : List (Nat × Evaluation)) (at_ : Nat) (old : List String) :
    List String → Prop
  | kept (h : evaluationOf? es old[at_]? = none) : RowMerged header es at_ old old
  | updated {e : Evaluation} {new : List String} (h : evaluationOf? es old[at_]? = some e)
      (cells : Updated header e old new) : RowMerged header es at_ old new

theorem rowMerged_overlaid (h : FromChecklists es) {cells : List String}
    (hlen : cells.length = header.length) :
    RowMerged header es at_ cells (overlaid header es at_ cells) := by
  cases he : evaluationOf? es cells[at_]? with
  | none =>
    rw [overlaid, he]
    exact .kept he
  | some e =>
    obtain ⟨text, rfl⟩ := ofText_of_evaluationOf? h he
    have hcells : Updated header (.ofText text) cells (overlay header (.ofText text) cells) :=
      updated_overlay text hlen
    rw [overlaid, he]
    exact .updated he hcells

/-- Puts the evaluations into a table: how many rows have one, and the tree then. -/
def merge (d : ResultsDir) (t : Tree) (table : Path) (l : Location) : Except ReportError Nat × Tree :=
  match mergeSteps d t table l with
  | .error e => (.error e, t)
  | .ok (n, steps) =>
    match Step.run t steps with
    | (u, some e) => (.error (.file e), u)
    | (u, none) => (.ok n, u)

/-- This is how the evaluations are put into the results table. -/
theorem mergeEvaluations_eq (d : ResultsDir) (w : World) :
    CommandLine.Site.mergeEvaluations d w =
      ((merge d w.tree (d.path.join Layout.resultsTable) (d.location ++ [Layout.resultsTable])).1,
        { w with tree := (merge d w.tree (d.path.join Layout.resultsTable)
          (d.location ++ [Layout.resultsTable])).2 }) := by
  rw [CommandLine.Site.mergeEvaluations, merge]
  cases mergeSteps d w.tree (d.path.join Layout.resultsTable) (d.location ++ [Layout.resultsTable]) with
  | error e => rfl
  | ok merged =>
    obtain ⟨n, steps⟩ := merged
    dsimp only
    cases hrun : Step.run w.tree steps with
    | mk u e =>
      have hperform : w.perform steps = ({ w with tree := u }, e) := by rw [World.perform, hrun]
      rw [hperform]
      cases e <;> rfl

/-- A merge that succeeds replaces a table by the one with the evaluations put in. -/
theorem merge_eq_ok_iff : merge d t table l = (.ok n, u) ↔ ∃ content x text,
    t.find? l = some (.file content x) ∧ mergedTable d t table content = .ok (n, text) ∧
      Step.run t (Step.replace l text.toUTF8) = (u, none) := by
  rw [merge]
  constructor
  · intro h
    split at h
    · cases h
    · next k steps hm =>
      obtain ⟨content, x, text, hf, hmerged, rfl⟩ := mergeSteps_eq_ok_iff.mp hm
      cases hrun : Step.run t (Step.replace l text.toUTF8) with
      | mk v e =>
        rw [hrun] at h
        cases e with
        | some e => cases h
        | none =>
          cases h
          exact ⟨content, x, text, hf, hmerged, hrun⟩
  · rintro ⟨content, x, text, hf, hmerged, hrun⟩
    rw [mergeSteps_eq_ok_iff.mpr ⟨content, x, text, hf, hmerged, rfl⟩]
    dsimp only
    rw [hrun]

/-- A merge that fails leaves the table as it was. -/
theorem read_of_merge_error {f : ReportError} (h : merge d t table l = (.error f, u)) :
    u.read l = t.read l := by
  rw [merge] at h
  split at h
  · cases h
    rfl
  · next n steps hm =>
    obtain ⟨content, x, text, hf, -, rfl⟩ := mergeSteps_eq_ok_iff.mp hm
    have hl : l ≠ [] := by
      rintro rfl
      cases hf
    cases hrun : Step.run t (Step.replace l text.toUTF8) with
    | mk v e =>
      rw [hrun] at h
      cases e with
      | none => cases h
      | some e =>
        cases h
        exact Tree.read_congr fun p hp => Step.find?_replace_cut hrun fun hh =>
          Step.not_hidden_prefix hl (hh.trans hp)

/-- Whether a table is the checklist of an endpoint. -/
def IsChecklist (d : ResultsDir) (l : Location) : Prop :=
  ∃ name, Layout.number? name "endpoint" ≠ none ∧
    l = d.location ++ [name, Layout.manualEvaluation]

/-- A table that is replaced takes no evaluation with it, unless it was one. -/
theorem evaluations_of_merged (ht : t.Sound) (hl : ¬ IsChecklist d l) {content : ByteArray}
    (hes : evaluations d t = .ok es) (hlne : l ≠ [])
    (hrun : Step.run t (Step.replace l content) = (u, none)) : evaluations d u = .ok es := by
  have hrw := Tree.Rewrites.of_replace ht hlne hrun
  have hroot := root_of_evaluations hes
  have hdir := (Tree.get_eq_ok_iff.mp hroot).2
  have hroot' : u.get d.location = .ok .directory :=
    (Step.sound_replace ht hlne hrun).get_eq_ok_iff.mpr
      (hrw.find?_of_some (hrw.aside_of_isDirectory hdir) hdir)
  rw [← hes]
  refine evaluations_of_rewrites hrw ht hroot hroot' fun name hname => ?_
  have haside : Tree.Aside [l] (d.location ++ [name, Layout.manualEvaluation]) := by
    refine ⟨fun hm => hl ⟨name, hname, (List.mem_singleton.mp hm).symm⟩, fun hm => ?_⟩
    have hhidden : Step.hidden l = d.location ++ [name, Layout.manualEvaluation] :=
      (List.mem_singleton.mp hm).symm
    have hlast := congrArg List.getLast? hhidden
    simp only [Step.hidden, List.getLast?_append, List.getLast?_singleton, List.getLast?_cons_cons,
      Option.some_or, Option.some.injEq] at hlast
    exact Step.hiddenName_ne (by decide) hlast
  rcases hrw.find?_cases haside with hsame | ⟨⟨m, hm, -⟩, -⟩
  · exact hsame
  · cases hm

end Tables

/-- A merge that fails leaves the table as it was.  One that succeeds rewrites just the rows of
endpoints with an evaluation, as many as it says, and just the columns of the answers in them; the table
is read so, if no byte order mark seems to be in front of it.  Merging again leaves it as it is, unless
it is a checklist itself. -/
theorem merge_overlays {d : ResultsDir} {t u : Tree} {table : Path} {l : Location}
    {outcome : Except ReportError Nat} (ht : t.Sound) (h : merge d t table l = (outcome, u)) :
    (∀ f, outcome = .error f → u.read l = t.read l) ∧
    ∀ n, outcome = .ok n → ∃ content es header at_ rows rows',
      t.read l = .ok content ∧ evaluations d t = .ok es ∧ IsTable content header rows ∧
      header.findIdx? (· == "endpoint_id") = some at_ ∧ n = evaluatedRows es at_ rows ∧
      List.Forall₂ (RowMerged header es at_) rows rows' ∧
      (¬ Csv.Marked header → (∃ content', u.read l = .ok content' ∧ IsTable content' header rows') ∧
        (¬ IsChecklist d l → ∃ v, merge d u table l = (.ok n, v) ∧ v.read l = u.read l)) := by
  refine ⟨fun f hf => read_of_merge_error (hf ▸ h), fun n hn => ?_⟩
  obtain ⟨content, x, text, hfile, hmerged, hrun⟩ := merge_eq_ok_iff.mp (hn ▸ h)
  obtain ⟨es, header, at_, rows, hes, htable, hat, rfl, rfl⟩ := mergedTable_eq_ok_iff.mp hmerged
  have hl : l ≠ [] := by
    rintro rfl
    cases hfile
  have hfrom := fromChecklists hes
  obtain ⟨hread, hgone⟩ := Step.run_replace hrun hl
  refine ⟨content, es, header, at_, rows, rows.map (overlaid header es at_),
    Tree.read_eq_ok_iff.mpr ⟨ht.obstacle? (by simp [hfile]), x, hfile⟩, hes, htable, hat, rfl, ?_,
    fun hmark => ?_⟩
  · rw [List.forall₂_map_right_iff, List.forall₂_same]
    exact fun cells hcells => rowMerged_overlaid hfrom (htable.length_of_mem hcells)
  · have hagain : IsTable (Csv.write (header :: rows.map (overlaid header es at_))).toUTF8 header
        (rows.map (overlaid header es at_)) := by
      refine isTable_write (fun h0 => ?_) (fun r hr => ?_) hmark
      · rw [h0] at hat
        cases hat
      · obtain ⟨cells, hcells, rfl⟩ := List.mem_map.mp hr
        rw [length_overlaid, htable.length_of_mem hcells]
    refine ⟨⟨_, hread, hagain⟩, fun hlist => ?_⟩
    -- the second merge finds the same evaluations and puts in what is there already
    have hes' := evaluations_of_merged ht hlist hes hl hrun
    have hcount : evaluatedRows es at_ rows =
        evaluatedRows es at_ (rows.map (overlaid header es at_)) := by
      rw [evaluatedRows, evaluatedRows, List.countP_map]
      exact List.countP_congr fun cells _ => by rw [Function.comp_apply, overlaid_id hfrom hat]
    have hsame : rows.map (overlaid header es at_) =
        (rows.map (overlaid header es at_)).map (overlaid header es at_) := by
      rw [List.map_map]
      exact List.map_congr_left fun cells _ => (overlaid_overlaid hfrom hat cells).symm
    have hmerged' : mergedTable d u table (Csv.write (header :: rows.map (overlaid header es at_))).toUTF8 =
        .ok (evaluatedRows es at_ rows, Csv.write (header :: rows.map (overlaid header es at_))) :=
      mergedTable_eq_ok_iff.mpr ⟨es, header, at_, _, hes', hagain, hat, hcount, by rw [← hsame]⟩
    obtain ⟨hobstacle, y, hfile'⟩ := Tree.read_eq_ok_iff.mp hread
    obtain ⟨v, hv⟩ := Step.replace_succeeds hl hobstacle
      (by simp [Tree.isDirectory, hfile', Entry.isDirectory])
      (by simp [Tree.isDirectory, hgone])
      (Csv.write (header :: rows.map (overlaid header es at_))).toUTF8
    refine ⟨v, merge_eq_ok_iff.mpr ⟨_, y, _, hfile', hmerged', hv⟩, ?_⟩
    rw [(Step.run_replace hv hl).1, hread]

end Report

/-! ### Two merges -/

open Report

/-- A results directory with a table of two endpoints, one of which has a checklist. -/
def checkedTree : Tree := ⟨[
  (["results"], .directory),
  (["results", "endpoint_03"], .directory),
  (["results", "endpoint_03", Layout.manualEvaluation],
    .file "Targets the correct endpoint: [x] Yes".toUTF8 false),
  (["results", Layout.resultsTable],
    .file "endpoint_id,targets_correct_endpoint\n3,N/A\n4,N/A\n".toUTF8 false)]⟩

theorem sound_checkedTree : checkedTree.Sound := Tree.sound_of_entries (by decide)

theorem header_checkedTree {content : ByteArray}
    (h : checkedTree.read ["results", Layout.resultsTable] = .ok content) :
    (tableFormat.read content).header = .ok ["endpoint_id", "targets_correct_endpoint"] := by
  have hread : checkedTree.read ["results", Layout.resultsTable] =
      .ok "endpoint_id,targets_correct_endpoint\n3,N/A\n4,N/A\n".toUTF8 := rfl
  rw [hread] at h
  cases h
  decide +kernel

theorem merge_overlays_checked : ∃ u v,
    merge sampleDir checkedTree ⟨"/results/benchmark-results.csv"⟩ ["results", Layout.resultsTable] =
      (.ok 1, u) ∧
    merge sampleDir u ⟨"/results/benchmark-results.csv"⟩ ["results", Layout.resultsTable] =
      (.ok 1, v) ∧
    v.read ["results", Layout.resultsTable] = u.read ["results", Layout.resultsTable] := by
  have hone : (merge sampleDir checkedTree ⟨"/results/benchmark-results.csv"⟩
      ["results", Layout.resultsTable]).1 = .ok 1 := by decide +kernel
  obtain ⟨-, hok⟩ := merge_overlays sound_checkedTree (Prod.ext hone rfl)
  obtain ⟨content, es, header, at_, rows, rows', hread, -, htable, -, -, -, hafter⟩ := hok 1 rfl
  have hheader := htable.header
  rw [header_checkedTree hread] at hheader
  cases hheader
  have hmark : ¬ Csv.Marked ["endpoint_id", "targets_correct_endpoint"] := by
    rw [Csv.Marked]
    decide
  have hlist : ¬ IsChecklist sampleDir ["results", Layout.resultsTable] := by
    rintro ⟨name, -, he⟩
    cases he
  obtain ⟨v, hv, hsame⟩ := (hafter hmark).2 hlist
  exact ⟨_, v, Prod.ext hone rfl, hv, hsame⟩

/-- A results directory whose checklist is a table with a prompt and two ticked options. -/
def foldedTree : Tree := ⟨[
  (["results"], .directory),
  (["results", "endpoint_01"], .directory),
  (["results", "endpoint_01", Layout.manualEvaluation],
    .file ("endpoint_id,prompt,targets_correct_endpoint,next\n" ++
      "1,Targets the correct endpoint,[x] Yes,[x] No\n").toUTF8 false)]⟩

/-- Merges the evaluations into the checklist of the endpoint 1. -/
def foldInto (t : Tree) : Except ReportError Nat × Tree :=
  merge sampleDir t ⟨"/results/endpoint_01/manual-evaluation.md"⟩
    ["results", "endpoint_01", Layout.manualEvaluation]

/-- The first merge into a checklist can change the answers that the second one finds. -/
theorem merge_not_repeated : foldedTree.Sound ∧
    (foldInto foldedTree).1 = .ok 1 ∧ (foldInto (foldInto foldedTree).2).1 = .ok 1 ∧
      (foldInto (foldInto foldedTree).2).2.read ["results", "endpoint_01", Layout.manualEvaluation] ≠
        (foldInto foldedTree).2.read ["results", "endpoint_01", Layout.manualEvaluation] := by
  refine ⟨Tree.sound_of_entries (by decide), ?_, ?_, ?_⟩
  · decide +kernel
  · decide +kernel
  · decide +kernel

end SuiteBench
