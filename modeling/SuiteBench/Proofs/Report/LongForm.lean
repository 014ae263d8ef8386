import SuiteBench.Proofs.Json.Doubles
import SuiteBench.Proofs.Report.Cells
import SuiteBench.Proofs.Store.Records
import SuiteBench.Report.Tables

/-!
# Proofs.Report.LongForm — the detailed table loses nothing

A reader of the detailed table that knows nothing of records splits the rows where the record file changes,
and takes each value from its text and its kind: the kind tells a string from everything else, and what is no
string is written as JSON.  So it comes by both documents of each record, and by the record.
-/

namespace SuiteBench.Report

variable {r : RunRecord} {records : List RunRecord} {name file : String} {v w : Json}

/-! ### A reader of the table -/

/-- The value that a text and a kind stand for. -/
def valueOf? (text kind : String) : Option Json :=
  if kind = "string" then some (.string text) else Json.parse? text

/-- The metric of a row, found by the names of the columns. -/
def metricOf? (row : List String) : Option (String × Json) := do
  let cell := Csv.lookup detailedColumns row
  some (← cell "metric_name", ← valueOf? (← cell "metric_value") (← cell "metric_type"))

/-- The document of a block of rows. -/
def documentOf? (block : List (List String)) : Option Json := (block.mapM metricOf?).map .object

/-- The rows in blocks, each of one record file. -/
def blocks (rows : List (List String)) : List (List (List String)) :=
  rows.splitBy fun row next =>
    Csv.lookup detailedColumns row "source_file" == Csv.lookup detailedColumns next "source_file"

/-- Both documents of each record, which has two blocks. -/
def documentsOf? : List (List (List String)) → Option (List (Json × Json))
  | [] => some []
  | metrics :: status :: rest => do
    some ((← documentOf? metrics, ← documentOf? status) :: (← documentsOf? rest))
  | [_] => none

/-- The record of two documents. -/
def recordOf? (documents : Json × Json) : Option RunRecord := do
  let metrics ← ResourceMetrics.ofJson? documents.1
  let status ← ExitStatus.ofJson? documents.2
  (RunRecord.ofHalves metrics status).toOption

/-! ### Values -/

theorem valueKind_eq_string_iff (h : Json.Plain v) : valueKind v = "string" ↔ ∃ s, v = .string s := by
  cases v with
  | number n =>
    cases n with
    | float x =>
      rw [valueKind]
      split <;> simp
    | _ => simp [valueKind]
  | broken => exact h.elim
  | _ => simp [valueKind]

/-- The text and the kind of a value tell the value. -/
theorem valueOf?_valueText (h : Json.Plain v) : valueOf? (valueText v) (valueKind v) = some v.sorted := by
  rw [valueOf?]
  split
  · next hkind =>
    obtain ⟨s, rfl⟩ := (valueKind_eq_string_iff h).mp hkind
    rfl
  · next hkind =>
    have htext : valueText v = v.sorted.compact := by
      cases v with
      | string s => exact absurd rfl hkind
      | _ => rfl
    rw [htext, Json.parse?_compact (Json.plain_sorted h)]

/-- Values that are printed as one text of one kind are one value. -/
theorem sorted_eq_of_texts (hv : Json.Plain v) (hw : Json.Plain w) (htext : valueText v = valueText w)
    (hkind : valueKind v = valueKind w) : v.sorted = w.sorted := by
  have hread := valueOf?_valueText hv
  rw [htext, hkind, valueOf?_valueText hw] at hread
  exact (Option.some.inj hread).symm

/-! ### Documents -/

/-- The fields of a document. -/
def fieldsOf : Json → List (String × Json)
  | .object fs => fs
  | _ => []

/-- The metrics of a record: the fields of both documents. -/
def metricsOf (r : RunRecord) : List (String × Json) :=
  fieldsOf r.metrics.toJson.sorted ++ fieldsOf r.exitStatus.toJson.sorted

/-- Whether fields are plain and their own fields in order. -/
def Tidy (fs : List (String × Json)) : Prop := ∀ f ∈ fs, Json.Plain f.2 ∧ f.2.sorted = f.2

theorem tidy_sortedFields {fs : List (String × Json)} (h : Json.PlainFields fs)
    (hs : ∀ f ∈ fs, f.2.sorted.sorted = f.2.sorted) : Tidy (Json.sortedFields fs) := by
  intro f hf
  obtain ⟨g, hg, rfl⟩ := List.mem_map.mp ((Json.sortedFields_perm fs).mem_iff.mp hf)
  exact ⟨Json.plain_sorted (Json.plainFields_iff.mp h g hg), hs g hg⟩

theorem sorted_figureJson {α : Type} {encode : α → Json} (h : ∀ a, (encode a).sorted = encode a)
    (a? : Option α) :
    (figureJson encode a?).sorted = figureJson encode a? := by
  cases a? with
  | none => rfl
  | some a => exact h a

theorem sorted_ofNat (n : Nat) : (Json.ofNat n).sorted = Json.ofNat n := rfl

theorem sorted_ofFloat (x : Float) : (Json.ofFloat x).sorted = Json.ofFloat x := rfl

theorem sorted_ofInt (n : Int) : (Json.ofInt n).sorted = Json.ofInt n := by
  rw [Json.ofInt]
  split <;> rfl

theorem sorted_string (s : String) : (Json.string s).sorted = .string s := rfl

theorem sorted_bool (b : Bool) : (Json.bool b).sorted = .bool b := rfl

theorem sorted_errorCounts (c : ErrorCounts) : c.toJson.sorted.sorted = c.toJson.sorted := by
  have hpackages : "missing_packages" < "missing_symbols" := by decide
  have hsymbols : "missing_symbols" < "total_errors" := by decide
  have htotal : ¬"total_errors" < "missing_packages" ∧ ¬"total_errors" < "missing_symbols" := by decide
  simp only [ErrorCounts.toJson, Json.sorted, Json.sortedFields, Json.insertField, sorted_ofNat, hpackages,
    hsymbols, htotal, if_true, if_false]

/-- Whether a document is an object of tidy fields once these are sorted. -/
def TidyDocument (j : Json) : Prop := ∃ fs, j.sorted = .object fs ∧ fs ≠ [] ∧ Tidy fs

theorem tidyDocument_metrics (h : Json.Plain r.metrics.toJson) : TidyDocument r.metrics.toJson := by
  refine ⟨_, by rw [ResourceMetrics.toJson, Json.sorted], ?_, tidy_sortedFields h ?_⟩
  · rw [← List.length_pos_iff, (Json.sortedFields_perm _).length_eq]
    exact Nat.zero_lt_succ _
  · simp [sorted_ofNat, sorted_ofFloat, sorted_string, sorted_figureJson sorted_ofNat,
      sorted_figureJson sorted_ofFloat]

theorem tidyDocument_exitStatus (h : Json.Plain r.exitStatus.toJson) :
    TidyDocument r.exitStatus.toJson := by
  refine ⟨_, by rw [ExitStatus.toJson, Json.sorted], ?_, tidy_sortedFields h ?_⟩
  · rw [← List.length_pos_iff, (Json.sortedFields_perm _).length_eq]
    exact Nat.zero_lt_succ _
  · simp [sorted_ofNat, sorted_ofInt, sorted_string, sorted_bool, sorted_errorCounts]

/-! ### Blocks -/

theorem documentRows_eq {key : RunKey} {j : Json} {fs : List (String × Json)} (h : j.sorted = .object fs) :
    documentRows key file j = fs.map fun f =>
      [Decimal.ofNat key.endpoint, Decimal.ofNat key.run, file, f.1, valueText f.2, valueKind f.2] := by
  rw [documentRows, h]

/-- The document of a block is the one whose rows it holds. -/
theorem documentOf?_documentRows {key : RunKey} {j : Json} (h : TidyDocument j) :
    documentOf? (documentRows key file j) = some j.sorted := by
  obtain ⟨fs, hj, -, hfs⟩ := h
  have hread : (documentRows key file j).mapM metricOf? = some fs := by
    rw [documentRows_eq hj, List.mapM_map]
    clear hj
    induction fs with
    | nil => rfl
    | cons f fs ih =>
      obtain ⟨⟨hplain, hsorted⟩, hfs⟩ := List.forall_mem_cons.mp hfs
      have hmetric : metricOf? [Decimal.ofNat key.endpoint, Decimal.ofNat key.run, file, f.1, valueText f.2,
          valueKind f.2] = some f := by
        have hvalue := valueOf?_valueText hplain
        rw [hsorted] at hvalue
        change ((valueOf? (valueText f.2) (valueKind f.2)).bind fun v => some (f.1, v)) = some f
        rw [hvalue]
        rfl
      rw [List.mapM_cons, Function.comp_apply, hmetric, ih hfs]
      rfl
  rw [documentOf?, hread, hj]
  rfl

/-- Whether rows are those of a record file. -/
def OfFile (file : String) (block : List (List String)) : Prop :=
  block ≠ [] ∧ ∀ row ∈ block, Csv.lookup detailedColumns row "source_file" = some file

theorem ofFile_documentRows (key : RunKey) (file : String) {j : Json} (h : TidyDocument j) :
    OfFile file (documentRows key file j) := by
  obtain ⟨fs, hj, hne, -⟩ := h
  rw [documentRows_eq hj]
  refine ⟨by simpa using hne, fun row hrow => ?_⟩
  obtain ⟨f, -, rfl⟩ := List.mem_map.mp hrow
  rfl

/-- The blocks of a record. -/
def blocksOf (r : RunRecord) : List (List (List String)) :=
  [documentRows r.key Layout.resourceMetrics r.metrics.toJson,
    documentRows r.key Layout.exitStatus r.exitStatus.toJson]

/-- Whether both documents of a record are read back from their rows. -/
def TidyRecord (r : RunRecord) : Prop :=
  TidyDocument r.metrics.toJson ∧ TidyDocument r.exitStatus.toJson

/-- Whether rows go on with those of another record file. -/
def Changes (a b : List (List String)) : Prop :=
  ∃ (ha : a ≠ []) (hb : b ≠ []), (Csv.lookup detailedColumns (a.getLast ha) "source_file" ==
    Csv.lookup detailedColumns (b.head hb) "source_file") = false

theorem OfFile.changes {other : String} {a b : List (List String)} (ha : OfFile file a) (hb : OfFile other b)
    (hne : file ≠ other) : Changes a b := by
  refine ⟨ha.1, hb.1, ?_⟩
  rw [ha.2 _ (List.getLast_mem ha.1), hb.2 _ (List.head_mem hb.1)]
  simpa using hne

/-- The record file changes within a record and from one record to the next. -/
theorem isChain_blocksOf : ∀ {records : List RunRecord}, (∀ r ∈ records, TidyRecord r) →
    List.IsChain Changes (records.flatMap blocksOf)
  | [], _ => .nil
  | r :: rs, h => by
    obtain ⟨⟨hmetrics, hstatus⟩, hrs⟩ := List.forall_mem_cons.mp h
    have hm := ofFile_documentRows r.key Layout.resourceMetrics hmetrics
    have hs := ofFile_documentRows r.key Layout.exitStatus hstatus
    have hrest := isChain_blocksOf hrs
    rw [List.flatMap_cons, blocksOf, List.cons_append, List.cons_append, List.nil_append]
    refine List.isChain_cons_cons.mpr ⟨hm.changes hs (by decide), ?_⟩
    cases rs with
    | nil => exact .singleton _
    | cons r' rs =>
      have hm' := ofFile_documentRows r'.key Layout.resourceMetrics
        (List.forall_mem_cons.mp hrs).1.1
      exact List.isChain_cons_cons.mpr ⟨hs.changes hm' (by decide), hrest⟩

theorem flatten_blocksOf (r : RunRecord) : (blocksOf r).flatten = detailedRows r := by
  rw [detailedRows, blocksOf, List.flatten_cons, List.flatten_cons, List.flatten_nil, List.append_nil]

/-- The rows are split where the record file changes. -/
theorem blocks_detailedRows (h : ∀ r ∈ records, TidyRecord r) :
    blocks (records.flatMap detailedRows) = records.flatMap blocksOf := by
  have hfile : ∀ block ∈ records.flatMap blocksOf, ∃ file, OfFile file block := by
    intro block hblock
    obtain ⟨r, hr, hblock⟩ := List.mem_flatMap.mp hblock
    obtain ⟨hmetrics, hstatus⟩ := h r hr
    rw [blocksOf, List.mem_pair] at hblock
    rcases hblock with hblock | hblock <;> rw [hblock]
    · exact ⟨_, ofFile_documentRows _ _ hmetrics⟩
    · exact ⟨_, ofFile_documentRows _ _ hstatus⟩
  have hflatten : records.flatMap detailedRows = (records.flatMap blocksOf).flatten := by
    rw [← List.flatMap_id, List.flatMap_assoc]
    exact List.flatMap_congr fun r _ => by rw [List.flatMap_id, flatten_blocksOf]
  rw [hflatten]
  refine List.splitBy_flatten (fun hnil => ?_) (fun block hblock => ?_) (isChain_blocksOf h)
  · obtain ⟨file, hfile⟩ := hfile _ hnil
    exact hfile.1 rfl
  · obtain ⟨file, -, hrows⟩ := hfile block hblock
    refine (List.pairwise_of_forall_mem_list fun row hrow next hnext => ?_).isChain
    rw [hrows row hrow, hrows next hnext]
    exact beq_self_eq_true _

/-! ### The table -/

/-- From the blocks come both documents of each record. -/
theorem documentsOf?_blocksOf (h : ∀ r ∈ records, TidyRecord r) :
    documentsOf? (records.flatMap blocksOf) =
      some (records.map fun r => (r.metrics.toJson.sorted, r.exitStatus.toJson.sorted)) := by
  induction records with
  | nil => rfl
  | cons r rs ih =>
    obtain ⟨⟨hmetrics, hstatus⟩, hrs⟩ := List.forall_mem_cons.mp h
    rw [List.flatMap_cons, blocksOf, List.cons_append, List.cons_append, List.nil_append, documentsOf?,
      documentOf?_documentRows hmetrics, documentOf?_documentRows hstatus, ih hrs]
    rfl

/-- From both documents comes the record with its message cut. -/
theorem recordOf?_documents (h : r.Fits) :
    recordOf? (r.metrics.toJson.sorted, r.exitStatus.toJson.sorted) = some r.stored := by
  rw [recordOf?]
  simp only [ResourceMetrics.blind_ofJson? _, ExitStatus.blind_ofJson? _, ResourceMetrics.ofJson?_toJson h,
    ExitStatus.ofJson?_toJson h, Option.bind_eq_bind, Option.bind_some, RunRecord.ofHalves_halves]
  rfl

theorem length_of_mem_detailedRows {row : List String} (h : row ∈ detailedRows r) :
    row.length = detailedColumns.length := by
  have hdocument : ∀ {key : RunKey} {file : String} {j : Json}, row ∈ documentRows key file j →
      row.length = detailedColumns.length := by
    intro key file j h
    rw [documentRows] at h
    split at h
    · obtain ⟨f, -, rfl⟩ := List.mem_map.mp h
      rfl
    · exact absurd h List.not_mem_nil
  rw [detailedRows, List.mem_append] at h
  exact h.elim hdocument hdocument

theorem read_detailedTable (records : List RunRecord) :
    (tableFormat.read (detailedTable records).toUTF8).header = .ok detailedColumns ∧
      (tableFormat.read (detailedTable records).toUTF8).rows.map (·.map Csv.Row.cells) =
        (records.flatMap detailedRows).map .ok := by
  refine Csv.read_write (o := tableFormat) rfl rfl (by decide) (fun row hrow => ?_) ?_
  · obtain ⟨r, -, hrow⟩ := List.mem_flatMap.mp hrow
    exact length_of_mem_detailedRows hrow
  · rw [Csv.Marked]
    decide

theorem plain_documents (hr : r.Fits) (hf : ∀ x ∈ r.figures, x.isFinite = true) :
    Json.Plain r.metrics.toJson ∧ Json.Plain r.exitStatus.toJson :=
  ⟨ResourceMetrics.plain_toJson hr fun x hx => Json.readsBack_of_isFinite (hf x hx),
    ExitStatus.plain_toJson hr⟩

theorem tidyRecord (hr : r.Fits) (hf : ∀ x ∈ r.figures, x.isFinite = true) : TidyRecord r :=
  ⟨tidyDocument_metrics (plain_documents hr hf).1, tidyDocument_exitStatus (plain_documents hr hf).2⟩

/-- The metrics of a record are told by their texts and kinds. -/
theorem tidy_metricsOf (hr : r.Fits) (hf : ∀ x ∈ r.figures, x.isFinite = true) : Tidy (metricsOf r) := by
  obtain ⟨⟨fs, hfs, -, hmetrics⟩, ⟨gs, hgs, -, hstatus⟩⟩ := tidyRecord hr hf
  rw [metricsOf, hfs, hgs]
  exact List.forall_mem_append.mpr ⟨hmetrics, hstatus⟩

/-- The records that the rows of a detailed table are about. -/
def recordsOf? (rows : List (List String)) : Option (List RunRecord) :=
  (documentsOf? (blocks rows)).bind (·.mapM recordOf?)

theorem recordsOf?_detailedRows (hr : ∀ r ∈ records, r.Fits)
    (hf : ∀ r ∈ records, ∀ x ∈ r.figures, x.isFinite = true) :
    recordsOf? (records.flatMap detailedRows) = some (records.map RunRecord.stored) := by
  have htidy : ∀ r ∈ records, TidyRecord r := fun r hmem => tidyRecord (hr r hmem) (hf r hmem)
  rw [recordsOf?, blocks_detailedRows htidy, documentsOf?_blocksOf htidy, Option.bind_some, List.mapM_map]
  clear htidy hf
  induction records with
  | nil => rfl
  | cons r rs ih =>
    obtain ⟨hr, hrs⟩ := List.forall_mem_cons.mp hr
    rw [List.mapM_cons, Function.comp_apply, recordOf?_documents hr, ih hrs]
    rfl

/-- From the rows of a detailed table that is read again come both documents of each record, in order, and
the record with its message cut: records with one table are the same up to that, and no two values of a
metric are printed as one text of one kind. -/
theorem detailedTable_loses_nothing (hr : ∀ r ∈ records, r.Fits)
    (hf : ∀ r ∈ records, ∀ x ∈ r.figures, x.isFinite = true) :
    (tableFormat.read (detailedTable records).toUTF8).header = .ok detailedColumns ∧
      (∃ rows, (tableFormat.read (detailedTable records).toUTF8).rows.map (·.map Csv.Row.cells) =
          rows.map .ok ∧
        blocks rows = records.flatMap blocksOf ∧
        documentsOf? (blocks rows) =
          some (records.map fun r => (r.metrics.toJson.sorted, r.exitStatus.toJson.sorted)) ∧
        recordsOf? rows =
          some (records.map fun r => { r with message := Text.truncate r.message 500 })) ∧
      (∀ others : List RunRecord, (∀ r ∈ others, r.Fits) →
        (∀ r ∈ others, ∀ x ∈ r.figures, x.isFinite = true) →
          detailedTable others = detailedTable records →
          (others.map fun r => { r with message := Text.truncate r.message 500 }) =
            records.map fun r => { r with message := Text.truncate r.message 500 }) ∧
      ∀ r ∈ records, ∀ r' ∈ records, ∀ f ∈ metricsOf r, ∀ g ∈ metricsOf r',
        valueText f.2 = valueText g.2 → valueKind f.2 = valueKind g.2 → f.2 = g.2 := by
  have htidy : ∀ r ∈ records, TidyRecord r := fun r hmem => tidyRecord (hr r hmem) (hf r hmem)
  obtain ⟨hheader, hrows⟩ := read_detailedTable records
  have hblocks := blocks_detailedRows htidy
  refine ⟨hheader, ⟨_, hrows, hblocks, ?_, recordsOf?_detailedRows hr hf⟩, ?_, ?_⟩
  · rw [hblocks]
    exact documentsOf?_blocksOf htidy
  · intro others hr' hf' htable
    obtain ⟨-, hrows'⟩ := read_detailedTable others
    rw [htable, hrows] at hrows'
    have heq := List.map_injective_iff.mpr (fun _ _ h => Except.ok.inj h) hrows'
    have hrecords := recordsOf?_detailedRows hr hf
    rw [heq, recordsOf?_detailedRows hr' hf'] at hrecords
    exact Option.some.inj hrecords
  · intro r hmem r' hmem' f hmetric g hmetric' htext hkind
    obtain ⟨hplain, hsorted⟩ := tidy_metricsOf (hr r hmem) (hf r hmem) f hmetric
    obtain ⟨hplain', hsorted'⟩ := tidy_metricsOf (hr r' hmem') (hf r' hmem') g hmetric'
    rw [← hsorted, ← hsorted']
    exact sorted_eq_of_texts hplain hplain' htext hkind

/-- Two records of one run, one of them with a message that looks like a number. -/
theorem detailedTable_loses_nothing_sample :
    (∀ r ∈ [sampleRecord, { sampleRecord with message := "4.5" }], r.Fits) ∧
      (∀ r ∈ [sampleRecord, { sampleRecord with message := "4.5" }], ∀ x ∈ r.figures, x.isFinite = true) ∧
      ∃ rows, (tableFormat.read (detailedTable
          [sampleRecord, { sampleRecord with message := "4.5" }]).toUTF8).rows.map (·.map Csv.Row.cells) =
            rows.map .ok ∧
        recordsOf? rows = some [{ sampleRecord with message := Text.truncate sampleRecord.message 500 },
          { sampleRecord with message := "4.5" }] := by
  have hr : ∀ r ∈ [sampleRecord, { sampleRecord with message := "4.5" }], r.Fits := by
    have hfits := fits_sampleRecord
    simp only [List.forall_mem_cons, List.not_mem_nil, false_imp_iff, implies_true, and_true]
    exact ⟨hfits, ⟨hfits.endpoint, hfits.run, hfits.startedAt, hfits.finishedAt, hfits.searchBudget,
      hfits.exitCode, hfits.samples, hfits.artifacts, hfits.goals, hfits.errors⟩⟩
  have hf : ∀ r ∈ [sampleRecord, { sampleRecord with message := "4.5" }], ∀ x ∈ r.figures,
      x.isFinite = true := by decide
  obtain ⟨-, ⟨rows, hrows, -, -, hrecords⟩, -⟩ := detailedTable_loses_nothing hr hf
  exact ⟨hr, hf, rows, hrows, hrecords⟩

end SuiteBench.Report
