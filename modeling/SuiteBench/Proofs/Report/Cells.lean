import Mathlib.Data.List.Forall2
import SuiteBench.Proofs.Csv.RoundTrip
import SuiteBench.Proofs.Json.Numbers
import SuiteBench.Report.Checklist

/-!
# Proofs.Report.Cells — what the cells of the results table say

A row is put together from several parts by the places of its cells, and read by the names of the columns.
Under each name stands what the column says of the record.
-/

namespace SuiteBench.Report

variable {catalog : Option Catalog} {r : RunRecord} {row : List String} {name : String}

/-- The columns that the catalog fills in. -/
def catalogColumns : List String := ["service", "http_method", "endpoint_path", "controller_class"]

/-- The columns about a run of the generated tests, and the coverage of branches, which no tool reports. -/
def unmeasuredColumns : List String :=
  ["branch_coverage", "test_flakiness_rate", "test_exec_memory_mb", "test_exec_cpu_sec",
    "mean_test_exec_time_ms", "exec_time_std_dev_ms"]

/-- Whether a row says a text under the name of a column. -/
def Says (row : List String) (name text : String) : Prop := Csv.lookup resultColumns row name = some text

/-- Whether the cells of a row, found by the names of their columns, are about a record. -/
structure RowOf (catalog : Option Catalog) (r : RunRecord) (row : List String) : Prop where
  endpoint : Says row "endpoint_id" (Decimal.ofNat r.key.endpoint)
  listed : ∀ c e, catalog = some c → c.lookup r.key.endpoint = .ok e →
    Says row "service" e.service ∧ Says row "http_method" e.method.name ∧
      Says row "endpoint_path" e.path ∧ Says row "controller_class" e.controllerClass
  unlisted : (∀ c e, catalog = some c → c.lookup r.key.endpoint ≠ .ok e) →
    ∀ name ∈ catalogColumns, Says row name notAvailable
  run : Says row "run_number" (Decimal.ofNat r.key.run)
  status : Says row "generation_status" r.status.name
  duration : Says row "generation_time_sec" (Decimal.Layout.plain.text r.durationSeconds)
  sampled : 0 < r.resources.samples →
    Says row "generation_cpu_pct" (Decimal.Layout.plain.text r.resources.cpuAverage) ∧
      Says row "generation_memory_mb" (Decimal.Layout.plain.text r.resources.memoryPeak)
  cpu : Says row "generation_cpu_pct" notAvailable ↔ r.resources.samples = 0
  memory : Says row "generation_memory_mb" notAvailable ↔ r.resources.samples = 0
  tests : Says row "tests_generated" (Decimal.ofNat r.artifacts.tests)
  methods : Says row "test_methods_count" (Decimal.ofNat r.artifacts.methods)
  assertions : Says row "assertions_count" (Decimal.ofNat r.artifacts.assertions)
  coverage : ∀ x, r.coverage.coverage = some x → Says row "line_coverage" (Decimal.Layout.plain.text x)
  noCoverage : Says row "line_coverage" notAvailable ↔ r.coverage.coverage = none
  totalGoals : ∀ n, r.coverage.totalGoals = some n → Says row "total_goals" (Decimal.ofNat n)
  noTotalGoals : Says row "total_goals" notAvailable ↔ r.coverage.totalGoals = none
  coveredGoals : ∀ n, r.coverage.coveredGoals = some n → Says row "covered_goals" (Decimal.ofNat n)
  noCoveredGoals : Says row "covered_goals" notAvailable ↔ r.coverage.coveredGoals = none
  exitCode : Says row "exit_code" (Decimal.ofInt r.exitCode)
  diagnosis : Says row "error_type" r.diagnosis.label
  message : Says row "error_message" (String.ofList (r.message.toList.take 200))
  qualitative : ∀ name ∈ qualitativeColumns, Says row name notAvailable
  ranWithoutError : Says row "runs_without_error" (flagCell (r.exitCode = 0 ∧ ¬r.timedOut))
  threwErrors : Says row "threw_errors" (flagCell (r.exitCode ≠ 0 ∧ ¬r.timedOut))
  timedOut : Says row "timed_out" (flagCell r.timedOut)
  hungUp : Says row "hung_up" (flagCell r.timedOut)
  anomalies : ∃ text, Says row "runtime_anomalies" text ∧ (text ≠ "" ↔ r.exitCode ≠ 0 ∧ ¬r.timedOut) ∧
    (text = "" ∨ text = r.diagnosis.label)
  unmeasured : ∀ name ∈ unmeasuredColumns, Says row name notAvailable
  evaluation : Says row completeColumn (flagCell false) ∧ Says row "evaluator_notes" ""

theorem says_iff {text other : String} (h : Says row name text) :
    Says row name other ↔ text = other := by
  rw [Says] at h ⊢
  rw [h, Option.some_inj]

/-! ### Texts that are not the marker of a missing value -/

theorem ofNat_ne_notAvailable (n : Nat) : Decimal.ofNat n ≠ notAvailable := fun h => by
  have hnumeric := Json.numeric_ofNat n
  rw [h] at hnumeric
  exact absurd hnumeric (by decide)

/-- No double is written like the marker. -/
theorem plain_ne_notAvailable (x : Float) : Decimal.Layout.plain.text x ≠ notAvailable := by
  intro h
  have hcases := Json.text_cases (l := Decimal.Layout.plain) (by decide) x
  rw [h] at hcases
  exact absurd hcases (by decide)

theorem cellOf_eq_notAvailable_iff {α : Type} {f : α → String} (hf : ∀ a, f a ≠ notAvailable)
    {a? : Option α} : cellOf f a? = notAvailable ↔ a? = none := by
  cases a? <;> simp [cellOf, hf]

theorem label_ne_empty (d : Diagnosis) : d.label ≠ "" := by cases d <;> decide

theorem flagCell_congr {b : Bool} {p : Prop} [Decidable p] (h : b = true ↔ p) :
    flagCell b = flagCell (decide p) := by
  rw [← decide_eq_true_iff (p := p), Bool.coe_iff_coe] at h
  rw [h]

theorem ranWithoutError_iff (r : RunRecord) : r.ranWithoutError = true ↔ r.exitCode = 0 ∧ ¬r.timedOut := by
  simp [RunRecord.ranWithoutError]

theorem threwErrors_iff (r : RunRecord) : r.threwErrors = true ↔ r.exitCode ≠ 0 ∧ ¬r.timedOut := by
  simp [RunRecord.threwErrors]

/-! ### The row of a record -/

/-- What a row says that depends on whether the run was sampled. -/
theorem sampledCell_eq_iff (samples : Nat) (x : Float) :
    (if 0 < samples then Decimal.Layout.plain.text x else notAvailable) = notAvailable ↔ samples = 0 := by
  split
  · next h => simp [plain_ne_notAvailable, h.ne']
  · next h => simpa using h

/-- The cells of a row are those of its record. -/
theorem rowOf_resultRow (catalog : Option Catalog) (r : RunRecord) :
    RowOf catalog r (resultRow catalog r) where
  endpoint := rfl
  listed c e hc he := by
    have hendpoint : (catalog.bind fun c => (c.lookup r.key.endpoint).toOption) = some e := by
      rw [hc, Option.bind_some, he, Except.toOption]
    have hcell : ∀ f : Endpoint → String,
        cellOf f (catalog.bind fun c => (c.lookup r.key.endpoint).toOption) = f e := fun f => by
      rw [hendpoint, cellOf]
    exact ⟨congrArg some (hcell (·.service)), congrArg some (hcell (·.method.name)),
      congrArg some (hcell (·.path)), congrArg some (hcell (·.controllerClass))⟩
  unlisted h name hname := by
    have hendpoint : (catalog.bind fun c => (c.lookup r.key.endpoint).toOption) = none := by
      cases catalog with
      | none => rfl
      | some c =>
        cases he : c.lookup r.key.endpoint with
        | ok e => exact absurd he (h c e rfl)
        | error f => rw [Option.bind_some, he, Except.toOption]
    have hcell : ∀ f : Endpoint → String,
        cellOf f (catalog.bind fun c => (c.lookup r.key.endpoint).toOption) = notAvailable := fun f => by
      rw [hendpoint, cellOf]
    simp only [catalogColumns, List.mem_cons, List.not_mem_nil, or_false] at hname
    rcases hname with rfl | rfl | rfl | rfl
    all_goals exact congrArg some (hcell _)
  run := rfl
  status := rfl
  duration := rfl
  sampled h := ⟨congrArg some (if_pos h), congrArg some (if_pos h)⟩
  cpu := Iff.trans (says_iff rfl) (sampledCell_eq_iff _ _)
  memory := Iff.trans (says_iff rfl) (sampledCell_eq_iff _ _)
  tests := rfl
  methods := rfl
  assertions := rfl
  coverage x h := congrArg (some ∘ cellOf Decimal.Layout.plain.text) h
  noCoverage := Iff.trans (says_iff rfl) (cellOf_eq_notAvailable_iff plain_ne_notAvailable)
  totalGoals n h := congrArg (some ∘ cellOf Decimal.ofNat) h
  noTotalGoals := Iff.trans (says_iff rfl) (cellOf_eq_notAvailable_iff ofNat_ne_notAvailable)
  coveredGoals n h := congrArg (some ∘ cellOf Decimal.ofNat) h
  noCoveredGoals := Iff.trans (says_iff rfl) (cellOf_eq_notAvailable_iff ofNat_ne_notAvailable)
  exitCode := rfl
  diagnosis := rfl
  message := rfl
  qualitative name hname := by
    simp only [qualitativeColumns, List.mem_cons, List.not_mem_nil, or_false] at hname
    rcases hname with rfl | rfl | rfl | rfl | rfl | rfl | rfl | rfl | rfl | rfl | rfl <;> rfl
  ranWithoutError := congrArg some (flagCell_congr (ranWithoutError_iff r))
  threwErrors := congrArg some (flagCell_congr (threwErrors_iff r))
  timedOut := rfl
  hungUp := rfl
  anomalies := by
    refine ⟨if r.threwErrors then r.diagnosis.label else "", rfl, ?_⟩
    rw [← threwErrors_iff]
    cases r.threwErrors <;> simp [label_ne_empty]
  unmeasured name hname := by
    simp only [unmeasuredColumns, List.mem_cons, List.not_mem_nil, or_false] at hname
    rcases hname with rfl | rfl | rfl | rfl | rfl | rfl <;> rfl
  evaluation := ⟨rfl, rfl⟩

/-! ### The table -/

theorem length_resultRow (catalog : Option Catalog) (r : RunRecord) :
    (resultRow catalog r).length = resultColumns.length := rfl

theorem not_marked_resultColumns : ¬ Csv.Marked resultColumns := by
  rw [Csv.Marked]
  decide

/-- The results table is read with a row for each record. -/
theorem read_resultsTable (catalog : Option Catalog) (records : List RunRecord) :
    (tableFormat.read (resultsTable catalog records).toUTF8).header = .ok resultColumns ∧
      (tableFormat.read (resultsTable catalog records).toUTF8).rows.map (·.map Csv.Row.cells) =
        (records.map (resultRow catalog)).map .ok := by
  refine Csv.read_write (o := tableFormat) rfl rfl (by decide) (fun r hr => ?_)
    not_marked_resultColumns
  obtain ⟨x, -, rfl⟩ := List.mem_map.mp hr
  exact length_resultRow catalog x

/-- A results table that is read again has a row for each record, in order, and each cell, found by the
name of its column, is that of the record. -/
theorem resultsTable_rows (catalog : Option Catalog) (records : List RunRecord) :
    (tableFormat.read (resultsTable catalog records).toUTF8).header = .ok resultColumns ∧
      resultColumns.Nodup ∧
      ∃ rows, (tableFormat.read (resultsTable catalog records).toUTF8).rows.map
          (·.map Csv.Row.cells) = rows.map .ok ∧
        List.Forall₂ (RowOf catalog) records rows := by
  obtain ⟨hheader, hrows⟩ := read_resultsTable catalog records
  refine ⟨hheader, by decide, _, hrows, ?_⟩
  rw [List.forall₂_map_right_iff, List.forall₂_same]
  exact fun r _ => rowOf_resultRow catalog r

end SuiteBench.Report
