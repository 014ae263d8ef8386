import Mathlib.Data.List.Nodup
import SuiteBench.Proofs.Json.FieldOrder
import SuiteBench.Proofs.Moment.Text
import SuiteBench.Run.Halves

/-!
# Proofs.Run.Documents — the two documents of a record read back

A record whose figures lie within the ranges of their fields is written as two plain documents, and
each is decoded to the half that it was made of.
-/

namespace SuiteBench

namespace Json

/-- The fields of an object are those of a structure if they carry its names. -/
theorem structure?_object {names : List String} {fs : List (String × Json)}
    (h : fs.map (·.1) = names) (hn : names.Nodup) : structure? names (.object fs) = some fs := by
  subst h
  have hk : (fs.filter fun f => (fs.map (·.1)).contains f.1) = fs := by
    rw [List.filter_eq_self]
    intro f hf
    simpa using ⟨f.2, hf⟩
  have hone : ((fs.map (·.1)).all fun n => (fs.filter fun f => f.1 == n).length ≤ 1) = true := by
    rw [List.all_eq_true]
    intro n hm
    have hc := List.nodup_iff_count_le_one.mp hn n
    rw [List.count, List.countP_map] at hc
    rw [decide_eq_true_eq, ← List.countP_eq_length_filter]
    exact hc
  rw [structure?]
  simp only [hk, hone, if_true]

theorem Fields.required_cons {α : Type} (m : String) (j : Json) (fs : Fields) (n : String)
    (decode : Json → Option α) :
    Fields.required ((m, j) :: fs) n decode =
      if n = m then decode j else Fields.required fs n decode := by
  simp only [Fields.required, List.lookup_cons]
  by_cases h : n = m
  · simp [h]
  · have hb : (n == m) = false := by simpa using h
    simp only [hb, h, if_false]

theorem Fields.optional_cons {α : Type} (m : String) (j : Json) (fs : Fields) (n : String) (a : α)
    (decode : Json → Option α) :
    Fields.optional ((m, j) :: fs) n a decode =
      if n = m then decode j else Fields.optional fs n a decode := by
  simp only [Fields.optional, List.lookup_cons]
  by_cases h : n = m
  · simp [h]
  · have hb : (n == m) = false := by simpa using h
    simp only [hb, h, if_false]

end Json

namespace RunRecord

/-- The doubles of a record. -/
def figures (r : RunRecord) : List Float :=
  r.durationSeconds :: r.resources.cpuAverage :: r.resources.memoryPeak :: r.coverage.coverage.toList

/-- Whether the figures of a record lie within the ranges of their fields. -/
structure Fits (r : RunRecord) : Prop where
  endpoint : r.key.endpoint ≤ Decimal.max32
  run : r.key.run ≤ Decimal.max32
  startedAt : r.startedAt.WellFormed
  finishedAt : r.finishedAt.WellFormed
  searchBudget : r.searchBudget ≤ Decimal.max64
  exitCode : -(Decimal.maxSigned32 + 1 : Int) ≤ r.exitCode ∧ r.exitCode ≤ Decimal.maxSigned32
  samples : r.resources.samples ≤ Decimal.max64
  artifacts : r.artifacts.tests ≤ Decimal.max32 ∧ r.artifacts.methods ≤ Decimal.max32 ∧
    r.artifacts.assertions ≤ Decimal.max32
  goals : (∀ n ∈ r.coverage.totalGoals, n ≤ Decimal.max64) ∧
    ∀ n ∈ r.coverage.coveredGoals, n ≤ Decimal.max64
  errors : r.errorCounts.total ≤ Decimal.max32 ∧ r.errorCounts.missingPackages ≤ Decimal.max32 ∧
    r.errorCounts.missingSymbols ≤ Decimal.max32

theorem fits_iff {r : RunRecord} : r.Fits ↔
    (r.key.endpoint ≤ Decimal.max32 ∧ r.key.run ≤ Decimal.max32) ∧
      (r.startedAt.WellFormed ∧ r.finishedAt.WellFormed) ∧
      (r.searchBudget ≤ Decimal.max64 ∧ -(Decimal.maxSigned32 + 1 : Int) ≤ r.exitCode ∧
        r.exitCode ≤ Decimal.maxSigned32 ∧ r.resources.samples ≤ Decimal.max64) ∧
      (r.artifacts.tests ≤ Decimal.max32 ∧ r.artifacts.methods ≤ Decimal.max32 ∧
        r.artifacts.assertions ≤ Decimal.max32) ∧
      ((∀ n ∈ r.coverage.totalGoals, n ≤ Decimal.max64) ∧
        ∀ n ∈ r.coverage.coveredGoals, n ≤ Decimal.max64) ∧
      r.errorCounts.total ≤ Decimal.max32 ∧ r.errorCounts.missingPackages ≤ Decimal.max32 ∧
        r.errorCounts.missingSymbols ≤ Decimal.max32 :=
  ⟨fun ⟨a, b, c, d, e, f, g, h, i, j⟩ => ⟨⟨a, b⟩, ⟨c, d⟩, ⟨e, f.1, f.2, g⟩, h, i, j⟩,
    fun ⟨⟨a, b⟩, ⟨c, d⟩, ⟨e, f, f', g⟩, h, i, j⟩ => ⟨a, b, c, d, e, ⟨f, f'⟩, g, h, i, j⟩⟩

instance (r : RunRecord) : Decidable r.Fits := decidable_of_iff _ fits_iff.symm

end RunRecord

/-! ### Figures -/

theorem Moment.ofJson?_text {m : Moment} (h : m.WellFormed) :
    Moment.ofJson? (.string m.text) = some m := by
  rw [Moment.ofJson?, Json.text?, Option.bind_some, Moment.read?_text h]

theorem Json.nat?_ofNat {bound n : Nat} (h : n ≤ bound) : Json.nat? bound (.ofNat n) = some n := by
  rw [Json.ofNat, Json.nat?, if_pos h]

theorem Json.int?_ofInt {bound : Nat} {n : Int} (h : -(bound + 1 : Int) ≤ n ∧ n ≤ bound) :
    Json.int? bound (.ofInt n) = some n := by
  unfold Json.ofInt
  split
  · rw [Json.int?, if_pos (by omega)]
    exact congrArg some (by omega)
  · rw [Json.int?, if_pos (by omega)]
    exact congrArg some (by omega)

theorem figure?_figureJson {α : Type} {encode : α → Json} {decode : Json → Option α} {a : Option α}
    (h : ∀ x ∈ a, decode (encode x) = some x)
    (hn : ∀ x ∈ a, encode x ≠ .null ∧ ∀ s, encode x ≠ .string s) :
    figure? decode (figureJson encode a) = some a := by
  cases a with
  | none => rfl
  | some x =>
    have hx := h x rfl
    obtain ⟨h0, hs⟩ := hn x rfl
    rw [figureJson]
    unfold figure?
    split
    · next he => exact absurd he h0
    · next he => exact absurd he (hs _)
    · rw [hx]
      rfl

theorem figure?_ofNat {bound : Nat} {a : Option Nat} (h : ∀ n ∈ a, n ≤ bound) :
    figure? (Json.nat? bound) (figureJson .ofNat a) = some a :=
  figure?_figureJson (fun n hn => Json.nat?_ofNat (h n hn)) (by simp [Json.ofNat])

theorem figure?_ofFloat (a : Option Float) :
    figure? Json.float? (figureJson .ofFloat a) = some a :=
  figure?_figureJson (by simp [Json.float?, Json.ofFloat]) (by simp [Json.ofFloat])

/-! ### Plain documents -/

theorem Json.plain_ofNat {n : Nat} (h : n ≤ Decimal.max64) : Json.Plain (.ofNat n) :=
  Json.numberReads_nat h

theorem Json.plain_ofFloat {x : Float} (h : Json.ReadsBack x) : Json.Plain (.ofFloat x) :=
  Json.numberReads_float h

theorem Json.plain_ofInt {n : Int}
    (h : -(Decimal.maxSigned32 + 1 : Int) ≤ n ∧ n ≤ Decimal.maxSigned32) : Json.Plain (.ofInt n) := by
  simp only [Decimal.maxSigned32] at h
  unfold Json.ofInt
  split
  · exact Json.numberReads_negative (by omega) (by simp only [Decimal.maxSigned64]; omega)
  · exact Json.numberReads_nat (by simp only [Decimal.max64]; omega)

theorem plain_figureJson {α : Type} {encode : α → Json} {a : Option α}
    (h : ∀ x ∈ a, Json.Plain (encode x)) : Json.Plain (figureJson encode a) := by
  cases a with
  | none => trivial
  | some x => exact h x rfl

theorem le_max64 {n : Nat} (h : n ≤ Decimal.max32) : n ≤ Decimal.max64 := h.trans (by decide)

theorem ResourceMetrics.plain_toJson {r : RunRecord} (h : r.Fits)
    (hf : ∀ x ∈ r.figures, Json.ReadsBack x) : Json.Plain r.metrics.toJson := by
  obtain ⟨hd, hc, hm, hv⟩ : Json.ReadsBack r.durationSeconds ∧
      Json.ReadsBack r.resources.cpuAverage ∧ Json.ReadsBack r.resources.memoryPeak ∧
      ∀ x ∈ r.coverage.coverage, Json.ReadsBack x := by simpa [RunRecord.figures] using hf
  obtain ⟨h1, h2, h3⟩ := h.artifacts
  exact ⟨Json.plain_ofNat (le_max64 h.endpoint), Json.plain_ofNat (le_max64 h.run), trivial, trivial,
    Json.plain_ofFloat hd, Json.plain_ofNat h.searchBudget, Json.plain_ofFloat hc,
    Json.plain_ofFloat hm, Json.plain_ofNat h.samples, Json.plain_ofNat (le_max64 h1),
    Json.plain_ofNat (le_max64 h2), Json.plain_ofNat (le_max64 h3),
    plain_figureJson fun x hx => Json.plain_ofFloat (hv x hx),
    plain_figureJson fun n hn => Json.plain_ofNat (h.goals.1 n hn),
    plain_figureJson fun n hn => Json.plain_ofNat (h.goals.2 n hn), trivial⟩

theorem ExitStatus.plain_toJson {r : RunRecord} (h : r.Fits) : Json.Plain r.exitStatus.toJson := by
  obtain ⟨h1, h2, h3⟩ := h.errors
  exact ⟨Json.plain_ofNat (le_max64 h.endpoint), Json.plain_ofNat (le_max64 h.run), trivial,
    Json.plain_ofInt h.exitCode, trivial, trivial, trivial, trivial, trivial, trivial,
    ⟨Json.plain_ofNat (le_max64 h1), Json.plain_ofNat (le_max64 h2), Json.plain_ofNat (le_max64 h3),
      trivial⟩, trivial⟩

/-! ### Halves -/

theorem ErrorCounts.ofJson?_toJson {c : ErrorCounts} (h : c.total ≤ Decimal.max32 ∧
    c.missingPackages ≤ Decimal.max32 ∧ c.missingSymbols ≤ Decimal.max32) :
    ErrorCounts.ofJson? c.toJson = some c := by
  obtain ⟨h1, h2, h3⟩ := h
  rw [ErrorCounts.ofJson?, ErrorCounts.toJson, Json.structure?_object]
  · simp only [Json.Fields.required_cons, String.reduceEq, if_true, if_false, Json.nat?_ofNat h1,
      Json.nat?_ofNat h2, Json.nat?_ofNat h3, Option.bind_eq_bind, Option.bind_some]
  · rfl
  · simp

/-- The first half of a record reads back. -/
theorem ResourceMetrics.ofJson?_toJson {r : RunRecord} (h : r.Fits) :
    ResourceMetrics.ofJson? r.metrics.toJson = some r.metrics := by
  obtain ⟨h1, h2, h3⟩ := h.artifacts
  rw [ResourceMetrics.ofJson?, ResourceMetrics.toJson, Json.structure?_object]
  · rw [Option.bind_eq_bind, Option.bind_some]
    dsimp only [RunRecord.metrics]
    simp only [Json.Fields.required_cons, Json.Fields.optional_cons, String.reduceEq, if_true,
      if_false]
    have hfloat : ∀ x, (Json.ofFloat x).float? = some x := fun _ => rfl
    simp only [Json.nat?_ofNat h.endpoint, Json.nat?_ofNat h.run, Moment.ofJson?_text h.startedAt,
      Moment.ofJson?_text h.finishedAt, hfloat, Json.nat?_ofNat h.searchBudget,
      Json.nat?_ofNat h.samples, Json.nat?_ofNat h1, Json.nat?_ofNat h2, Json.nat?_ofNat h3,
      figure?_ofFloat, figure?_ofNat h.goals.1, figure?_ofNat h.goals.2, Option.bind_eq_bind,
      Option.bind_some]
  · rfl
  · simp [ResourceMetrics.fieldNames]

/-- The second half of a record reads back. -/
theorem ExitStatus.ofJson?_toJson {r : RunRecord} (h : r.Fits) :
    ExitStatus.ofJson? r.exitStatus.toJson = some r.exitStatus := by
  rw [ExitStatus.ofJson?, ExitStatus.toJson, Json.structure?_object]
  · rw [Option.bind_eq_bind, Option.bind_some]
    dsimp only [RunRecord.exitStatus]
    simp only [Json.Fields.required_cons, Json.Fields.optional_cons, String.reduceEq, if_true,
      if_false]
    have hs : ∀ s : GenerationStatus,
        Json.named? GenerationStatus.ofName? (.string s.name) = some s := GenerationStatus.ofName?_name
    have hd : ∀ d : Diagnosis,
        Json.named? Diagnosis.ofLabel? (.string d.label) = some d := Diagnosis.ofLabel?_label
    simp only [Json.nat?_ofNat h.endpoint, Json.nat?_ofNat h.run, hs, hd,
      Json.int?_ofInt h.exitCode, Json.bool?, Json.text?, ErrorCounts.ofJson?_toJson h.errors,
      Option.bind_eq_bind, Option.bind_some]
  · rfl
  · simp [ExitStatus.fieldNames]

/-! ### The order of fields -/

theorem Moment.blind_ofJson? : Json.Blind Moment.ofJson? := fun j => by
  rw [Moment.ofJson?, Moment.ofJson?, Json.blind_text? j]

theorem blind_figure? {α : Type} {decode : Json → Option α} (h : Json.Blind decode) :
    Json.Blind (figure? decode) := fun j => by
  cases j with
  | array xs => exact congrArg (Option.map some) (h (.array xs))
  | object fs => exact congrArg (Option.map some) (h (.object fs))
  | _ => rfl

theorem ErrorCounts.blind_ofJson? : Json.Blind ErrorCounts.ofJson? := by
  intro j
  rw [ErrorCounts.ofJson?, ErrorCounts.ofJson?]
  rcases Json.structure?_sorted ["total_errors", "missing_packages", "missing_symbols"] j with
    ⟨hnone, hnone'⟩ | ⟨fs, gs, hfs, hgs, hlookup⟩
  · rw [hnone, hnone']
  · rw [hfs, hgs, Option.bind_eq_bind, Option.bind_some, Option.bind_some]
    simp only [(Json.blind_nat? Decimal.max32).required (hlookup _)]

theorem ResourceMetrics.blind_ofJson? : Json.Blind ResourceMetrics.ofJson? := by
  intro j
  rw [ResourceMetrics.ofJson?, ResourceMetrics.ofJson?]
  rcases Json.structure?_sorted ResourceMetrics.fieldNames j with
    ⟨hnone, hnone'⟩ | ⟨fs, gs, hfs, hgs, hlookup⟩
  · rw [hnone, hnone']
  · rw [hfs, hgs, Option.bind_eq_bind, Option.bind_some, Option.bind_some]
    simp only [(Json.blind_nat? Decimal.max32).required (hlookup _),
      (Json.blind_nat? Decimal.max64).required (hlookup _),
      Moment.blind_ofJson?.required (hlookup _), Json.blind_float?.required (hlookup _),
      (Json.blind_nat? Decimal.max64).optional (hlookup _),
      (blind_figure? Json.blind_float?).optional (hlookup _),
      (blind_figure? (Json.blind_nat? Decimal.max64)).optional (hlookup _)]

theorem ExitStatus.blind_ofJson? : Json.Blind ExitStatus.ofJson? := by
  intro j
  rw [ExitStatus.ofJson?, ExitStatus.ofJson?]
  rcases Json.structure?_sorted ExitStatus.fieldNames j with
    ⟨hnone, hnone'⟩ | ⟨fs, gs, hfs, hgs, hlookup⟩
  · rw [hnone, hnone']
  · rw [hfs, hgs, Option.bind_eq_bind, Option.bind_some, Option.bind_some]
    simp only [(Json.blind_nat? Decimal.max32).required (hlookup _),
      (Json.blind_named? GenerationStatus.ofName?).required (hlookup _),
      (Json.blind_int? Decimal.maxSigned32).required (hlookup _), Json.blind_bool?.required (hlookup _),
      Json.blind_bool?.optional (hlookup _), (Json.blind_named? Diagnosis.ofLabel?).required (hlookup _),
      Json.blind_text?.optional (hlookup _), ErrorCounts.blind_ofJson?.optional (hlookup _)]

end SuiteBench
