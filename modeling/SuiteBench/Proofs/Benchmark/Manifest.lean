import SuiteBench.Benchmark.Manifest
import SuiteBench.Proofs.Report.Counts
import SuiteBench.Proofs.Run.Documents

/-!
# Proofs.Benchmark.Manifest — a manifest reads back

A manifest whose figures lie within the ranges of their fields is written as a plain document, which is
decoded to the manifest again.  Its counts by diagnosis are an object with a field for each label, so
that they read back only because they stand in the order of the taxonomy.
-/

namespace SuiteBench

namespace Json

theorem list?_array {α : Type} {decode : Json → Option α} {encode : α → Json} :
    ∀ {xs : List α}, (∀ x ∈ xs, decode (encode x) = some x) →
      list? decode (.array (xs.map encode)) = some xs
  | [], _ => rfl
  | x :: xs, h => by
    obtain ⟨hx, hxs⟩ := List.forall_mem_cons.mp h
    have ih : (xs.map encode).mapM decode = some xs := list?_array hxs
    rw [list?, List.map_cons, List.mapM_cons, hx, ih]
    rfl

theorem plainItems_map {α : Type} {encode : α → Json} :
    ∀ {xs : List α}, (∀ x ∈ xs, Plain (encode x)) → PlainItems (xs.map encode)
  | [], _ => trivial
  | _ :: _, h =>
    have ⟨hx, hxs⟩ := List.forall_mem_cons.mp h
    ⟨hx, plainItems_map hxs⟩

end Json

/-! ### Counts -/

namespace DiagnosisCounts

variable {cs done left : DiagnosisCounts} {d : Diagnosis} {n : Nat}

/-- A count of a diagnosis that comes after all others is put at the end. -/
theorem put_last : ∀ {cs : DiagnosisCounts}, (∀ x ∈ cs, x.1.rank < d.rank) →
    put d n cs = cs ++ [(d, n)]
  | [], _ => rfl
  | x :: cs, h => by
    obtain ⟨hx, hcs⟩ := List.forall_mem_cons.mp h
    have hne : d ≠ x.1 := fun he => absurd hx (he ▸ Nat.lt_irrefl _)
    rw [put, if_neg hne, if_neg (by omega), put_last hcs, List.cons_append]

/-- One field of the counts is read. -/
def putField (cs : DiagnosisCounts) (f : String × Json) : Option DiagnosisCounts :=
  (Diagnosis.ofLabel? f.1).bind fun d => (Json.nat? Decimal.max32 f.2).map fun n => put d n cs

theorem ofJson?_object (fs : List (String × Json)) : ofJson? (.object fs) = fs.foldlM putField [] := by
  rw [ofJson?]
  congr 1
  funext cs ⟨k, v⟩
  rw [putField]
  dsimp only
  cases Diagnosis.ofLabel? k with
  | none => rfl
  | some d => cases Json.nat? Decimal.max32 v <;> rfl

theorem foldlM_putField : ∀ {left done : DiagnosisCounts}, (done ++ left).Ordered →
    (∀ x ∈ left, x.2 ≤ Decimal.max32) →
      (left.map fun x => (x.1.label, Json.ofNat x.2)).foldlM putField done = some (done ++ left)
  | [], done, _, _ => by
    rw [List.append_nil]
    rfl
  | x :: left, done, ho, hn => by
    obtain ⟨hx, hleft⟩ := List.forall_mem_cons.mp hn
    have hlast : ∀ y ∈ done, y.1.rank < x.1.rank := fun y hy =>
      (List.pairwise_append.mp ho.ascending).2.2 y hy x List.mem_cons_self
    have hput : putField done (x.1.label, .ofNat x.2) = some (done ++ [x]) := by
      rw [putField, Diagnosis.ofLabel?_label, Json.nat?_ofNat hx]
      exact congrArg some (put_last hlast)
    have hsplit : done ++ x :: left = (done ++ [x]) ++ left := by simp
    rw [hsplit] at ho ⊢
    rw [List.map_cons, List.foldlM_cons, hput]
    exact foldlM_putField ho hleft

theorem ofJson?_toJson (ho : cs.Ordered) (hn : ∀ x ∈ cs, x.2 ≤ Decimal.max32) :
    ofJson? cs.toJson = some cs := by
  rw [toJson, ofJson?_object]
  exact foldlM_putField ho hn

theorem plain_toJson : ∀ {cs : DiagnosisCounts}, (∀ x ∈ cs, x.2 ≤ Decimal.max32) →
    Json.Plain cs.toJson
  | [], _ => trivial
  | _ :: _, h =>
    have ⟨hx, hcs⟩ := List.forall_mem_cons.mp h
    ⟨Json.plain_ofNat (le_max64 hx), plain_toJson hcs⟩

end DiagnosisCounts

namespace RunTally

/-- Whether the counts of a tally lie within the ranges of their fields. -/
structure Fits (t : RunTally) : Prop where
  recorded : t.recorded ≤ Decimal.max32
  successful : t.successful ≤ Decimal.max32
  failed : t.failed ≤ Decimal.max32
  timedOut : t.timedOut ≤ Decimal.max32
  skipped : t.skipped ≤ Decimal.max32
  diagnoses : ∀ x ∈ t.diagnoses, x.2 ≤ Decimal.max32

variable {t : RunTally}

theorem fits_iff : t.Fits ↔ (t.recorded ≤ Decimal.max32 ∧ t.successful ≤ Decimal.max32 ∧
    t.failed ≤ Decimal.max32) ∧ t.timedOut ≤ Decimal.max32 ∧ t.skipped ≤ Decimal.max32 ∧
      ∀ x ∈ t.diagnoses, x.2 ≤ Decimal.max32 :=
  ⟨fun ⟨a, b, c, d, e, f⟩ => ⟨⟨a, b, c⟩, d, e, f⟩, fun ⟨⟨a, b, c⟩, d, e, f⟩ => ⟨a, b, c, d, e, f⟩⟩

instance (t : RunTally) : Decidable t.Fits := decidable_of_iff _ fits_iff.symm

theorem ofJson?_toJson (h : t.Fits) (ho : t.diagnoses.Ordered) : ofJson? t.toJson = some t := by
  rw [ofJson?, toJson, Json.structure?_object]
  · simp only [Json.Fields.required_cons, String.reduceEq, if_true, if_false,
      Json.nat?_ofNat h.recorded, Json.nat?_ofNat h.successful, Json.nat?_ofNat h.failed,
      Json.nat?_ofNat h.timedOut, Json.nat?_ofNat h.skipped,
      DiagnosisCounts.ofJson?_toJson ho h.diagnoses, Option.bind_eq_bind, Option.bind_some]
  · rfl
  · simp

theorem plain_toJson (h : t.Fits) : Json.Plain t.toJson :=
  ⟨Json.plain_ofNat (le_max64 h.recorded), Json.plain_ofNat (le_max64 h.successful),
    Json.plain_ofNat (le_max64 h.failed), Json.plain_ofNat (le_max64 h.timedOut),
    Json.plain_ofNat (le_max64 h.skipped), DiagnosisCounts.plain_toJson h.diagnoses, trivial⟩

end RunTally

/-! ### The whole manifest -/

/-- Whether the numbers of a key lie within the ranges of their fields. -/
def RunKey.Fits (k : RunKey) : Prop := k.endpoint ≤ Decimal.max32 ∧ k.run ≤ Decimal.max32

instance (k : RunKey) : Decidable k.Fits := inferInstanceAs (Decidable (_ ∧ _))

theorem RunKey.ofJson?_toJson {k : RunKey} (h : k.Fits) : ofJson? k.toJson = some k := by
  rw [ofJson?, toJson, Json.structure?_object]
  · simp only [Json.Fields.required_cons, String.reduceEq, if_true, if_false, Json.nat?_ofNat h.1,
      Json.nat?_ofNat h.2, Option.bind_eq_bind, Option.bind_some]
  · rfl
  · simp

theorem RunKey.plain_toJson {k : RunKey} (h : k.Fits) : Json.Plain k.toJson :=
  ⟨Json.plain_ofNat (le_max64 h.1), Json.plain_ofNat (le_max64 h.2), trivial⟩

namespace Manifest

/-- Whether the figures of a manifest lie within the ranges of their fields. -/
structure Fits (m : Manifest) : Prop where
  endpointIds : ∀ id ∈ m.endpointIds, id ≤ Decimal.max32
  runsPerEndpoint : m.runsPerEndpoint ≤ Decimal.max32
  searchBudget : m.searchBudget ≤ Decimal.max64
  startedAt : m.startedAt.WellFormed
  finishedAt : ∀ t ∈ m.finishedAt, t.WellFormed
  recordedRuns : m.recordedRuns ≤ Decimal.max64
  skippedRuns : ∀ k ∈ m.skippedRuns, k.Fits
  tally : m.tally.Fits

variable {m : Manifest}

theorem fits_iff : m.Fits ↔ ((∀ id ∈ m.endpointIds, id ≤ Decimal.max32) ∧
    m.runsPerEndpoint ≤ Decimal.max32 ∧ m.searchBudget ≤ Decimal.max64) ∧
      (m.startedAt.WellFormed ∧ ∀ t ∈ m.finishedAt, t.WellFormed) ∧
        m.recordedRuns ≤ Decimal.max64 ∧ (∀ k ∈ m.skippedRuns, k.Fits) ∧ m.tally.Fits :=
  ⟨fun ⟨a, b, c, d, e, f, g, i⟩ => ⟨⟨a, b, c⟩, ⟨d, e⟩, f, g, i⟩,
    fun ⟨⟨a, b, c⟩, ⟨d, e⟩, f, g, i⟩ => ⟨a, b, c, d, e, f, g, i⟩⟩

instance (m : Manifest) : Decidable m.Fits := decidable_of_iff _ fits_iff.symm

theorem nullable?_moment {t : Option Moment} (h : ∀ x ∈ t, x.WellFormed) :
    Json.nullable? Moment.ofJson? (Json.ofOption (fun x => .string x.text) t) = some t := by
  cases t with
  | none => rfl
  | some x =>
    rw [Json.ofOption, Json.nullable?, Moment.ofJson?_text (h x rfl)]
    · rfl
    · simp

theorem ofJson?_toJson (h : m.Fits) (ho : m.tally.diagnoses.Ordered) :
    ofJson? m.toJson = some m := by
  rw [ofJson?, toJson, Json.structure?_object]
  · rw [Option.bind_eq_bind, Option.bind_some]
    simp only [Json.Fields.required_cons, Json.Fields.optional_cons, String.reduceEq, if_true,
      if_false]
    simp only [Json.text?, Json.bool?, Json.nat?_ofNat h.runsPerEndpoint,
      Json.nat?_ofNat h.searchBudget, Json.nat?_ofNat h.recordedRuns,
      Moment.ofJson?_text h.startedAt, nullable?_moment h.finishedAt,
      Json.list?_array fun id hid => Json.nat?_ofNat (h.endpointIds id hid),
      Json.list?_array fun k hk => RunKey.ofJson?_toJson (h.skippedRuns k hk),
      RunTally.ofJson?_toJson h.tally ho, Option.bind_eq_bind, Option.bind_some]
  · rfl
  · simp

theorem plain_toJson (h : m.Fits) : Json.Plain m.toJson := by
  have hfinished : Json.Plain (Json.ofOption (fun x : Moment => .string x.text) m.finishedAt) := by
    cases m.finishedAt <;> trivial
  exact ⟨trivial, Json.plainItems_map fun id hid => Json.plain_ofNat (le_max64 (h.endpointIds id hid)),
    Json.plain_ofNat (le_max64 h.runsPerEndpoint), Json.plain_ofNat h.searchBudget, trivial, hfinished,
    Json.plain_ofNat h.recordedRuns,
    Json.plainItems_map fun k hk => RunKey.plain_toJson (h.skippedRuns k hk), trivial,
    RunTally.plain_toJson h.tally, trivial⟩

/-- A manifest is read back from its file. -/
theorem ofBytes?_fileText (h : m.Fits) (ho : m.tally.diagnoses.Ordered) :
    (Json.ofBytes? m.toJson.fileText).bind ofJson? = some m := by
  rw [Json.ofBytes?_fileText (plain_toJson h), Option.bind_some, ofJson?_toJson h ho]

end Manifest

end SuiteBench
