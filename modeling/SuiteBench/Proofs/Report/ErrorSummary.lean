import SuiteBench.Proofs.Report.Counts
import SuiteBench.Proofs.Report.FirstRecords

/-!
# Proofs.Report.ErrorSummary — what went wrong in the runs of an endpoint

The failures of some runs are counted by their diagnosis.  The most frequent one is found by going
through the counts in the order of the taxonomy and giving the first place up only to a greater count, so
that the first of equally frequent failures keeps it.  Messages are gathered run by run.
-/

namespace SuiteBench

/-! ### The first place of each element -/

section Firsts

variable {α : Type} [DecidableEq α] {xs ys : List α} {x : α}

/-- Whether `ys` holds the elements of `xs` once each, in the order of their first places. -/
structure FirstsOf (xs ys : List α) : Prop where
  nodup : ys.Nodup
  mem : ∀ y, y ∈ ys ↔ y ∈ xs
  order : ys.Pairwise fun a b => xs.idxOf a < xs.idxOf b

theorem firstsOf_nil : FirstsOf ([] : List α) [] := ⟨.nil, fun _ => Iff.rfl, .nil⟩

theorem FirstsOf.repeated (h : FirstsOf xs ys) (hx : x ∈ ys) : FirstsOf (xs ++ [x]) ys where
  nodup := h.nodup
  mem y := by
    rw [List.mem_append, List.mem_singleton, ← h.mem]
    exact ⟨.inl, fun hy => hy.elim id fun heq => heq ▸ hx⟩
  order := h.order.imp_of_mem fun ha hb hab => by
    rwa [List.idxOf_append_of_mem ((h.mem _).mp ha), List.idxOf_append_of_mem ((h.mem _).mp hb)]

theorem FirstsOf.fresh (h : FirstsOf xs ys) (hx : x ∉ ys) :
    FirstsOf (xs ++ [x]) (ys ++ [x]) where
  nodup := List.nodup_append.mpr ⟨h.nodup, List.nodup_singleton x, fun a ha b hb => by
    obtain rfl := List.mem_singleton.mp hb
    exact fun hax => hx (hax ▸ ha)⟩
  mem y := by rw [List.mem_append, List.mem_append, h.mem]
  order := by
    have hnew : x ∉ xs := fun hmem => hx ((h.mem x).mpr hmem)
    refine List.pairwise_append.mpr ⟨?_, List.pairwise_singleton _ x, fun a ha b hb => ?_⟩
    · exact h.order.imp_of_mem fun ha hb hab => by
        rwa [List.idxOf_append_of_mem ((h.mem _).mp ha), List.idxOf_append_of_mem ((h.mem _).mp hb)]
    · obtain rfl := List.mem_singleton.mp hb
      have ha' := (h.mem a).mp ha
      rw [List.idxOf_append_of_mem ha', List.idxOf_append_of_notMem hnew]
      exact (List.idxOf_lt_length_of_mem ha').trans_le (Nat.le_add_right _ _)

end Firsts

namespace DiagnosisCounts

variable {cs : DiagnosisCounts} {d : Diagnosis} {b x : Diagnosis × Nat}

/-- Whether a count leads a list of counts: none is greater, and equal ones stand behind it. -/
structure Leads (cs : DiagnosisCounts) (b : Diagnosis × Nat) : Prop where
  mem : b ∈ cs
  greatest : ∀ x ∈ cs, x.2 ≤ b.2
  first : ∀ x ∈ cs, x.2 = b.2 → b.1.rank ≤ x.1.rank

theorem leads_singleton (x : Diagnosis × Nat) : Leads [x] x where
  mem := List.mem_singleton_self x
  greatest y hy := by rw [List.mem_singleton.mp hy]
  first y hy _ := by rw [List.mem_singleton.mp hy]

theorem Leads.keep (h : Leads cs b) (hle : x.2 ≤ b.2) (hlater : b.1.rank < x.1.rank) :
    Leads (cs ++ [x]) b where
  mem := List.mem_append_left _ h.mem
  greatest y hy := by
    rcases List.mem_append.mp hy with hy | hy
    · exact h.greatest y hy
    · exact List.mem_singleton.mp hy ▸ hle
  first y hy heq := by
    rcases List.mem_append.mp hy with hy | hy
    · exact h.first y hy heq
    · exact List.mem_singleton.mp hy ▸ hlater.le

theorem Leads.give (h : Leads cs b) (hlt : b.2 < x.2) : Leads (cs ++ [x]) x where
  mem := List.mem_append_right _ (List.mem_singleton_self x)
  greatest y hy := by
    rcases List.mem_append.mp hy with hy | hy
    · exact (h.greatest y hy).trans hlt.le
    · rw [List.mem_singleton.mp hy]
  first y hy heq := by
    rcases List.mem_append.mp hy with hy | hy
    · have := h.greatest y hy
      omega
    · rw [List.mem_singleton.mp hy]

/-- The count that is held after one more. -/
def better (best : Option (Diagnosis × Nat)) (x : Diagnosis × Nat) : Option (Diagnosis × Nat) :=
  match best with
  | some (d, n) => if x.2 ≤ n then some (d, n) else some x
  | none => some x

theorem mostFrequent_eq (cs : DiagnosisCounts) :
    Report.mostFrequent cs = ((cs.foldl better none).map (·.1)).getD .noError := by
  change (match cs.foldl better none with | some (d, _) => d | none => .noError) = _
  cases cs.foldl better none <;> rfl

/-- What is held of counts in the order of the taxonomy leads them. -/
theorem leads_foldl_better (h : cs.Pairwise fun x y => x.1.rank < y.1.rank) (hne : cs ≠ []) :
    ∃ b, cs.foldl better none = some b ∧ Leads cs b := by
  induction cs using List.reverseRecOn with
  | nil => exact absurd rfl hne
  | append_singleton cs x ih =>
    obtain ⟨hasc, -, hlater⟩ := List.pairwise_append.mp h
    rw [List.foldl_append, List.foldl_cons, List.foldl_nil]
    by_cases hnil : cs = []
    · subst hnil
      exact ⟨x, rfl, leads_singleton x⟩
    · obtain ⟨b, hb, hleads⟩ := ih hasc hnil
      rw [hb, better]
      split
      · next hle =>
        exact ⟨b, rfl, hleads.keep hle (hlater b hleads.mem x (List.mem_singleton_self x))⟩
      · next hgt => exact ⟨x, rfl, hleads.give (Nat.lt_of_not_le hgt)⟩

theorem leads_mostFrequent (h : cs.Pairwise fun x y => x.1.rank < y.1.rank) (hne : cs ≠ []) :
    ∃ n, Leads cs (Report.mostFrequent cs, n) := by
  obtain ⟨b, hb, hleads⟩ := leads_foldl_better h hne
  refine ⟨b.2, ?_⟩
  rw [mostFrequent_eq, hb]
  exact hleads

example : Report.mostFrequent [(.compilation, 2), (.timeout, 2), (.outOfMemory, 1)] = .compilation := by
  decide

end DiagnosisCounts

namespace Report

variable {rs : List RunRecord}

/-- How many of some records carry a diagnosis. -/
def occurrences (rs : List RunRecord) (d : Diagnosis) : Nat := rs.countP (·.diagnosis = d)

/-- The messages of some records that hold something, trimmed. -/
def messagesOf (rs : List RunRecord) : List String :=
  (rs.map fun r => Text.trim r.message).filter fun m => !m.isEmpty

/-- Gathering messages keeps each once, in the order in which they come first. -/
theorem firstsOf_gathered (ms : List String) :
    FirstsOf (ms.filter fun m => !m.isEmpty) (ms.foldl (fun acc m =>
      if m.isEmpty || acc.contains m then acc else acc ++ [m]) []) := by
  induction ms using List.reverseRecOn with
  | nil => exact firstsOf_nil
  | append_singleton ms m ih =>
    rw [List.foldl_append, List.foldl_cons, List.foldl_nil, List.filter_append]
    by_cases hempty : m.isEmpty = true
    · simpa [hempty] using ih
    · have hkept : [m].filter (fun m => !m.isEmpty) = [m] := by simp [hempty]
      rw [hkept]
      split
      · next hold => exact ih.repeated (by simpa [hempty] using hold)
      · next hnew => exact ih.fresh (by simpa [hempty] using hnew)

theorem isFailure_iff {d : Diagnosis} : d.isFailure = true ↔ d ≠ .noError := by cases d <;> decide

/-- A failure is counted as often as some record carries it. -/
theorem mem_failures_iff {d : Diagnosis} {n : Nat} :
    (d, n) ∈ failures rs ↔ d.isFailure = true ∧ 0 < n ∧ n = occurrences rs d := by
  rw [(ordered_failures rs).mem_iff, count_failures, occurrences]
  cases hd : d.isFailure with
  | true =>
    have hsame : rs.countP (fun r => r.diagnosis.isFailure && decide (r.diagnosis = d)) =
        rs.countP fun r => decide (r.diagnosis = d) :=
      List.countP_congr fun r _ => by
        rw [Bool.and_eq_true, decide_eq_true_eq]
        exact and_iff_right_of_imp fun heq => heq ▸ hd
    rw [hsame]
    simp [eq_comm]
  | false =>
    have hnone : rs.countP (fun r => r.diagnosis.isFailure && decide (r.diagnosis = d)) = 0 := by
      refine List.countP_eq_zero.mpr fun r _ h => ?_
      rw [Bool.and_eq_true, decide_eq_true_eq] at h
      rw [h.2, hd] at h
      exact Bool.noConfusion h.1
    rw [hnone]
    simp only [Bool.false_eq_true, false_and, iff_false]
    omega

theorem failures_eq_nil_iff : failures rs = [] ↔ ∀ r ∈ rs, r.diagnosis.isFailure = false := by
  rw [List.eq_nil_iff_forall_not_mem]
  constructor
  · intro h r hr
    by_contra hfailure
    have hpos : 0 < occurrences rs r.diagnosis :=
      List.countP_pos_iff.mpr ⟨r, hr, decide_eq_true rfl⟩
    exact h _ (mem_failures_iff.mpr ⟨by simpa using hfailure, hpos, rfl⟩)
  · rintro h ⟨d, n⟩ hx
    obtain ⟨hd, hn, rfl⟩ := mem_failures_iff.mp hx
    obtain ⟨r, hr, heq⟩ := List.countP_pos_iff.mp hn
    rw [← of_decide_eq_true heq, h r hr] at hd
    exact Bool.noConfusion hd

/-- Whether an error summary tells of records in the order of their runs what they say. -/
structure Tells (rs : List RunRecord) (e : ErrorSummary) : Prop where
  /-- Just the failures that occur are counted, as often as they occur. -/
  counts : ∀ d n, (d, n) ∈ e.diagnoses ↔ d.isFailure = true ∧ 0 < n ∧ n = occurrences rs d
  ordered : e.diagnoses.Pairwise fun x y => x.1.rank < y.1.rank
  noError : e.primary = .noError ↔ ∀ r ∈ rs, r.diagnosis.isFailure = false
  /-- No failure is more frequent than the primary one. -/
  greatest : e.primary ≠ .noError → ∀ d, d.isFailure = true →
    occurrences rs d ≤ occurrences rs e.primary
  /-- Of equally frequent ones it is the first in the taxonomy. -/
  first : e.primary ≠ .noError → ∀ d, d.isFailure = true →
    occurrences rs d = occurrences rs e.primary → e.primary.rank ≤ d.rank
  messages : ∃ ms, FirstsOf (messagesOf rs) ms ∧ e.messages = ms.take 5

theorem tells_errorSummary (rs : List RunRecord) : Tells rs (errorSummary rs) := by
  have hordered := ordered_failures rs
  have hmessages : ∃ ms, FirstsOf (messagesOf rs) ms ∧ (errorSummary rs).messages = ms.take 5 :=
    ⟨_, firstsOf_gathered _, rfl⟩
  by_cases hnil : failures rs = []
  · have hprimary : (errorSummary rs).primary = .noError := by
      change mostFrequent (failures rs) = _
      rw [hnil]
      rfl
    exact {
      counts := fun d n => mem_failures_iff
      ordered := hordered.ascending
      noError := iff_of_true hprimary (failures_eq_nil_iff.mp hnil)
      greatest := fun h => absurd hprimary h
      first := fun h => absurd hprimary h
      messages := hmessages }
  · obtain ⟨n, hleads⟩ := DiagnosisCounts.leads_mostFrequent hordered.ascending hnil
    obtain ⟨hfailure, hn, rfl⟩ := mem_failures_iff.mp hleads.mem
    exact {
      counts := fun d n => mem_failures_iff
      ordered := hordered.ascending
      noError := iff_of_false (isFailure_iff.mp hfailure) fun h => hnil (failures_eq_nil_iff.mpr h)
      -- a failure that does not occur is not counted, and less frequent than one that does
      greatest := fun _ d hd => by
        rcases Nat.eq_zero_or_pos (occurrences rs d) with hzero | hpos
        · exact hzero ▸ Nat.zero_le _
        · exact hleads.greatest _ (mem_failures_iff.mpr ⟨hd, hpos, rfl⟩)
      first := fun _ d hd heq =>
        hleads.first _ (mem_failures_iff.mpr ⟨hd, heq ▸ hn, rfl⟩) heq
      messages := hmessages }

/-- The error summary of an endpoint, of which each run has one record, tells what these say: just the
failures that occur with their counts, the most frequent of them, and the first five messages. -/
theorem errors_of_distinct_runs {endpoint : Nat} (expected : Option Nat) {rs : List RunRecord}
    (hown : ∀ r ∈ rs, r.key.endpoint = endpoint) (hruns : (rs.map (·.key.run)).Nodup) :
    ∃ runs, runs.Perm rs ∧ (runs.Pairwise fun a b => a.key.run < b.key.run) ∧
      Tells runs (aggregate endpoint expected rs).errors := by
  have hkeys : (rs.map (·.key)).Nodup := by
    refine List.Nodup.of_map RunKey.run ?_
    rwa [List.map_map]
  have hall : (rs.filter fun r => r.key.endpoint = endpoint) = rs :=
    List.filter_eq_self.mpr fun r hr => decide_eq_true (hown r hr)
  have hperm := runsOf_perm hkeys endpoint
  rw [hall] at hperm
  exact ⟨runsOf endpoint rs, hperm, pairwise_runsOf endpoint rs, tells_errorSummary _⟩

/-- A run with a diagnosis and a message. -/
def failedAt (run : Nat) (d : Diagnosis) (message : String) : RunRecord :=
  { recordAt ⟨3, run⟩ 1 with diagnosis := d, message := message }

/-- Two failures that occur twice each, among other runs, and a message that comes again. -/
def tiedRecords : List RunRecord :=
  [failedAt 9 .timeout "late", failedAt 4 .compilation " x ", failedAt 7 .timeout "y",
    failedAt 2 .noError " ", failedAt 5 .compilation "x", failedAt 8 .outOfMemory "z"]

theorem errors_of_distinct_runs_tied :
    (∀ r ∈ tiedRecords, r.key.endpoint = 3) ∧ (tiedRecords.map (·.key.run)).Nodup ∧
      ∃ runs, runs.Perm tiedRecords ∧ (runs.Pairwise fun a b => a.key.run < b.key.run) ∧
        Tells runs (aggregate 3 none tiedRecords).errors := by
  have hown : ∀ r ∈ tiedRecords, r.key.endpoint = 3 := by decide
  have hruns : (tiedRecords.map (·.key.run)).Nodup := by decide
  exact ⟨hown, hruns, errors_of_distinct_runs none hown hruns⟩

end Report

end SuiteBench
