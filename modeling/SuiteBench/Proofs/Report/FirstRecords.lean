import Mathlib.Logic.Relation
import SuiteBench.Proofs.Report.Missing

/-!
# Proofs.Report.FirstRecords — what an aggregate depends on

Sorting keeps the records of one run in their order and of these the first stands, so an aggregate is
made of the first record of each run of its endpoint and of nothing else.  Records of other endpoints,
further records of a run and, where no run has two, the order do not matter.
-/

namespace SuiteBench

namespace Report

variable {endpoint n : Nat} {k : RunKey} {rs rs' : List RunRecord} {r : RunRecord}

/-- The first record of a run. -/
def firstRecord? (k : RunKey) (rs : List RunRecord) : Option RunRecord := rs.find? fun r => r.key = k

/-! ### The runs of an endpoint -/

/-- Of neighbours of the same number the first stands. -/
theorem find?_dropRepeatedRuns (n : Nat) (rs : List RunRecord) :
    (dropRepeatedRuns rs).find? (fun r => r.key.run = n) = rs.find? fun r => r.key.run = n := by
  induction rs with
  | nil => rfl
  | cons r rs ih =>
    rw [dropRepeatedRuns, List.find?_cons, ← ih]
    cases dropRepeatedRuns rs with
    | nil => rw [List.find?_cons]
    | cons s ss =>
      dsimp only
      split
      · next heq => by_cases hr : r.key.run = n <;> simp [hr, ← heq]
      · rw [List.find?_cons]

/-- Sorting keeps the records of one run in their order. -/
theorem filter_mergeSort_run (n : Nat) (rs : List RunRecord) :
    (rs.mergeSort fun a b => a.key.run ≤ b.key.run).filter (fun r => r.key.run = n) =
      rs.filter fun r => r.key.run = n := by
  have hsame : (rs.filter fun r => r.key.run = n).Pairwise fun a b =>
      decide (a.key.run ≤ b.key.run) = true := by
    refine List.pairwise_of_forall_mem_list fun a ha b hb => ?_
    have ha : a.key.run = n := by simpa using (List.mem_filter.mp ha).2
    have hb : b.key.run = n := by simpa using (List.mem_filter.mp hb).2
    simp [ha, hb]
  have hsub := (List.sublist_mergeSort (fun a b c hab hbc => by
      simp only [decide_eq_true_eq] at hab hbc ⊢
      exact hab.trans hbc) (fun a b => by simpa using Nat.le_total a.key.run b.key.run)
    hsame List.filter_sublist).filter fun r => r.key.run = n
  rw [List.filter_filter] at hsub
  simp only [Bool.and_self] at hsub
  exact (hsub.eq_of_length ((List.mergeSort_perm rs _).filter _).length_eq.symm).symm

theorem find?_runsOf (endpoint n : Nat) (rs : List RunRecord) :
    (runsOf endpoint rs).find? (fun r => r.key.run = n) = firstRecord? ⟨endpoint, n⟩ rs := by
  rw [runsOf, find?_dropRepeatedRuns, ← List.head?_filter, filter_mergeSort_run, List.head?_filter,
    List.find?_filter, firstRecord?]
  simp only [decide_eq_true_eq, RunKey.ext_iff]

/-- An aggregate is about the first record of each run of its endpoint. -/
theorem mem_runsOf_iff :
    r ∈ runsOf endpoint rs ↔ r.key.endpoint = endpoint ∧ firstRecord? r.key rs = some r := by
  have hfind : r ∈ runsOf endpoint rs ↔ firstRecord? ⟨endpoint, r.key.run⟩ rs = some r := by
    rw [← find?_runsOf]
    constructor
    · intro hr
      cases hf : (runsOf endpoint rs).find? fun s => s.key.run = r.key.run with
      | none => simpa using List.find?_eq_none.mp hf r hr
      | some s =>
        have hrun : s.key.run = r.key.run := by simpa using List.find?_some hf
        rw [List.inj_on_of_nodup_map (nodup_runsOf endpoint rs) (List.mem_of_find?_eq_some hf) hr hrun]
    · exact List.mem_of_find?_eq_some
  rw [hfind]
  constructor
  · intro h
    have hkey : r.key = ⟨endpoint, r.key.run⟩ := by simpa using List.find?_some h
    exact ⟨congrArg RunKey.endpoint hkey, hkey.symm ▸ h⟩
  · rintro ⟨rfl, h⟩
    exact h

/-- The first records decide the runs, their order included. -/
theorem runsOf_congr (h : ∀ n, firstRecord? ⟨endpoint, n⟩ rs = firstRecord? ⟨endpoint, n⟩ rs') :
    runsOf endpoint rs = runsOf endpoint rs' := by
  have hmem : ∀ r, r ∈ runsOf endpoint rs ↔ r ∈ runsOf endpoint rs' := fun r => by
    rw [mem_runsOf_iff, mem_runsOf_iff]
    refine and_congr_right fun hr => ?_
    subst hr
    rw [h r.key.run]
  have hnodup : ∀ rs, (runsOf endpoint rs).Nodup := fun rs => .of_map _ (nodup_runsOf endpoint rs)
  refine List.Perm.eq_of_pairwise (fun a b _ _ hab hba => absurd hab (Nat.lt_asymm hba))
    (pairwise_runsOf endpoint rs) (pairwise_runsOf endpoint rs') ?_
  exact (List.perm_ext_iff_of_nodup (hnodup rs) (hnodup rs')).mpr hmem

/-! ### Changes that do not matter -/

/-- A change of a list of records that tells nothing else about the runs of an endpoint. -/
inductive Immaterial (endpoint : Nat) : List RunRecord → List RunRecord → Prop
  /-- Another order, where no run of the endpoint has two records. -/
  | reordered {rs rs' : List RunRecord} (perm : rs.Perm rs')
      (distinct : ((rs.filter fun r => r.key.endpoint = endpoint).map (·.key.run)).Nodup) :
      Immaterial endpoint rs rs'
  /-- One more record of another endpoint, anywhere. -/
  | foreign (front back : List RunRecord) {r : RunRecord} (other : r.key.endpoint ≠ endpoint) :
      Immaterial endpoint (front ++ back) (front ++ r :: back)
  /-- One more record of a run, behind another of this run. -/
  | repeated (front back : List RunRecord) {r s : RunRecord} (earlier : s ∈ front)
      (same : s.key = r.key) : Immaterial endpoint (front ++ back) (front ++ r :: back)

/-- Where no run has two records each record is the first. -/
theorem firstRecord?_eq_some_iff
    (h : ((rs.filter fun r => r.key.endpoint = endpoint).map (·.key.run)).Nodup) :
    firstRecord? ⟨endpoint, n⟩ rs = some r ↔ r ∈ rs ∧ r.key = ⟨endpoint, n⟩ := by
  refine ⟨fun hr => ⟨List.mem_of_find?_eq_some hr, by simpa using List.find?_some hr⟩, ?_⟩
  rintro ⟨hr, hk⟩
  cases hf : firstRecord? ⟨endpoint, n⟩ rs with
  | none => simpa [hk] using List.find?_eq_none.mp hf r hr
  | some s =>
    have hs : s.key = ⟨endpoint, n⟩ := by simpa using List.find?_some hf
    have hown : ∀ x ∈ rs, x.key = ⟨endpoint, n⟩ → x ∈ rs.filter fun r => r.key.endpoint = endpoint :=
      fun x hx hk => List.mem_filter.mpr ⟨hx, by simp [hk]⟩
    rw [List.inj_on_of_nodup_map h (hown s (List.mem_of_find?_eq_some hf) hs) (hown r hr hk)
      (congrArg RunKey.run (hs.trans hk.symm))]

/-- One more record changes no first record that it is not itself. -/
theorem firstRecord?_insert {front back : List RunRecord}
    (h : r.key = k → ∃ s ∈ front, s.key = k) :
    firstRecord? k (front ++ r :: back) = firstRecord? k (front ++ back) := by
  rw [firstRecord?, firstRecord?, List.find?_append, List.find?_append, List.find?_cons]
  by_cases hk : r.key = k
  · obtain ⟨s, hs, hsk⟩ := h hk
    have hfront : (front.find? fun x => x.key = k).isSome = true :=
      List.find?_isSome.mpr ⟨s, hs, by simpa using hsk⟩
    obtain ⟨x, hx⟩ := Option.isSome_iff_exists.mp hfront
    rw [hx, Option.some_or, Option.some_or]
  · simp [hk]

theorem Immaterial.firstRecord?_eq (h : Immaterial endpoint rs rs') (n : Nat) :
    firstRecord? ⟨endpoint, n⟩ rs = firstRecord? ⟨endpoint, n⟩ rs' := by
  cases h with
  | reordered perm distinct =>
    have distinct' := (((perm.filter _).map _).nodup_iff).mp distinct
    refine Option.ext fun r => ?_
    rw [firstRecord?_eq_some_iff distinct, firstRecord?_eq_some_iff distinct', perm.mem_iff]
  | foreign front back other =>
    exact (firstRecord?_insert fun hk => absurd (congrArg RunKey.endpoint hk) other).symm
  | repeated front back earlier same =>
    exact (firstRecord?_insert fun hk => ⟨_, earlier, same.trans hk⟩).symm

/-- Whatever series of immaterial changes leads from one list of records to another, forth or back,
the aggregates are the same, and so are their texts. -/
theorem aggregate_immaterial (h : Relation.EqvGen (Immaterial endpoint) rs rs')
    (expected : Option Nat) :
    aggregate endpoint expected rs = aggregate endpoint expected rs' ∧
      (aggregate endpoint expected rs).text = (aggregate endpoint expected rs').text := by
  have hruns : runsOf endpoint rs = runsOf endpoint rs' := by
    induction h with
    | rel _ _ hone => exact runsOf_congr hone.firstRecord?_eq
    | refl _ => rfl
    | symm _ _ _ ih => exact ih.symm
    | trans _ _ _ _ _ ih ih' => exact ih.trans ih'
  have hagg : aggregate endpoint expected rs = aggregate endpoint expected rs' :=
    congrArg (ofRuns endpoint expected) hruns
  exact ⟨hagg, congrArg EndpointAggregate.text hagg⟩

/-- The sample record as that of another run, with another exit code. -/
def recordAt (k : RunKey) (code : Int) : RunRecord := { sampleRecord with key := k, exitCode := code }

/-- Two runs in turn, then the second in front with a foreign record and another of the second run. -/
theorem aggregate_immaterial_sample :
    Relation.EqvGen (Immaterial 3) [recordAt ⟨3, 7⟩ 0, recordAt ⟨3, 8⟩ 1]
      [recordAt ⟨3, 8⟩ 1, recordAt ⟨4, 7⟩ 2, recordAt ⟨3, 7⟩ 0, recordAt ⟨3, 8⟩ 0] ∧
    aggregate 3 (some 9) [recordAt ⟨3, 7⟩ 0, recordAt ⟨3, 8⟩ 1] = aggregate 3 (some 9)
      [recordAt ⟨3, 8⟩ 1, recordAt ⟨4, 7⟩ 2, recordAt ⟨3, 7⟩ 0, recordAt ⟨3, 8⟩ 0] := by
  have hswap : Immaterial 3 [recordAt ⟨3, 7⟩ 0, recordAt ⟨3, 8⟩ 1]
      [recordAt ⟨3, 8⟩ 1, recordAt ⟨3, 7⟩ 0] := .reordered (.swap _ _ _) (by decide)
  have hforeign : Immaterial 3 [recordAt ⟨3, 8⟩ 1, recordAt ⟨3, 7⟩ 0]
      [recordAt ⟨3, 8⟩ 1, recordAt ⟨4, 7⟩ 2, recordAt ⟨3, 7⟩ 0] :=
    .foreign [recordAt ⟨3, 8⟩ 1] [recordAt ⟨3, 7⟩ 0] (by decide)
  have hrepeated : Immaterial 3 [recordAt ⟨3, 8⟩ 1, recordAt ⟨4, 7⟩ 2, recordAt ⟨3, 7⟩ 0]
      [recordAt ⟨3, 8⟩ 1, recordAt ⟨4, 7⟩ 2, recordAt ⟨3, 7⟩ 0, recordAt ⟨3, 8⟩ 0] :=
    .repeated [recordAt ⟨3, 8⟩ 1, recordAt ⟨4, 7⟩ 2, recordAt ⟨3, 7⟩ 0] [] List.mem_cons_self rfl
  have hall := (Relation.EqvGen.rel _ _ hswap).trans _ _ _
    ((Relation.EqvGen.rel _ _ hforeign).trans _ _ _ (.rel _ _ hrepeated))
  exact ⟨hall, (aggregate_immaterial hall (some 9)).1⟩

end Report

end SuiteBench
