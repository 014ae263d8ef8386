import Mathlib.Algebra.BigOperators.Group.List.Basic
import Mathlib.Algebra.Ring.Nat
import Mathlib.Data.List.Nodup
import SuiteBench.Proofs.Store.Tree
import SuiteBench.Report.Aggregate

/-!
# Proofs.Report.Counts — what an aggregate counts

Putting a count down changes the count of its diagnosis alone and keeps the order of the taxonomy, so
that the failures of some records are counted once each, and nothing is counted that does not occur.
Aggregating sorts the records of an endpoint and drops repeated runs.  Where no run occurs twice nothing is
dropped, so that the aggregates of all endpoints together count every record once.
-/

namespace SuiteBench

/-! ### Counts by diagnosis -/

namespace Diagnosis

theorem rank_injective {a b : Diagnosis} (h : a.rank = b.rank) : a = b := by
  cases a <;> cases b <;> first | rfl | cases h

end Diagnosis

namespace DiagnosisCounts

variable {cs cs' : DiagnosisCounts} {d e : Diagnosis} {n : Nat}

/-- Whether the diagnoses stand in the order of the taxonomy, each once and with a positive count. -/
structure Ordered (cs : DiagnosisCounts) : Prop where
  ascending : cs.Pairwise fun x y => x.1.rank < y.1.rank
  positive : ∀ x ∈ cs, 0 < x.2

theorem count_cons (x : Diagnosis × Nat) (cs : DiagnosisCounts) (e : Diagnosis) :
    count (x :: cs) e = if e = x.1 then x.2 else count cs e := by
  obtain ⟨a, n⟩ := x
  rw [count, count, List.lookup_cons]
  by_cases h : e = a
  · simp [h]
  · simp [h, beq_eq_false_iff_ne.mpr h]

theorem count_eq_zero (h : ∀ x ∈ cs, x.1 ≠ d) : count cs d = 0 := by
  induction cs with
  | nil => rfl
  | cons x cs ih =>
    obtain ⟨hx, hcs⟩ := List.forall_mem_cons.mp h
    rw [count_cons, if_neg hx.symm, ih hcs]

theorem count_put (cs : DiagnosisCounts) (d e : Diagnosis) (n : Nat) :
    (put d n cs).count e = if e = d then n else cs.count e := by
  induction cs with
  | nil => exact count_cons (d, n) [] e
  | cons x cs ih =>
    rw [put]
    split
    · next hd =>
      rw [count_cons, count_cons, ← hd]
      split <;> rfl
    · next hd =>
      split
      · rw [count_cons]
      · rw [count_cons, count_cons, ih]
        by_cases he : e = x.1
        · have hne : e ≠ d := fun hed => hd (hed.symm.trans he)
          rw [if_pos he, if_neg hne, if_pos he]
        · rw [if_neg he, if_neg he]

theorem count_add (cs : DiagnosisCounts) (d e : Diagnosis) :
    (cs.add d).count e = cs.count e + if d = e then 1 else 0 := by
  rw [add, count_put]
  by_cases h : d = e
  · simp [h]
  · simp [h, Ne.symm h]

theorem mem_put {x : Diagnosis × Nat} (h : x ∈ put d n cs) : x = (d, n) ∨ x ∈ cs := by
  induction cs with
  | nil => exact .inl (List.mem_singleton.mp h)
  | cons y cs ih =>
    rw [put] at h
    split at h
    · rcases List.mem_cons.mp h with h | h
      · exact .inl h
      · exact .inr (List.mem_cons_of_mem _ h)
    · split at h
      · rcases List.mem_cons.mp h with h | h
        · exact .inl h
        · exact .inr h
      · rcases List.mem_cons.mp h with h | h
        · exact .inr (h ▸ List.mem_cons_self)
        · exact (ih h).imp_right (List.mem_cons_of_mem _)

theorem Ordered.put (h : Ordered cs) (hn : 0 < n) : Ordered (put d n cs) := by
  refine ⟨?_, fun x hx => ?_⟩
  · have hasc := h.ascending
    clear h
    induction cs with
    | nil => exact List.pairwise_singleton _ _
    | cons y cs ih =>
      obtain ⟨hy, hcs⟩ := List.pairwise_cons.mp hasc
      rw [DiagnosisCounts.put]
      split
      · next hd => exact List.pairwise_cons.mpr ⟨fun x hx => hd ▸ hy x hx, hcs⟩
      · next hd =>
        split
        · next hlt =>
          refine List.pairwise_cons.mpr ⟨fun x hx => ?_, hasc⟩
          rcases List.mem_cons.mp hx with rfl | hx
          · exact hlt
          · exact Nat.lt_trans hlt (hy x hx)
        · next hge =>
          refine List.pairwise_cons.mpr ⟨fun x hx => ?_, ih hcs⟩
          rcases mem_put hx with rfl | hx
          · have hne : y.1.rank ≠ d.rank := fun he => hd (Diagnosis.rank_injective he).symm
            dsimp only
            omega
          · exact hy x hx
  · rcases mem_put hx with rfl | hx
    · exact hn
    · exact h.positive x hx

theorem Ordered.add (h : Ordered cs) : Ordered (cs.add d) := h.put (Nat.succ_pos _)

theorem Ordered.mem_iff (h : Ordered cs) : (d, n) ∈ cs ↔ 0 < n ∧ cs.count d = n := by
  have hnodup : (cs.map Prod.fst).Nodup :=
    List.pairwise_map.mpr (h.ascending.imp fun hlt heq => hlt.ne (congrArg Diagnosis.rank heq))
  rw [← Tree.lookup_eq_some_iff_mem hnodup, count]
  constructor
  · intro hlookup
    exact ⟨h.positive _ ((Tree.lookup_eq_some_iff_mem hnodup).mp hlookup), by rw [hlookup]; rfl⟩
  · rintro ⟨hn, rfl⟩
    cases hlookup : cs.lookup d with
    | none => simp [hlookup] at hn
    | some m => rfl

/-- Counts are told by what they count of each diagnosis. -/
theorem Ordered.ext (h : Ordered cs) (h' : Ordered cs') (hcount : ∀ d, cs.count d = cs'.count d) :
    cs = cs' := by
  have hnodup : ∀ {cs : DiagnosisCounts}, Ordered cs → cs.Nodup := fun h =>
    h.ascending.imp fun hlt heq => hlt.ne (congrArg (fun x => x.1.rank) heq)
  have hperm : cs.Perm cs' := (List.perm_ext_iff_of_nodup (hnodup h) (hnodup h')).mpr fun x => by
    rw [h.mem_iff, h'.mem_iff, hcount]
  exact hperm.eq_of_pairwise (fun x y _ _ hxy hyx => absurd hxy hyx.asymm) h.ascending h'.ascending

/-- Putting a count down changes the sum by what it adds to the count that stood there. -/
theorem Ordered.sum_put (h : Ordered cs) :
    ((DiagnosisCounts.put d n cs).map Prod.snd).sum + cs.count d = (cs.map Prod.snd).sum + n := by
  have hasc := h.ascending
  clear h
  induction cs with
  | nil => exact Nat.add_comm n 0 ▸ rfl
  | cons x cs ih =>
    obtain ⟨hx, hcs⟩ := List.pairwise_cons.mp hasc
    have hih := ih hcs
    rw [DiagnosisCounts.put, count_cons]
    split
    · simp only [List.map_cons, List.sum_cons]
      omega
    · split
      · next hlt =>
        have hnone : count cs d = 0 := count_eq_zero fun y hy heq =>
          absurd (heq ▸ hx y hy) (Nat.lt_asymm hlt)
        simp only [List.map_cons, List.sum_cons]
        omega
      · simp only [List.map_cons, List.sum_cons]
        omega

theorem Ordered.sum_add (h : Ordered cs) :
    ((cs.add d).map Prod.snd).sum = (cs.map Prod.snd).sum + 1 := by
  have hput := h.sum_put (d := d) (n := cs.count d + 1)
  rw [DiagnosisCounts.add]
  omega

end DiagnosisCounts

namespace Report

open DiagnosisCounts

theorem count_foldl_add (rs : List RunRecord) (cs : DiagnosisCounts) (d : Diagnosis) :
    (rs.foldl (fun cs r => cs.add r.diagnosis) cs).count d =
      cs.count d + rs.countP (·.diagnosis = d) := by
  induction rs generalizing cs with
  | nil => rfl
  | cons r rs ih =>
    rw [List.foldl_cons, ih, count_add, List.countP_cons]
    simp only [decide_eq_true_eq]
    omega

/-- Each failure is counted as often as it occurs. -/
theorem count_failures (rs : List RunRecord) (d : Diagnosis) :
    (failures rs).count d = rs.countP fun r => r.diagnosis.isFailure && r.diagnosis = d := by
  rw [failures, count_foldl_add, List.countP_filter]
  have hnone : count [] d = 0 := rfl
  rw [hnone, Nat.zero_add]
  exact List.countP_congr fun r _ => by rw [Bool.and_comm]

theorem ordered_failures (rs : List RunRecord) : Ordered (failures rs) := by
  have hfold : ∀ (rs : List RunRecord) (cs : DiagnosisCounts), Ordered cs →
      Ordered (rs.foldl (fun cs r => cs.add r.diagnosis) cs) := by
    intro rs
    induction rs with
    | nil => exact fun _ h => h
    | cons r rs ih => exact fun cs h => ih _ h.add
  exact hfold _ [] ⟨List.Pairwise.nil, by simp⟩

end Report

/-! ### The records that are counted -/

namespace Report

variable {records : List RunRecord}

theorem dropRepeatedRuns_of_nodup (h : (records.map (·.key.run)).Nodup) :
    dropRepeatedRuns records = records := by
  induction records with
  | nil => rfl
  | cons r rs ih =>
    obtain ⟨hr, hrs⟩ := List.nodup_cons.mp h
    rw [dropRepeatedRuns, ih hrs]
    cases rs with
    | nil => rfl
    | cons s ss =>
      have hne : r.key.run ≠ s.key.run := fun heq => hr (by simp [heq])
      exact if_neg hne

theorem nodup_runs_of_endpoint {endpoint : Nat} (h : (records.map (·.key)).Nodup)
    (he : ∀ r ∈ records, r.key.endpoint = endpoint) : (records.map (·.key.run)).Nodup := by
  have hkeys : records.map (·.key) = (records.map (·.key.run)).map (RunKey.mk endpoint) := by
    rw [List.map_map]
    exact List.map_congr_left fun r hr => by simp [← he r hr]
  rw [hkeys] at h
  exact List.Nodup.of_map _ h

/-- Of distinct runs an aggregate is about just those of its endpoint. -/
theorem runsOf_perm (h : (records.map (·.key)).Nodup) (endpoint : Nat) :
    (runsOf endpoint records).Perm (records.filter fun r => r.key.endpoint = endpoint) := by
  have hsorted := List.mergeSort_perm (records.filter fun r => r.key.endpoint = endpoint)
    fun a b => a.key.run ≤ b.key.run
  have hown : ∀ r ∈ records.filter fun r => r.key.endpoint = endpoint,
      r.key.endpoint = endpoint := fun r hr => by simpa using (List.mem_filter.mp hr).2
  have hnodup := nodup_runs_of_endpoint ((List.filter_sublist.map _).nodup h) hown
  rw [runsOf, dropRepeatedRuns_of_nodup ((hsorted.map _).nodup_iff.mpr hnodup)]
  exact hsorted

/-- The elements that count are found once, by what `f` tells of them. -/
theorem sum_countP_filter {α : Type} (f : α → Nat) (p : α → Bool) {ids : List Nat}
    (hids : ids.Nodup) {l : List α} (h : ∀ a ∈ l, f a ∈ ids) :
    (ids.map fun id => (l.filter fun a => f a = id).countP p).sum = l.countP p := by
  induction l with
  | nil => simp
  | cons a l ih =>
    rw [List.forall_mem_cons] at h
    have hstep : ∀ id, ((a :: l).filter fun b => f b = id).countP p =
        (if f a = id ∧ p a = true then 1 else 0) + (l.filter fun b => f b = id).countP p := by
      intro id
      by_cases ha : f a = id
      · simp [ha, List.countP_cons, Nat.add_comm]
      · simp [ha]
    have hone : (ids.map fun id => if f a = id ∧ p a = true then 1 else 0).sum =
        if p a = true then 1 else 0 := by
      rw [List.sum_map_eq_nsmul_single (f a) _ fun id hid _ => by simp [Ne.symm hid],
        List.count_eq_one_of_mem hids h.1]
      simp
    simp only [hstep, List.sum_map_add, hone, ih h.2, List.countP_cons, Nat.add_comm]

/-- The aggregates of all endpoints count every record once. -/
theorem sum_countP_runsOf (h : (records.map (·.key)).Nodup) {ids : List Nat} (hids : ids.Nodup)
    (hall : ∀ r ∈ records, r.key.endpoint ∈ ids) (p : RunRecord → Bool) :
    (ids.map fun id => (runsOf id records).countP p).sum = records.countP p := by
  rw [← sum_countP_filter (fun r : RunRecord => r.key.endpoint) p hids hall]
  exact congrArg List.sum (List.map_congr_left fun id _ => (runsOf_perm h id).countP_eq p)

end Report

end SuiteBench
