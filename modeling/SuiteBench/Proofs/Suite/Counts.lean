import Mathlib.Algebra.BigOperators.Group.List.Basic
import Mathlib.Algebra.Ring.Nat
import Mathlib.Data.List.Sort
import Mathlib.Data.String.Basic
import SuiteBench.Suite.Analysis

/-!
# Proofs.Suite.Counts — counts by name

Adding to the count of a name changes no other count, and keeps the names in their order and the counts
positive.  So what is added up name by name is what was counted in all.
-/

namespace SuiteBench

namespace NamedCounts

variable {cs xs : NamedCounts} {j k : String} {n : Nat}

/-- Whether the names stand in their order, each once and with a positive count. -/
structure Ordered (cs : NamedCounts) : Prop where
  ascending : cs.Pairwise fun x y => x.1 < y.1
  positive : ∀ x ∈ cs, 0 < x.2

/-- The sum of the counts. -/
def total (cs : NamedCounts) : Nat := (cs.map (·.2)).sum

/-- The counts with those of `xs` added one by one. -/
def addAll (cs xs : NamedCounts) : NamedCounts := xs.foldl (fun acc (k, n) => add k n acc) cs

theorem count_cons (x : String × Nat) (cs : NamedCounts) (j : String) :
    count (x :: cs) j = if j = x.1 then x.2 else count cs j := by
  obtain ⟨k, n⟩ := x
  rw [count, count, List.lookup_cons]
  by_cases h : j = k
  · simp [h]
  · simp [h, beq_eq_false_iff_ne.mpr h]

theorem count_eq_zero (h : ∀ x ∈ cs, j ≠ x.1) : cs.count j = 0 := by
  induction cs with
  | nil => rfl
  | cons x cs ih =>
    obtain ⟨hx, hcs⟩ := List.forall_mem_cons.mp h
    rw [count_cons, if_neg hx, ih hcs]

theorem total_add (k : String) (n : Nat) (cs : NamedCounts) : (add k n cs).total = cs.total + n := by
  induction cs with
  | nil => simp [add, total]
  | cons x cs ih =>
    rw [add]
    split
    · simp [total, Nat.add_right_comm]
    · split
      · simp [total, Nat.add_comm]
      · simp only [total, List.map_cons, List.sum_cons] at ih ⊢
        rw [ih, Nat.add_assoc]

theorem mem_add {x : String × Nat} (h : x ∈ add k n cs) :
    x.1 = k ∧ n ≤ x.2 ∨ x ∈ cs := by
  induction cs with
  | nil =>
    obtain rfl := List.mem_singleton.mp h
    exact .inl ⟨rfl, le_rfl⟩
  | cons y cs ih =>
    rw [add] at h
    split at h
    · next heq =>
      rcases List.mem_cons.mp h with rfl | h
      · exact .inl ⟨(beq_iff_eq.mp heq).symm, Nat.le_add_left n _⟩
      · exact .inr (List.mem_cons_of_mem _ h)
    · split at h
      · rcases List.mem_cons.mp h with rfl | h
        · exact .inl ⟨rfl, le_rfl⟩
        · exact .inr h
      · rcases List.mem_cons.mp h with rfl | h
        · exact .inr List.mem_cons_self
        · exact (ih h).imp_right (List.mem_cons_of_mem _)

/-- Whether the names stand in their order, each once. -/
def Ascending (cs : NamedCounts) : Prop := cs.Pairwise fun x y => x.1 < y.1

theorem Ascending.add (h : Ascending cs) (k : String) (n : Nat) : Ascending (add k n cs) := by
  induction cs with
  | nil => exact List.pairwise_singleton _ _
  | cons y cs ih =>
    obtain ⟨hy, hcs⟩ := List.pairwise_cons.mp h
    rw [NamedCounts.add]
    split
    · exact List.pairwise_cons.mpr ⟨hy, hcs⟩
    · next hne =>
      split
      · next hlt =>
        refine List.pairwise_cons.mpr ⟨fun x hx => ?_, h⟩
        rcases List.mem_cons.mp hx with rfl | hx
        · exact hlt
        · exact hlt.trans (hy x hx)
      · next hge =>
        refine List.pairwise_cons.mpr ⟨fun x hx => ?_, ih hcs⟩
        rcases mem_add hx with ⟨heq, -⟩ | hx
        · have hne : y.1 ≠ k := fun h => hne (beq_iff_eq.mpr h.symm)
          exact heq ▸ lt_of_le_of_ne (not_lt.mp hge) hne
        · exact hy x hx

theorem Ascending.count_add (h : Ascending cs) (k j : String) (n : Nat) :
    (NamedCounts.add k n cs).count j = cs.count j + if j = k then n else 0 := by
  induction cs with
  | nil =>
    rw [NamedCounts.add, count_cons]
    exact (Nat.zero_add _).symm
  | cons y cs ih =>
    obtain ⟨hy, hcs⟩ := List.pairwise_cons.mp h
    rw [NamedCounts.add]
    split
    · next heq =>
      rw [count_cons, count_cons, beq_iff_eq.mp heq]
      split <;> rfl
    · next hne =>
      have hne : k ≠ y.1 := fun h => hne (beq_iff_eq.mpr h)
      split
      · next hlt =>
        rw [count_cons]
        by_cases hj : j = k
        · -- the names from here on are greater, so none of them is counted as `j`
          have hzero : count (y :: cs) j = 0 := by
            refine count_eq_zero fun x hx => ?_
            rcases List.mem_cons.mp hx with rfl | hx
            · exact hj ▸ hne
            · exact hj ▸ (hlt.trans (hy x hx)).ne
          rw [if_pos hj, if_pos hj, hzero, Nat.zero_add]
        · rw [if_neg hj, if_neg hj, Nat.add_zero]
      · rw [count_cons, count_cons, ih hcs]
        by_cases hj : j = y.1
        · rw [if_pos hj, if_pos hj, if_neg fun h => hne (h.symm.trans hj), Nat.add_zero]
        · rw [if_neg hj, if_neg hj]

theorem Ascending.count_eq_sum (h : Ascending cs) (j : String) :
    cs.count j = (cs.map fun x => if j = x.1 then x.2 else 0).sum := by
  induction cs with
  | nil => rfl
  | cons y cs ih =>
    obtain ⟨hy, hcs⟩ := List.pairwise_cons.mp h
    rw [count_cons, List.map_cons, List.sum_cons, ← ih hcs]
    by_cases hj : j = y.1
    · rw [if_pos hj, if_pos hj, count_eq_zero fun x hx => hj ▸ (hy x hx).ne, Nat.add_zero]
    · rw [if_neg hj, if_neg hj, Nat.zero_add]

theorem Ascending.addAll (h : Ascending cs) (xs : NamedCounts) : Ascending (cs.addAll xs) := by
  induction xs generalizing cs with
  | nil => exact h
  | cons x xs ih => exact ih (h.add x.1 x.2)

theorem Ascending.count_addAll (h : Ascending cs) (xs : NamedCounts) (j : String) :
    (cs.addAll xs).count j = cs.count j + (xs.map fun x => if j = x.1 then x.2 else 0).sum := by
  induction xs generalizing cs with
  | nil => rfl
  | cons x xs ih =>
    rw [NamedCounts.addAll, List.foldl_cons, List.map_cons, List.sum_cons]
    change (NamedCounts.addAll (NamedCounts.add x.1 x.2 cs) xs).count j = _
    rw [ih (h.add x.1 x.2), h.count_add, Nat.add_assoc]

/-! ### Names with an entry -/

theorem mem_names_add (k j : String) (n : Nat) (cs : NamedCounts) :
    j ∈ (add k n cs).map (·.1) ↔ j = k ∨ j ∈ cs.map (·.1) := by
  induction cs with
  | nil => simp [add]
  | cons y cs ih =>
    rw [add]
    split
    · next heq => simp [beq_iff_eq.mp heq]
    · split
      · simp
      · simp only [List.map_cons, List.mem_cons, ih]
        tauto

theorem mem_names_addAll (j : String) (cs xs : NamedCounts) :
    j ∈ (cs.addAll xs).map (·.1) ↔ j ∈ cs.map (·.1) ∨ j ∈ xs.map (·.1) := by
  induction xs generalizing cs with
  | nil => simp [addAll]
  | cons x xs ih =>
    rw [addAll, List.foldl_cons]
    change j ∈ (addAll (add x.1 x.2 cs) xs).map (·.1) ↔ _
    rw [ih, mem_names_add, List.map_cons, List.mem_cons]
    tauto

theorem Ascending.mem_iff (h : Ascending cs) (x : String × Nat) :
    x ∈ cs ↔ x.1 ∈ cs.map (·.1) ∧ cs.count x.1 = x.2 := by
  induction cs with
  | nil => simp
  | cons y cs ih =>
    obtain ⟨hy, hcs⟩ := List.pairwise_cons.mp h
    rw [List.mem_cons, ih hcs, List.map_cons, List.mem_cons, count_cons]
    by_cases hxy : x.1 = y.1
    · have hnew : x.1 ∉ cs.map (·.1) := fun hmem => by
        obtain ⟨z, hz, heq⟩ := List.mem_map.mp hmem
        exact (hy z hz).ne (hxy.symm.trans heq.symm)
      rw [if_pos hxy, or_iff_left fun hmem => hnew hmem.1, and_iff_right (Or.inl hxy)]
      exact ⟨fun heq => (congrArg Prod.snd heq).symm, fun heq => Prod.ext hxy heq.symm⟩
    · have hne : x ≠ y := fun heq => hxy (congrArg Prod.fst heq)
      simp [hxy, hne]

/-- Counts in order are known by their names and by how much is counted for each. -/
theorem Ascending.eq_of_counts {ds : NamedCounts} (h : Ascending cs) (h' : Ascending ds)
    (hnames : ∀ j, j ∈ cs.map (·.1) ↔ j ∈ ds.map (·.1)) (hcounts : ∀ j, cs.count j = ds.count j) :
    cs = ds := by
  let before : String × Nat → String × Nat → Prop := fun x y => x.1 < y.1
  have : Std.Antisymm before := ⟨fun _ _ hxy hyx => absurd hxy hyx.asymm⟩
  have : Std.Irrefl before := ⟨fun x => lt_irrefl x.1⟩
  refine List.Pairwise.eq_of_mem_iff (r := before) h h' fun x => ?_
  rw [h.mem_iff, h'.mem_iff, hnames, hcounts]

/-! ### Positive counts -/

theorem Ordered.add (h : Ordered cs) (hn : 0 < n) : Ordered (add k n cs) := by
  refine ⟨Ascending.add h.ascending k n, fun x hx => ?_⟩
  rcases mem_add hx with ⟨-, hle⟩ | hx
  · exact hn.trans_le hle
  · exact h.positive x hx

theorem total_addAll (cs xs : NamedCounts) : (cs.addAll xs).total = cs.total + xs.total := by
  induction xs generalizing cs with
  | nil => rfl
  | cons x xs ih =>
    rw [addAll, List.foldl_cons]
    change (addAll (add x.1 x.2 cs) xs).total = _
    rw [ih, total_add, Nat.add_assoc]
    rfl

theorem Ordered.addAll (h : Ordered cs) (hxs : ∀ x ∈ xs, 0 < x.2) : Ordered (cs.addAll xs) := by
  induction xs generalizing cs with
  | nil => exact h
  | cons x xs ih =>
    obtain ⟨hx, hxs⟩ := List.forall_mem_cons.mp hxs
    exact ih (h.add hx) hxs

end NamedCounts

end SuiteBench
