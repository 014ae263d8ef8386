import SuiteBench.Proofs.Decimal.Exact
import SuiteBench.Report.Stats

/-!
# Proofs.Report.Stats — what the summary of a series says

With exact figures a summary is that of the finite entries of its series, in no particular order: the
roundings of their mean, of the least and the greatest of them, and of their sample deviation.  Rounding keeps
the order, so that the rounded mean lies between the other two.
-/

namespace SuiteBench.Stats

open Decimal Exact

variable {xs : List ℝ}

/-! ### The sample variance -/

/-- The sample variance of some numbers, of which there should be at least two. -/
noncomputable def variance (xs : List ℝ) : ℝ :=
  (xs.map fun x => (x - average xs) ^ 2).sum / (xs.length - 1)

theorem variance_nonneg (h : xs ≠ []) : 0 ≤ variance xs := by
  have hlength : (1 : ℝ) ≤ xs.length := by exact_mod_cast List.length_pos_iff.mpr h
  refine div_nonneg (List.sum_nonneg fun y hy => ?_) (by linarith)
  obtain ⟨x, -, rfl⟩ := List.mem_map.mp hy
  exact sq_nonneg _

/-- Numbers that are all the same have that number as their mean. -/
theorem average_of_forall_eq {c : ℝ} (h : xs ≠ []) (hc : ∀ x ∈ xs, x = c) : average xs = c :=
  le_antisymm (average_le h fun x hx => (hc x hx).le) (le_average h fun x hx => (hc x hx).ge)

theorem variance_eq_zero_iff (h : xs ≠ []) : variance xs = 0 ↔ ∀ x ∈ xs, ∀ y ∈ xs, x = y := by
  constructor
  · intro hzero x hx y hy
    rcases div_eq_zero_iff.mp hzero with hsum | hone
    · -- no square is negative, so that none is left
      have hsquare (z : ℝ) (hz : z ∈ xs) : z = average xs := by
        have hnonneg : ∀ w ∈ xs.map fun x => (x - average xs) ^ 2, 0 ≤ w := by
          intro w hw
          obtain ⟨v, -, rfl⟩ := List.mem_map.mp hw
          exact sq_nonneg _
        have hz := List.all_zero_of_le_zero_le_of_sum_eq_zero hnonneg hsum (List.mem_map_of_mem hz)
        exact sub_eq_zero.mp (pow_eq_zero_iff two_ne_zero |>.mp hz)
      rw [hsquare x hx, hsquare y hy]
    · -- there is one number only
      have hlength : xs.length = 1 := by
        have : (xs.length : ℝ) = 1 := by linarith
        exact_mod_cast this
      obtain ⟨z, rfl⟩ := List.length_eq_one_iff.mp hlength
      rw [List.mem_singleton.mp hx, List.mem_singleton.mp hy]
  · intro hsame
    obtain ⟨c, hc⟩ := List.exists_mem_of_ne_nil xs h
    have haverage := average_of_forall_eq h fun x hx => hsame x hx c hc
    have hsum : (xs.map fun x => (x - average xs) ^ 2).sum = 0 := by
      refine List.sum_eq_zero fun y hy => ?_
      obtain ⟨x, hx, rfl⟩ := List.mem_map.mp hy
      rw [haverage, hsame x hx c hc, sub_self]
      norm_num
    rw [variance, hsum, zero_div]

theorem variance_of_length_one (h : xs.length = 1) : variance xs = 0 := by
  rw [variance, h, Nat.cast_one, sub_self, div_zero]

/-! ### Figures -/

theorem sampleDeviation_finite (h : xs ≠ []) :
    sampleDeviation (finite (average xs)) (xs.map finite) = finite √(variance xs) := by
  have hdistances : (xs.map finite).map (squaredDistance (finite (average xs))) =
      (xs.map fun x => (x - average xs) ^ 2).map finite := by
    rw [List.map_map, List.map_map]
    refine List.map_congr_left fun x _ => ?_
    rw [Function.comp_apply, Function.comp_apply, squaredDistance, sub_finite, mul_finite, pow_two]
  rw [sampleDeviation, List.length_map]
  by_cases hlength : 1 < xs.length
  · have hcast : ((xs.length - 1 : ℕ) : ℝ) = xs.length - 1 := by
      rw [Nat.cast_sub hlength.le, Nat.cast_one]
    have hne : ((xs.length - 1 : ℕ) : ℝ) ≠ 0 := Nat.cast_ne_zero.mpr (by omega)
    have hnonneg := variance_nonneg h
    rw [if_pos hlength, hdistances, sum_finite, ofNat_eq, div_finite hne, hcast]
    exact sqrt_finite hnonneg
  · have hone : xs.length = 1 := by
      have := List.length_pos_iff.mpr h
      omega
    rw [if_neg hlength, variance_of_length_one hone, Real.sqrt_zero]
    rfl

/-- The summary of numbers is made of the roundings of exact figures. -/
theorem ofFinite_map (h : xs ≠ []) : ofFinite (xs.map finite) =
    ⟨some (finite (toPlaces places (average xs))), some (finite (toPlaces places (xs.min h))),
      some (finite (toPlaces places (xs.max h))), some (finite (toPlaces places √(variance xs))),
      xs.length⟩ := by
  cases xs with
  | nil => exact absurd rfl h
  | cons x xs =>
    have hplaces : places < 2147483648 := by decide
    have hmean := mean_finite h
    have hdeviation := sampleDeviation_finite h
    rw [List.map_cons] at hmean hdeviation
    rw [List.map_cons, ofFinite]
    simp only [hmean, hdeviation, foldl_least, foldl_greatest, roundTo_finite hplaces, List.length_map,
      List.length_cons]

/-- Numbers in another order have the same summary. -/
theorem ofFinite_perm {ys : List ℝ} (h : xs.Perm ys) :
    ofFinite (xs.map finite) = ofFinite (ys.map finite) := by
  by_cases hx : xs = []
  · subst hx
    rw [h.nil_eq]
  have hy : ys ≠ [] := fun hy => hx (h.trans (by rw [hy])).eq_nil
  have hmem : {z | z ∈ xs} = {z | z ∈ ys} := Set.ext fun z => h.mem_iff
  have hmin : xs.min hx = ys.min hy := (isLeast_min hx).unique (hmem ▸ isLeast_min hy)
  have hmax : xs.max hx = ys.max hy := (isGreatest_max hx).unique (hmem ▸ isGreatest_max hy)
  have haverage : average xs = average ys := by rw [average, average, h.sum_eq, h.length_eq]
  have hvariance : variance xs = variance ys := by
    rw [variance, variance, haverage, h.length_eq, (h.map _).sum_eq]
  rw [ofFinite_map hx, ofFinite_map hy, haverage, hmin, hmax, hvariance, h.length_eq]

/-! ### Series -/

/-- The numbers among the entries of a series. -/
def entries (series : List (Option Exact)) : List ℝ := series.filterMap fun x => x.bind value?

theorem ofAvailable_eq (series : List (Option Exact)) :
    ofAvailable series = ofFinite ((entries series).map finite) := by
  rw [ofAvailable, of, filter_isFinite, List.filterMap_filterMap]
  rfl

/-- What a summary says of the finite entries of its series. -/
structure Describes (s : Stats Exact) (xs : List ℝ) : Prop where
  count : s.count = xs.length
  missing : (s.avg = none ↔ s.count = 0) ∧ (s.min = none ↔ s.count = 0) ∧
    (s.max = none ↔ s.count = 0) ∧ (s.deviation = none ↔ s.count = 0)
  figures : s.count ≠ 0 → ∃ avg least greatest deviation : ℝ,
    s = ⟨some (finite avg), some (finite least), some (finite greatest), some (finite deviation), s.count⟩ ∧
    least ≤ avg ∧ avg ≤ greatest ∧
    RoundsAway 4 (average xs) avg ∧
    (∃ x, IsLeast {y | y ∈ xs} x ∧ RoundsAway 4 x least) ∧
    (∃ x, IsGreatest {y | y ∈ xs} x ∧ RoundsAway 4 x greatest) ∧
    RoundsAway 4 √(variance xs) deviation ∧ (s.count = 1 → deviation = 0)
  spread : s.count ≠ 0 → 0 ≤ variance xs ∧ (variance xs = 0 ↔ ∀ x ∈ xs, ∀ y ∈ xs, x = y)

theorem describes_ofFinite (xs : List ℝ) : Describes (ofFinite (xs.map finite)) xs := by
  by_cases h : xs = []
  · subst h
    exact ⟨rfl, by simp [ofFinite], fun hne => absurd rfl hne, fun hne => absurd rfl hne⟩
  have hcount : xs.length ≠ 0 := fun hlength => h (List.length_eq_zero_iff.mp hlength)
  rw [ofFinite_map h]
  refine ⟨rfl, by simp [h], fun _ => ⟨_, _, _, _, rfl, ?_, ?_, ?_, ?_, ?_, ?_, ?_⟩,
    fun _ => ⟨variance_nonneg h, variance_eq_zero_iff h⟩⟩
  · exact toPlaces_mono _ (le_average h (isLeast_min h).2)
  · exact toPlaces_mono _ (average_le h (isGreatest_max h).2)
  · exact roundsAway_toPlaces _ _
  · exact ⟨_, isLeast_min h, roundsAway_toPlaces _ _⟩
  · exact ⟨_, isGreatest_max h, roundsAway_toPlaces _ _⟩
  · exact roundsAway_toPlaces _ _
  · intro hone
    rw [variance_of_length_one hone, Real.sqrt_zero, toPlaces_zero]

/-- A summary describes the finite entries of its series, and nothing else about the series matters: neither
the order of the entries nor those that are missing, infinite or no number. -/
theorem describes_entries (series : List (Option Exact)) :
    Describes (ofAvailable series) (entries series) ∧
    (∀ xs : List Exact, series = xs.map some → Stats.of xs = ofAvailable series) ∧
    (∀ other : List (Option Exact), other.Perm series → ofAvailable other = ofAvailable series) ∧
    ∀ front back invalid : List (Option Exact), series = front ++ back →
      (∀ x ∈ invalid, x = none ∨ x = some nan ∨ ∃ negative, x = some (infinite negative)) →
      ofAvailable (front ++ invalid ++ back) = ofAvailable series := by
  refine ⟨?_, ?_, ?_, ?_⟩
  · rw [ofAvailable_eq]
    exact describes_ofFinite _
  · rintro xs rfl
    rw [ofAvailable, List.filterMap_map]
    exact congrArg Stats.of (List.filterMap_some.symm)
  · intro other h
    rw [ofAvailable_eq, ofAvailable_eq]
    exact ofFinite_perm (h.filterMap _)
  · rintro front back invalid rfl hinvalid
    have hnone : entries invalid = [] := by
      refine List.filterMap_eq_nil_iff.mpr fun x hx => ?_
      rcases hinvalid x hx with rfl | rfl | ⟨negative, rfl⟩ <;> rfl
    have hentries : entries (front ++ invalid ++ back) = entries (front ++ back) := by
      change List.filterMap _ invalid = [] at hnone
      simp only [entries, List.filterMap_append, hnone, List.append_nil]
    rw [ofAvailable_eq, ofAvailable_eq, hentries]

/-- Two numbers with entries between them that do not count. -/
def interrupted (x y : ℝ) : List (Option Exact) :=
  [some (finite x), none, some nan, some (infinite true), some (finite y)]

theorem describes_entries_interrupted :
    (ofAvailable (interrupted (-4) 2)).count = 2 ∧
    (ofAvailable (interrupted (-4) 2)).deviation ≠ none ∧
    Stats.of [finite (-4), finite 2] = ofAvailable [some (finite (-4)), some (finite 2)] ∧
    ofAvailable (interrupted (-4) 2).reverse = ofAvailable (interrupted (-4) 2) ∧
    ofAvailable (interrupted (-4) 2) = ofAvailable [some (finite (-4)), some (finite 2)] := by
  obtain ⟨hall, -, hperm, -⟩ := describes_entries (interrupted (-4) 2)
  obtain ⟨-, hof, -, hinsert⟩ := describes_entries [some (finite (-4)), some (finite 2)]
  have hcount : (ofAvailable (interrupted (-4) 2)).count = 2 := hall.count
  refine ⟨hcount, fun hnone => ?_, hof _ rfl, hperm _ (List.reverse_perm _), ?_⟩
  · have hzero := hall.missing.2.2.2.mp hnone
    omega
  · exact hinsert [some (finite (-4))] [some (finite 2)] [none, some nan, some (infinite true)] rfl
      (by simp)

end SuiteBench.Stats
