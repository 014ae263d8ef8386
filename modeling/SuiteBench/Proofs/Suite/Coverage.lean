import SuiteBench.Proofs.Decimal.Digits
import SuiteBench.Proofs.Decimal.Places
import SuiteBench.Suite.Coverage

/-!
# Proofs.Suite.Coverage — the coverage figures of one run

The row of the statistics and the log are two measurements, each consistent in itself.  A goal count that
the row lacks is taken from the log even where the row has the other one, so the two counts may come from
different measurements.  This is the only way to get more covered goals than there are; a ratio computed
from counts in order lies between zero and one.
-/

namespace SuiteBench

namespace CoverageFigures

open Decimal

variable {row c : CoverageFigures} {goals : Option (ℕ × ℕ)} {covered total : ℕ}

/-- The figures of the statistics alone. -/
def rowOf : Option ByteArray → CoverageFigures
  | some bytes => ofStatistics (statisticsFormat.read bytes)
  | none => unavailable

/-- Whether no more goals are covered than there are, if both counts are known. -/
def Consistent (c : CoverageFigures) : Prop :=
  ∀ covered ∈ c.coveredGoals, ∀ total ∈ c.totalGoals, covered ≤ total

/-- Whether the only goal count of a row is out of order with the count of the log that completes it. -/
@[mk_iff]
inductive Mixed (row : CoverageFigures) : Option (ℕ × ℕ) → Prop
  | covered {covered n m : ℕ} (hcovered : row.coveredGoals = some covered)
      (htotal : row.totalGoals = none) (h : m < covered) : Mixed row (some (n, m))
  | total {total n m : ℕ} (hcovered : row.coveredGoals = none)
      (htotal : row.totalGoals = some total) (h : total < n) : Mixed row (some (n, m))

/-! ### The counts -/

theorem consistent_withGoals {n m : ℕ} : (row.withGoals (some (n, m))).Consistent ↔
    row.coveredGoals.getD n ≤ row.totalGoals.getD m := by
  simp [Consistent, withGoals]

theorem consistent_withGoals_iff (hrow : row.Consistent) (hgoals : ∀ p ∈ goals, p.1 ≤ p.2) :
    (row.withGoals goals).Consistent ↔ ¬ Mixed row goals := by
  cases goals with
  | none => exact iff_of_true hrow nofun
  | some p =>
    obtain ⟨n, m⟩ := p
    rw [consistent_withGoals, mixed_iff]
    cases hcovered : row.coveredGoals with
    | none =>
      cases row.totalGoals with
      | none => simpa using hgoals (n, m) rfl
      | some total => simp
    | some covered =>
      cases htotal : row.totalGoals with
      | none => simp
      | some total => simpa using hrow covered hcovered total htotal

theorem coveredGoals_withRatio (c : CoverageFigures) : c.withRatio.coveredGoals = c.coveredGoals := by
  fun_cases withRatio c <;> rfl

theorem totalGoals_withRatio (c : CoverageFigures) : c.withRatio.totalGoals = c.totalGoals := by
  fun_cases withRatio c <;> rfl

theorem lt_of_readCount? {cs : List Char} {n : ℕ} (h : Log.readCount? cs = some n) : n < 2 ^ 64 := by
  rw [Log.readCount?] at h
  cases hread : readNat max64 cs with
  | error => rw [hread] at h; cases h
  | ok k =>
    rw [hread] at h
    cases h
    exact Nat.lt_succ_of_le (readNat_le hread)

theorem lt_of_goals {log : String} {n m : ℕ} (h : (Log.progress log).goals = some (n, m)) :
    m < 2 ^ 64 := by
  obtain ⟨cs, -, h⟩ := Option.bind_eq_some_iff.mp h
  obtain ⟨⟨first, second⟩, -, h⟩ := Option.bind_eq_some_iff.mp h
  obtain ⟨_, -, h⟩ := Option.bind_eq_some_iff.mp h
  obtain ⟨_, hm, h⟩ := Option.bind_eq_some_iff.mp h
  cases h
  exact lt_of_readCount? hm

theorem totalGoals_rowOf_lt {statistics : Option ByteArray}
    (h : (rowOf statistics).totalGoals = some total) : total < 2 ^ 64 := by
  cases statistics with
  | none => cases h
  | some bytes =>
    simp only [rowOf, ofStatistics] at h
    split at h
    · obtain ⟨cs, -, hcs⟩ := Option.bind_eq_some_iff.mp h
      exact lt_of_readCount? hcs
    · cases h

theorem totalGoals_ofSources_lt {statistics : Option ByteArray} {log : String}
    (h : (ofSources statistics log).totalGoals = some total) : total < 2 ^ 64 := by
  change ((rowOf statistics).withGoals (Log.progress log).goals).withRatio.totalGoals = _ at h
  rw [totalGoals_withRatio] at h
  generalize hgoals : (Log.progress log).goals = goals at h
  cases goals with
  | none => exact totalGoals_rowOf_lt h
  | some p =>
    cases hrow : (rowOf statistics).totalGoals with
    | none =>
      simp only [withGoals, hrow, Option.getD_none, Option.some.injEq] at h
      exact h ▸ lt_of_goals hgoals
    | some t =>
      simp only [withGoals, hrow, Option.getD_some, Option.some.injEq] at h
      exact h ▸ totalGoals_rowOf_lt hrow

/-! ### The ratio -/

/-- Whole numbers from one on are at least one as doubles. -/
theorem exists_one_le_ofNat (hpos : 0 < total) (h : total < 2 ^ 64) :
    ∃ y, Nearest total y ∧ 1 ≤ y ∧ Denotes (Figures.ofNat total) y := by
  obtain ⟨y, hy, hdenotes⟩ := denotes_toFloat h
  have hone : IsDouble 1 := isDouble_pow 0
  exact ⟨y, hy, hy.le_of_ge hone (by exact_mod_cast hpos), hdenotes⟩

/-- Each of the roundings on the way to a ratio keeps it within one. -/
theorem ratio_bounds (hle : covered ≤ total) (hpos : 0 < total) (hlt : total < 2 ^ 64) :
    (0.0 : Float) ≤ ratio covered total ∧ ratio covered total ≤ 1.0 := by
  obtain ⟨y, hy, hone, hytotal⟩ := exists_one_le_ofNat hpos hlt
  obtain ⟨x, hx, hxcovered⟩ := denotes_toFloat (hle.trans_lt hlt)
  have hxy : x ≤ y := by
    rcases hle.lt_or_eq with hless | rfl
    · exact hx.mono hy (by exact_mod_cast hless)
    · exact (hxcovered.le_iff hytotal).mp ((hytotal.le_iff hytotal).mpr le_rfl)
  have hquotient : x / y ≤ 1 := (div_le_one (by linarith)).mpr hxy
  obtain ⟨q, hq, hqshare⟩ := hxcovered.div hytotal (by linarith) (by linarith)
  have hq1 : q ≤ 1 := hq.le_of_le (isDouble_pow 0) hquotient
  obtain ⟨w, z, hw, hz, hratio⟩ := denotes_roundTo_four hqshare (by linarith)
  have hscaled : w ≤ 10000 := hw.le_of_le (isDouble_natCast (m := 10000) (by decide)) (by linarith)
  have hwhole : ⌊w + 1 / 2⌋₊ < 10001 := (Nat.floor_lt' (by decide)).mpr (by push_cast; linarith)
  have hwhole : (⌊w + 1 / 2⌋₊ : ℚ) ≤ 10000 := by exact_mod_cast Nat.le_of_lt_succ hwhole
  have hz1 : z ≤ 1 := hz.le_of_le (isDouble_pow 0) (by linarith)
  exact ⟨(denotes_zero.le_iff hratio).mpr hratio.nonneg, (hratio.le_iff denotes_one).mpr hz1⟩

theorem ofNat_pos (hpos : 0 < total) (hlt : total < 2 ^ 64) : (0.0 : Float) < Figures.ofNat total := by
  obtain ⟨y, -, hone, hdenotes⟩ := exists_one_le_ofNat hpos hlt
  exact (denotes_zero.lt_iff hdenotes).mpr (by linarith)

/-- A ratio that was not there before is computed from both counts. -/
theorem coverage_withRatio_eq_some {coverage : Float} (hnone : c.coverage = none)
    (h : c.withRatio.coverage = some coverage) :
    ∃ covered total, c.coveredGoals = some covered ∧ c.totalGoals = some total ∧ 0 < total ∧
      coverage = ratio covered total := by
  obtain ⟨_, total?, covered?⟩ := c
  subst hnone
  cases covered? with
  | none => cases h
  | some covered =>
    cases total? with
    | none => cases h
    | some total =>
      simp only [withRatio] at h
      split at h
      · next hpos =>
        cases h
        exact ⟨covered, total, rfl, rfl, hpos, rfl⟩
      · cases h

/-! ### Both sources -/

/-- What is true of the figures taken from a row of the statistics and the goal counts of a log. -/
structure Sound (row : CoverageFigures) (goals : Option (ℕ × ℕ)) (c : CoverageFigures) : Prop where
  consistent_iff : c.Consistent ↔ ¬ Mixed row goals
  /-- A ratio that the row lacks is the share of the counts; the divisor is positive, and the ratio of
  counts in order lies between zero and one. -/
  computed : ∀ coverage, row.coverage = none → c.coverage = some coverage →
    ∃ covered total, c.coveredGoals = some covered ∧ c.totalGoals = some total ∧
      coverage = ratio covered total ∧ (0.0 : Float) < Figures.ofNat total ∧
      (covered ≤ total → (0.0 : Float) ≤ coverage ∧ coverage ≤ 1.0)

/-- The counts are in order unless the only count of the row does not go with the one from the log, and
then a computed ratio lies between zero and one. -/
theorem figures_of_sources (statistics : Option ByteArray) (log : String)
    (hrow : (rowOf statistics).Consistent)
    (hgoals : ∀ covered total, (Log.progress log).goals = some (covered, total) → covered ≤ total) :
    Sound (rowOf statistics) (Log.progress log).goals (ofSources statistics log) := by
  have hsources : ofSources statistics log =
      ((rowOf statistics).withGoals (Log.progress log).goals).withRatio := rfl
  refine ⟨?_, fun coverage hnone hsome => ?_⟩
  · rw [Consistent, hsources, coveredGoals_withRatio, totalGoals_withRatio]
    exact consistent_withGoals_iff hrow fun p hp => hgoals p.1 p.2 hp
  · have hgoalsNone : ((rowOf statistics).withGoals (Log.progress log).goals).coverage = none := by
      cases (Log.progress log).goals <;> exact hnone
    obtain ⟨covered, total, hcovered, htotal, hpos, rfl⟩ :=
      coverage_withRatio_eq_some hgoalsNone (hsources ▸ hsome)
    rw [← totalGoals_withRatio, ← hsources] at htotal
    have hlt := totalGoals_ofSources_lt htotal
    refine ⟨covered, total, ?_, htotal, rfl, ofNat_pos hpos hlt, fun hle => ratio_bounds hle hpos hlt⟩
    rw [hsources, coveredGoals_withRatio, hcovered]

/-- Statistics that only tell how many goals there are. -/
def totalOnly : String := "TARGET_CLASS,Total_Goals\ncom.x.A,5\n"

theorem consistent_totalOnly : (rowOf (some totalOnly.toUTF8)).Consistent := by
  have hcovered : (rowOf (some totalOnly.toUTF8)).coveredGoals = none := by decide +kernel
  rw [Consistent, hcovered]
  nofun

theorem figures_of_sources_completed :
    Sound (rowOf (some totalOnly.toUTF8)) (some (3, 8))
      (ofSources (some totalOnly.toUTF8) "3 goals covered out of 8\n") := by
  have hgoals : (Log.progress "3 goals covered out of 8\n").goals = some (3, 8) := by decide
  rw [← hgoals]
  refine figures_of_sources _ _ consistent_totalOnly fun covered total h => ?_
  rw [hgoals] at h
  cases h
  decide

/-- Covered goals from a log with more goals in all: twice as many are covered as there are. -/
theorem figures_not_consistent :
    (rowOf (some totalOnly.toUTF8)).Consistent ∧
    (Log.progress "10 goals covered out of 20\n").goals = some (10, 20) ∧
    ¬ (ofSources (some totalOnly.toUTF8) "10 goals covered out of 20\n").Consistent ∧
    (ofSources (some totalOnly.toUTF8) "10 goals covered out of 20\n").coverage = some 2.0 := by
  refine ⟨consistent_totalOnly, by decide +kernel, fun h => ?_, by decide +kernel⟩
  exact absurd (h 10 (by decide +kernel) 5 (by decide +kernel)) (by decide)

end CoverageFigures

end SuiteBench
