import SuiteBench.Proofs.Decimal.Signs

/-!
# Proofs.Decimal.Exact — figures without rounding errors

The statistics are written once for any type of figures.  Here the figures are exact: a finite one is a real
number, and what is computed from finite ones loses nothing.  Every double is read as one of them.  A figure
with decimal places is the nearest one that has no more of them, of two the one that is farther from zero.
-/

namespace SuiteBench.Decimal

/-- A figure of exact arithmetic, with what a double can hold besides numbers. -/
inductive Exact where
  | nan
  | infinite (negative : Bool)
  | finite (value : ℝ)

namespace Exact

/-! ### Rounding -/

/-- The nearest whole number, a half away from zero. -/
noncomputable def whole (x : ℝ) : ℤ := if 0 ≤ x then ⌊x + 1 / 2⌋ else ⌈x - 1 / 2⌉

/-- Whether `y` is `x` with so many decimal places: no number with as many is nearer, and none that is as
near is farther from zero. -/
structure RoundsAway (places : ℕ) (x y : ℝ) : Prop where
  decimal : ∃ k : ℤ, y = k / 10 ^ places
  nearest : ∀ k : ℤ, |y - x| ≤ |k / 10 ^ places - x|
  away : ∀ k : ℤ, |k / 10 ^ places - x| = |y - x| → |(k / 10 ^ places : ℝ)| ≤ |y|

theorem whole_neg (x : ℝ) : whole (-x) = -whole x := by
  unfold whole
  rcases lt_trichotomy x 0 with hneg | rfl | hpos
  · rw [if_pos (by linarith), if_neg (by linarith), ← Int.floor_neg]
    congr 1
    ring
  · norm_num
  · rw [if_neg (by linarith), if_pos hpos.le, ← Int.ceil_neg]
    congr 1
    ring

theorem whole_mono : Monotone whole := by
  intro x y hxy
  unfold whole
  split
  · next hx =>
    rw [if_pos (hx.trans hxy)]
    exact Int.floor_le_floor (by linarith)
  · next hx =>
    split
    · next hy =>
      have hle : ⌈x - 1 / 2⌉ ≤ 0 := Int.ceil_le.mpr (by push_cast; linarith)
      exact hle.trans (Int.floor_nonneg.mpr (by linarith))
    · exact Int.ceil_le_ceil (by linarith)

/-- No whole number is nearer, and one that is as near is not farther from zero. -/
theorem whole_spec (x : ℝ) (k : ℤ) : |whole x - x| ≤ |k - x| ∧
    (|(k : ℝ) - x| = |whole x - x| → |k| ≤ |whole x|) := by
  wlog hx : 0 ≤ x generalizing x k
  · have h := this (-x) (-k) (by linarith)
    rw [whole_neg] at h
    push_cast at h
    rw [← neg_sub', abs_neg, ← neg_sub', abs_neg, abs_neg, abs_neg] at h
    exact h
  have hw : whole x = ⌊x + 1 / 2⌋ := if_pos hx
  have hle := Int.floor_le (x + 1 / 2)
  have hlt := Int.lt_floor_add_one (x + 1 / 2)
  have hnonneg : 0 ≤ whole x := hw ▸ Int.floor_nonneg.mpr (by linarith)
  rw [← hw] at hle hlt
  have hhalf : |whole x - x| ≤ 1 / 2 := abs_le.mpr ⟨by linarith, by linarith⟩
  rcases lt_trichotomy k (whole x) with hk | rfl | hk
  · have hstep : (k : ℝ) + 1 ≤ whole x := by exact_mod_cast hk
    rw [abs_of_nonpos (by linarith : (k : ℝ) - x ≤ 0)]
    refine ⟨by linarith, fun heq => ?_⟩
    -- a tie: the number is a half, of which the whole one above is taken
    have hk0 : -1 < k := by
      have : (-1 : ℝ) < k := by linarith
      exact_mod_cast this
    rw [abs_of_nonneg (by omega), abs_of_nonneg hnonneg]
    exact hk.le
  · exact ⟨le_rfl, fun _ => le_rfl⟩
  · have hstep : (whole x : ℝ) + 1 ≤ k := by exact_mod_cast hk
    rw [abs_of_nonneg (by linarith : (0 : ℝ) ≤ k - x)]
    exact ⟨by linarith, fun heq => by linarith⟩

/-- A number with so many decimal places. -/
noncomputable def toPlaces (places : ℕ) (x : ℝ) : ℝ := whole (x * 10 ^ places) / 10 ^ places

theorem roundsAway_toPlaces (places : ℕ) (x : ℝ) : RoundsAway places x (toPlaces places x) := by
  have hpos : (0 : ℝ) < 10 ^ places := by positivity
  have hscale (k : ℤ) : |k / 10 ^ places - x| = |k - x * 10 ^ places| / 10 ^ places := by
    rw [← abs_of_pos hpos, ← abs_div, abs_of_pos hpos]
    congr 1
    field_simp
  refine ⟨⟨_, rfl⟩, fun k => ?_, fun k hk => ?_⟩
  · rw [toPlaces, hscale, hscale]
    exact div_le_div_of_nonneg_right (whole_spec _ k).1 hpos.le
  · rw [toPlaces, hscale, hscale, div_left_inj' hpos.ne'] at hk
    rw [toPlaces, abs_div, abs_div]
    exact div_le_div_of_nonneg_right (by exact_mod_cast (whole_spec _ k).2 hk) (abs_nonneg _)

theorem toPlaces_zero (places : ℕ) : toPlaces places 0 = 0 := by
  have hwhole : whole 0 = 0 := by norm_num [whole]
  rw [toPlaces, zero_mul, hwhole, Int.cast_zero, zero_div]

theorem toPlaces_mono (places : ℕ) : Monotone (toPlaces places) := by
  intro x y hxy
  have hpos : (0 : ℝ) < 10 ^ places := by positivity
  have hscaled : x * 10 ^ places ≤ y * 10 ^ places := mul_le_mul_of_nonneg_right hxy hpos.le
  exact div_le_div_of_nonneg_right (by exact_mod_cast whole_mono hscaled) hpos.le

/-! ### Arithmetic -/

/-- An operation that is exact for finite figures; with others nothing is computed. -/
def lift₂ (op : ℝ → ℝ → Exact) : Exact → Exact → Exact
  | finite x, finite y => op x y
  | _, _ => nan

/-- Whether a figure is less than another. -/
noncomputable def less : Exact → Exact → Bool
  | finite x, finite y => decide (x < y)
  | infinite true, finite _ | infinite true, infinite false | finite _, infinite false => true
  | _, _ => false

noncomputable instance : Figures Exact where
  zero := finite 0
  ofNat n := finite n
  add := lift₂ fun x y => finite (x + y)
  sub := lift₂ fun x y => finite (x - y)
  mul := lift₂ fun x y => finite (x * y)
  div := lift₂ fun x y => if y = 0 then nan else finite (x / y)
  sqrt
    | finite x => if x < 0 then nan else finite √x
    | _ => nan
  round
    | finite x => finite (whole x)
    | x => x
  less := less
  isFinite
    | finite _ => true
    | _ => false

variable {x y : ℝ} {xs : List ℝ}

@[simp] theorem ofNat_eq (n : ℕ) : (Figures.ofNat n : Exact) = finite n := rfl

@[simp] theorem add_finite : Figures.add (finite x) (finite y) = finite (x + y) := rfl

@[simp] theorem sub_finite : Figures.sub (finite x) (finite y) = finite (x - y) := rfl

@[simp] theorem mul_finite : Figures.mul (finite x) (finite y) = finite (x * y) := rfl

@[simp] theorem round_finite : Figures.round (finite x) = finite (whole x) := rfl

@[simp] theorem less_finite : Figures.less (finite x) (finite y) = decide (x < y) := rfl

theorem div_finite (h : y ≠ 0) : Figures.div (finite x) (finite y) = finite (x / y) := if_neg h

theorem sqrt_finite (h : 0 ≤ x) : Figures.sqrt (finite x) = finite √x := if_neg h.not_gt

theorem foldl_add (x : ℝ) (xs : List ℝ) :
    (xs.map finite).foldl Figures.add (finite x) = finite (x + xs.sum) := by
  induction xs generalizing x with
  | nil => simp
  | cons y ys ih =>
    rw [List.map_cons, List.foldl_cons, add_finite, ih, List.sum_cons, add_assoc]

theorem sum_finite (xs : List ℝ) : sum (xs.map finite) = finite xs.sum := by
  cases xs with
  | nil => rfl
  | cons x xs => exact (foldl_add x xs).trans (by rw [List.sum_cons])

theorem least_finite : least (finite x) (finite y) = finite (min x y) := by
  by_cases h : x < y
  · rw [least, less_finite, if_pos (decide_eq_true h), min_eq_left h.le]
  · rw [least, less_finite, if_neg (by simpa using h), min_eq_right (not_lt.mp h)]

theorem greatest_finite : greatest (finite x) (finite y) = finite (max x y) := by
  by_cases h : y < x
  · rw [greatest, less_finite, if_pos (decide_eq_true h), max_eq_left h.le]
  · rw [greatest, less_finite, if_neg (by simpa using h), max_eq_right (not_lt.mp h)]

theorem powAux_finite (fuel : ℕ) (a x : ℝ) (n : ℕ) (h : n < fuel) :
    powAux fuel (finite a) (finite x) n = finite (a * x ^ n) := by
  induction fuel generalizing a x n with
  | zero => omega
  | succ fuel ih =>
    have hacc : (if n % 2 == 1 then Figures.mul (finite a) (finite x) else finite a) =
        finite (a * x ^ (n % 2)) := by
      rcases Nat.mod_two_eq_zero_or_one n with hn | hn <;> simp [hn]
    have hpow : x ^ n = x ^ (n % 2) * (x * x) ^ (n / 2) := by
      rw [← pow_two, ← pow_mul, ← pow_add, Nat.mod_add_div]
    unfold powAux
    rw [hacc, mul_finite, hpow, ← mul_assoc]
    by_cases hn : n / 2 = 0
    · simp [hn]
    · rw [if_neg (by simpa using hn)]
      exact ih _ _ _ (by omega)

theorem scale_finite {places : ℕ} (h : places < 2147483648) :
    (scale places : Exact) = finite (10 ^ places) := by
  rw [scale, if_pos h, tenPow, ofNat_eq, ofNat_eq, powAux_finite _ _ _ _ (Nat.lt_succ_self _)]
  norm_num

theorem roundTo_finite {places : ℕ} (h : places < 2147483648) :
    roundTo (finite x) places = finite (toPlaces places x) := by
  rw [roundTo, scale_finite h, mul_finite, round_finite, div_finite (by positivity), toPlaces]

/-! ### Series of numbers -/

/-- The number that a finite figure is. -/
def value? : Exact → Option ℝ
  | finite x => some x
  | _ => none

theorem filter_isFinite (xs : List Exact) :
    xs.filter Figures.isFinite = (xs.filterMap value?).map finite := by
  induction xs with
  | nil => rfl
  | cons x xs ih =>
    cases x with
    | finite x => exact congrArg (finite x :: ·) ih
    | _ => exact ih

/-- The least of some finite figures is the least of their numbers. -/
theorem foldl_least (x : ℝ) (xs : List ℝ) : (xs.map finite).foldl least (finite x) =
    finite ((x :: xs).min (List.cons_ne_nil x xs)) := by
  induction xs generalizing x with
  | nil => rfl
  | cons y ys ih =>
    rw [List.map_cons, List.foldl_cons, least_finite]
    exact ih (min x y)

theorem foldl_greatest (x : ℝ) (xs : List ℝ) : (xs.map finite).foldl greatest (finite x) =
    finite ((x :: xs).max (List.cons_ne_nil x xs)) := by
  induction xs generalizing x with
  | nil => rfl
  | cons y ys ih =>
    rw [List.map_cons, List.foldl_cons, greatest_finite]
    exact ih (max x y)

theorem isLeast_min (h : xs ≠ []) : IsLeast {y | y ∈ xs} (xs.min h) :=
  ⟨List.min_mem h, fun _ hy => List.min_le_of_mem hy⟩

theorem isGreatest_max (h : xs ≠ []) : IsGreatest {y | y ∈ xs} (xs.max h) :=
  ⟨List.max_mem h, fun _ hy => List.le_max_of_mem hy⟩

/-- The mean of some numbers. -/
noncomputable def average (xs : List ℝ) : ℝ := xs.sum / xs.length

theorem length_pos (h : xs ≠ []) : (0 : ℝ) < xs.length := by
  exact_mod_cast List.length_pos_iff.mpr h

theorem mean_finite (h : xs ≠ []) : mean (xs.map finite) = finite (average xs) := by
  rw [mean, sum_finite, List.length_map, ofNat_eq, div_finite (length_pos h).ne', average]

theorem le_average (h : xs ≠ []) (hle : ∀ y ∈ xs, x ≤ y) : x ≤ average xs := by
  rw [average, le_div_iff₀ (length_pos h), mul_comm, ← nsmul_eq_mul]
  exact List.card_nsmul_le_sum xs x hle

theorem average_le (h : xs ≠ []) (hle : ∀ y ∈ xs, y ≤ x) : average xs ≤ x := by
  rw [average, div_le_iff₀ (length_pos h), mul_comm, ← nsmul_eq_mul]
  exact List.sum_le_card_nsmul xs x hle

/-! ### Doubles -/

/-- What a double stands for. -/
noncomputable def ofFloat (f : Float) : Exact :=
  match Double.of f with
  | .nan => nan
  | .infinite negative => infinite negative
  | .finite b => finite b.number

variable {f g : Float}

theorem ofFloat_of_amounts {q : ℚ} (h : Amounts f q) : ofFloat f = finite q := by
  obtain ⟨b, hb, rfl⟩ := h
  rw [ofFloat, hb]

end Exact

end SuiteBench.Decimal
