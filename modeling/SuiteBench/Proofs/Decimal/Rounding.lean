import Mathlib

/-!
# Proofs.Decimal.Rounding — doubles are rounded to the nearest one

A mantissa that is shifted to the right keeps two bits of what it loses, and these tell on which side of
a half that is.  So what is rounded is no farther from the exact value than any other double; whatever a
double bounds stays bounded by it.
-/

namespace SuiteBench.Decimal

open Float.Model Float.Model.UnpackedFloat

variable {x y z : ℚ} {m k : ℕ} {e : ℤ} {a : Accuracy} {em : ExtendedMantissa}

/-! ### The nearest double -/

/-- Whether a number is a non-negative double, however great the exponent. -/
def IsDouble (x : ℚ) : Prop := ∃ (m : ℕ) (e : ℤ), m < 2 ^ 53 ∧ -1074 ≤ e ∧ x = m * 2 ^ e

/-- Whether `y` is a double to which `x` may be rounded. -/
structure Nearest (x y : ℚ) : Prop where
  double : IsDouble y
  nearest : ∀ z, IsDouble z → |y - x| ≤ |z - x|

theorem isDouble_natCast (h : m ≤ 2 ^ 53) : IsDouble m := by
  rcases Nat.lt_or_eq_of_le h with h | rfl
  · exact ⟨m, 0, h, by decide, by simp⟩
  · exact ⟨2 ^ 52, 1, by decide, by decide, by norm_num⟩

theorem isDouble_pow (k : ℕ) : IsDouble (2 ^ k) :=
  ⟨1, k, by decide, by omega, by simp⟩

theorem IsDouble.nonneg (h : IsDouble x) : 0 ≤ x := by
  obtain ⟨m, e, -, -, rfl⟩ := h
  positivity

namespace Nearest

theorem le_of_le (h : Nearest x y) (hz : IsDouble z) (hxz : x ≤ z) : y ≤ z := by
  by_contra hlt
  have hnearest := h.nearest z hz
  rw [abs_of_nonneg (by linarith), abs_of_nonneg (by linarith)] at hnearest
  linarith

theorem le_of_ge (h : Nearest x y) (hz : IsDouble z) (hzx : z ≤ x) : z ≤ y := by
  by_contra hlt
  have hnearest := h.nearest z hz
  rw [abs_of_nonpos (by linarith), abs_of_nonpos (by linarith)] at hnearest
  linarith

theorem eq_of_isDouble (h : Nearest x y) (hx : IsDouble x) : y = x :=
  le_antisymm (h.le_of_le hx le_rfl) (h.le_of_ge hx le_rfl)

/-- Rounding keeps the order of numbers that differ. -/
theorem mono {x' y' : ℚ} (h : Nearest x y) (h' : Nearest x' y') (hlt : x < x') : y ≤ y' := by
  by_contra hgt
  -- if it did not, the middle of the two would lie between the numbers, from both sides
  have hbelow : y + y' ≤ 2 * x := by
    have hsq := sq_le_sq.mpr (h.nearest y' h'.double)
    nlinarith
  have habove : 2 * x' ≤ y + y' := by
    have hsq := sq_le_sq.mpr (h'.nearest y h.double)
    nlinarith
  linarith

end Nearest

/-! ### What the lost bits tell -/

/-- Whether a number lies at a mantissa as the accuracy says. -/
def Tells (a : Accuracy) (m : ℕ) (x : ℚ) : Prop :=
  match a with
  | .exact => x = m
  | .inexact .lt => m < x ∧ x < m + 1 / 2
  | .inexact .eq => x = m + 1 / 2
  | .inexact .gt => m + 1 / 2 < x ∧ x < m + 1

theorem Tells.bounds (h : Tells a m x) : m ≤ x ∧ x < m + 1 := by
  rcases a with _ | (_ | _ | _) <;> simp only [Tells] at h
  · subst h
    constructor <;> linarith
  · constructor <;> linarith
  · subst h
    constructor <;> linarith
  · constructor <;> linarith

theorem Tells.abs_rounded_sub_le (h : Tells a m x) : |(a.roundToNearestEven m : ℚ) - x| ≤ 1 / 2 := by
  rw [abs_le]
  rcases a with _ | (_ | _ | _) <;> simp only [Tells] at h <;>
    simp only [Accuracy.roundToNearestEven]
  · subst h
    constructor <;> linarith
  · constructor <;> linarith
  · -- a half goes to the even neighbour, either of which is as near
    subst h
    rcases Nat.mod_two_eq_zero_or_one m with hm | hm <;> rw [hm] <;> push_cast <;>
      constructor <;> linarith
  · push_cast
    constructor <;> linarith

theorem tells_ofMantissaAndAccuracy (h : Tells a m x) :
    Tells (ExtendedMantissa.ofMantissaAndAccuracy m a).accuracy
      (ExtendedMantissa.ofMantissaAndAccuracy m a).mantissa x := by
  rcases a with _ | (_ | _ | _) <;> exact h

theorem tells_shiftRightOne (h : Tells em.accuracy em.mantissa x) :
    Tells em.shiftRightOne.accuracy em.shiftRightOne.mantissa (x / 2) := by
  obtain ⟨m, r, s⟩ := em
  have hsum : ((m % 2 : ℕ) : ℚ) + 2 * ((m / 2 : ℕ) : ℚ) = m := by exact_mod_cast Nat.mod_add_div m 2
  rcases Nat.mod_two_eq_zero_or_one m with hm | hm <;> rw [hm] at hsum <;> push_cast at hsum <;>
    cases r <;> cases s <;>
    simp [ExtendedMantissa.shiftRightOne, ExtendedMantissa.accuracy, Tells, hm] at h ⊢ <;>
    first | linarith | exact ⟨by linarith, by linarith⟩

theorem tells_shiftRight (h : Tells em.accuracy em.mantissa x) (k : ℕ) :
    Tells (em >>> k).accuracy (em >>> k).mantissa (x / 2 ^ k) := by
  induction k with
  | zero =>
    rw [pow_zero, div_one]
    exact h
  | succ k ih =>
    rw [pow_succ, ← div_div]
    exact tells_shiftRightOne ih

/-! ### Rounding -/

/-- Whether a mantissa and an exponent are those that a double is stored with. -/
structure Canonical (m : ℕ) (e : ℤ) : Prop where
  bound : m < 2 ^ 53
  least : -1074 ≤ e
  /-- The mantissa has all its bits, unless the exponent is the least. -/
  full : 2 ^ 52 ≤ m ∨ e = -1074

/-- Whether an unpacked double is not negative and has a value. -/
inductive HasValue : UnpackedFloat → ℚ → Prop
  | zero : HasValue (.zero .positive) 0
  | finite {m : ℕ} {e : ℤ} (hm : 0 < m) (h : Canonical m e) :
      HasValue (.finite .positive m e hm) (m * 2 ^ e)

theorem targetExponent_eq (m : ℕ) (e : ℤ) :
    Format.binary64.targetExponent (totalExponent m e) = max (m.log2 + e - 52) (-1074) := by
  simp only [Format.targetExponent, totalExponent, Format.mantissaBits, Format.minExponent]
  norm_num
  omega

theorem log2_lt_of_lt (h : m < 2 ^ 53) : m.log2 ≤ 52 := by
  rw [Nat.log2_eq_log_two]
  exact Nat.lt_succ_iff.mp (Nat.log_lt_of_lt_pow' (by decide) h)

theorem shiftToTargetExponent_of_lt (hm : m < 2 ^ 53) (he : -1074 ≤ e) :
    shiftToTargetExponent Format.binary64 m e .exact = (⟨m, false, false⟩, e) := by
  have hlog := log2_lt_of_lt hm
  have hshift : (Format.binary64.targetExponent (totalExponent m e) - e).toNat = 0 := by
    rw [targetExponent_eq]
    omega
  rw [shiftToTargetExponent, shiftToExponent, hshift]
  exact Prod.ext rfl (Int.add_zero e)

theorem shiftToTargetExponent_full (he : -1074 ≤ e) :
    shiftToTargetExponent Format.binary64 (2 ^ 53) e .exact = (⟨2 ^ 52, false, false⟩, e + 1) := by
  have hshift : (Format.binary64.targetExponent (totalExponent (2 ^ 53) e) - e).toNat = 1 := by
    rw [targetExponent_eq, Nat.log2_two_pow]
    omega
  rw [shiftToTargetExponent, shiftToExponent, hshift]
  rfl

theorem mantissa_shiftRight (em : ExtendedMantissa) (k : ℕ) :
    (em >>> k).mantissa = em.mantissa / 2 ^ k := by
  induction k with
  | zero => exact (Nat.div_one _).symm
  | succ k ih =>
    rw [pow_succ, ← Nat.div_div_eq_div_mul, ← ih]
    rfl

/-- A stored double, taken apart. -/
def ofParts (s : Sign) (m : ℕ) (e : ℤ) : UnpackedFloat :=
  if hm : 0 < m then .finite s m e hm else .zero s

theorem hasValue_ofParts (h : Canonical m e) : HasValue (ofParts .positive m e) (m * 2 ^ e) := by
  rw [ofParts]
  split
  · next hm => exact .finite hm h
  · next hm =>
    rw [Nat.eq_zero_of_not_pos hm, Nat.cast_zero, zero_mul]
    exact .zero

theorem canonical_full (he : -1074 ≤ e) : Canonical (2 ^ 52) (e + 1) :=
  ⟨Nat.pow_lt_pow_right (by decide) (by decide), by omega, .inl le_rfl⟩

/-- A rounded mantissa may have one bit too many, which another shift takes away without loss. -/
theorem roundWithAccuracy_eq (s : Sign) (hm : em.roundedMantissa ≤ 2 ^ 53) (he : -1074 ≤ e)
    {m' : ℕ} {e' : ℤ} (hshift : shiftToTargetExponent Format.binary64 m' e' a = (em, e)) :
    roundWithAccuracy Format.binary64 s m' e' a =
      if em.roundedMantissa < 2 ^ 53 then ofParts s em.roundedMantissa e
      else ofParts s (2 ^ 52) (e + 1) := by
  rw [roundWithAccuracy, hshift]
  dsimp only
  rcases Nat.lt_or_eq_of_le hm with hlt | heq
  · rw [if_pos hlt, shiftToTargetExponent_of_lt hlt he]
    dsimp only [ofParts]
    split
    · next hzero => rw [dif_neg (by omega)]
    · next hne => rw [dif_pos (Nat.pos_of_ne_zero hne)]
  · rw [heq, if_neg (lt_irrefl _), shiftToTargetExponent_full he]
    rfl

theorem hasValue_roundWithAccuracy (hm : em.roundedMantissa ≤ 2 ^ 53) (he : -1074 ≤ e)
    (hfull : 2 ^ 52 ≤ em.roundedMantissa ∨ e = -1074) {m' : ℕ} {e' : ℤ}
    (hshift : shiftToTargetExponent Format.binary64 m' e' a = (em, e)) :
    HasValue (roundWithAccuracy Format.binary64 .positive m' e' a) (em.roundedMantissa * 2 ^ e) := by
  rw [roundWithAccuracy_eq .positive hm he hshift]
  split
  · next hlt => exact hasValue_ofParts ⟨hlt, he, hfull⟩
  · next hge =>
    have hvalue : (em.roundedMantissa : ℚ) * 2 ^ e = ((2 ^ 52 : ℕ) : ℚ) * 2 ^ (e + 1) := by
      rw [le_antisymm hm (not_lt.mp hge), zpow_add₀ (by norm_num)]
      push_cast
      ring
    rw [hvalue]
    exact hasValue_ofParts (canonical_full he)

/-- No double is nearer to a number than its rounded mantissa, if that has all its bits. -/
theorem nearest_of_tells (h : Tells a m (x / 2 ^ e)) (hfull : 2 ^ 52 ≤ m ∨ e = -1074)
    (hdouble : IsDouble (a.roundToNearestEven m * 2 ^ e)) :
    Nearest x (a.roundToNearestEven m * 2 ^ e) := by
  have hpos : (0 : ℚ) < 2 ^ e := by positivity
  have hscale (y : ℚ) : |y * 2 ^ e - x| = |y - x / 2 ^ e| * 2 ^ e := by
    rw [← abs_of_pos hpos, ← abs_mul, abs_of_pos hpos, sub_mul, div_mul_cancel₀ _ hpos.ne']
  -- other whole numbers are at least a half away
  have hwhole (n : ℤ) : |(a.roundToNearestEven m : ℚ) - x / 2 ^ e| ≤ |n - x / 2 ^ e| := by
    have hhalf := h.abs_rounded_sub_le
    rcases eq_or_ne n (a.roundToNearestEven m) with rfl | hne
    · rw [Int.cast_natCast]
    · have hone : (1 : ℚ) ≤ |(n : ℚ) - a.roundToNearestEven m| := by
        exact_mod_cast Int.one_le_abs (sub_ne_zero.mpr hne)
      have htriangle := abs_sub_le (n : ℚ) (x / 2 ^ e) (a.roundToNearestEven m)
      rw [abs_sub_comm (x / 2 ^ e)] at htriangle
      linarith
  refine ⟨hdouble, ?_⟩
  rintro z ⟨m', e', hm', he', rfl⟩
  rw [hscale]
  rcases le_or_gt e e' with hle | hlt
  · -- a double with no less an exponent is a whole number of units
    have hz : (m' : ℚ) * 2 ^ e' = ((m' * 2 ^ (e' - e).toNat : ℤ) : ℚ) * 2 ^ e := by
      push_cast
      rw [mul_assoc, ← zpow_natCast, ← zpow_add₀ (by norm_num), Int.toNat_of_nonneg (by omega)]
      congr 2
      omega
    rw [hz, hscale]
    exact mul_le_mul_of_nonneg_right (hwhole _) hpos.le
  · -- one with a lesser exponent stays below the least mantissa with all its bits
    have hm : 2 ^ 52 ≤ m := hfull.resolve_right (by omega)
    have hm : (2 : ℚ) ^ 52 ≤ m := by exact_mod_cast hm
    have hsmall : (m' : ℚ) * 2 ^ e' ≤ 2 ^ 52 * 2 ^ e := by
      have hm' : (m' : ℚ) ≤ 2 ^ 53 := by exact_mod_cast hm'.le
      calc (m' : ℚ) * 2 ^ e' ≤ 2 ^ 53 * 2 ^ (e - 1) := by
            refine mul_le_mul hm' (zpow_le_zpow_right₀ (by norm_num) (by omega)) ?_ ?_ <;> positivity
        _ = 2 ^ 52 * 2 ^ e := by
            rw [zpow_sub₀ (by norm_num)]
            ring
    have hx : (2 : ℚ) ^ 52 ≤ x / 2 ^ e := hm.trans h.bounds.1
    have hnearer := hwhole (2 ^ 52)
    rw [Int.cast_pow, Int.cast_ofNat, abs_of_nonpos (by linarith : (2 : ℚ) ^ 52 - x / 2 ^ e ≤ 0)] at hnearer
    have hx' : 2 ^ 52 * 2 ^ e ≤ x := (le_div_iff₀ hpos).mp hx
    calc |(a.roundToNearestEven m : ℚ) - x / 2 ^ e| * 2 ^ e ≤ -(2 ^ 52 - x / 2 ^ e) * 2 ^ e :=
          mul_le_mul_of_nonneg_right hnearer hpos.le
      _ = x - 2 ^ 52 * 2 ^ e := by field_simp; ring
      _ ≤ |(m' : ℚ) * 2 ^ e' - x| := by
          rw [abs_of_nonpos (by linarith)]
          linarith

theorem HasValue.isDouble {u : UnpackedFloat} (h : HasValue u x) : IsDouble x := by
  cases h with
  | zero => exact ⟨0, 0, by decide, by decide, by simp⟩
  | @finite m e hm h => exact ⟨m, e, h.bound, h.least, rfl⟩

theorem roundedMantissa_bounds (em : ExtendedMantissa) :
    em.mantissa ≤ em.roundedMantissa ∧ em.roundedMantissa ≤ em.mantissa + 1 := by
  rw [ExtendedMantissa.roundedMantissa]
  rcases em.accuracy with _ | (_ | _ | _) <;> simp only [Accuracy.roundToNearestEven] <;> omega

/-- A number that has bits enough is shifted to the place where it is rounded. -/
theorem exists_shift (h : Tells a m (x / 2 ^ e)) (henough : 52 ≤ m.log2 ∨ e ≤ -1074) :
    ∃ (em : ExtendedMantissa) (t : ℤ), shiftToTargetExponent Format.binary64 m e a = (em, t) ∧
      Tells em.accuracy em.mantissa (x / 2 ^ t) ∧ em.mantissa < 2 ^ 53 ∧
      (2 ^ 52 ≤ em.mantissa ∨ t = -1074) ∧ -1074 ≤ t := by
  obtain ⟨k, hk⟩ : ∃ k : ℕ, (max (m.log2 + e - 52) (-1074) - e).toNat = k := ⟨_, rfl⟩
  have hmantissa : (ExtendedMantissa.ofMantissaAndAccuracy m a).mantissa = m := by
    rcases a with _ | (_ | _ | _) <;> rfl
  have htells := tells_shiftRight (tells_ofMantissaAndAccuracy h) k
  rw [div_div, ← zpow_natCast, ← zpow_add₀ (by norm_num)] at htells
  have hvalue := mantissa_shiftRight (ExtendedMantissa.ofMantissaAndAccuracy m a) k
  rw [hmantissa] at hvalue
  refine ⟨ExtendedMantissa.ofMantissaAndAccuracy m a >>> k, e + k, ?_, htells, ?_, ?_, by omega⟩
  · rw [shiftToTargetExponent, shiftToExponent, targetExponent_eq, hk]
  · rw [hvalue, Nat.div_lt_iff_lt_mul (by positivity), ← pow_add]
    exact Nat.lt_log2_self.trans_le (Nat.pow_le_pow_right (by decide) (by omega))
  · by_cases hleast : e + k = -1074
    · exact .inr hleast
    · have hlog : m.log2 = 52 + k := by omega
      have hm : m ≠ 0 := by
        rintro rfl
        simp at hlog
        omega
      rw [hvalue, Nat.le_div_iff_mul_le (by positivity), ← pow_add, ← hlog]
      exact .inl (Nat.log2_self_le hm)

/-- What is rounded: a mantissa with bits enough, of which the accuracy tells what the number has more. -/
def RoundedFrom (u : UnpackedFloat) (x : ℚ) : Prop :=
  ∃ (m : ℕ) (e : ℤ) (a : Accuracy), u = roundWithAccuracy Format.binary64 .positive m e a ∧
    Tells a m (x / 2 ^ e) ∧ (52 ≤ m.log2 ∨ e ≤ -1074)

/-- A number that has bits enough is rounded to the nearest double. -/
theorem RoundedFrom.exists_nearest {u : UnpackedFloat} (h : RoundedFrom u x) :
    ∃ y, Nearest x y ∧ HasValue u y := by
  obtain ⟨m, e, a, rfl, h, henough⟩ := h
  obtain ⟨em, t, hshift, htells, hbound, hfull, ht⟩ := exists_shift h henough
  obtain ⟨hle, hge⟩ := roundedMantissa_bounds em
  have hresult := hasValue_roundWithAccuracy (by omega) ht (hfull.imp_left fun hm => hm.trans hle) hshift
  exact ⟨_, nearest_of_tells htells hfull hresult.isDouble, hresult⟩

end SuiteBench.Decimal
