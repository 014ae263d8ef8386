import SuiteBench.Proofs.Decimal.Reading

/-!
# Proofs.Decimal.Shortest — what is written lies in the rounding interval

A point of a grid is taken only where it lies in the interval of the double.  The grid of seventeen digits
always has such a point next to the double, since its points are closer together than the ends of the
interval.
-/

namespace SuiteBench.Decimal

variable {f : Float} {b : Binary} {s : Scientific} {lead k : ℤ} {c n d : ℕ}

/-- The value of a decimal. -/
def Scientific.value (s : Scientific) : ℚ := s.coefficient * 10 ^ s.exponent

/-! ### Quotients of naturals -/

theorem exists_scaleTwo (e : ℤ) : ∃ d : ℕ, 0 < d ∧ ∀ n, (scaleTwo n e).2 = d ∧
    ((scaleTwo n e).1 : ℚ) = n * 2 ^ e * d := by
  rcases le_or_gt 0 e with he | he
  · obtain ⟨i, rfl⟩ := Int.eq_ofNat_of_zero_le he
    refine ⟨1, one_pos, fun n => ?_⟩
    simp [scaleTwo]
  · obtain ⟨i, rfl⟩ : ∃ i : ℕ, e = -i := ⟨(-e).toNat, by omega⟩
    refine ⟨2 ^ i, by positivity, fun n => ?_⟩
    rw [scaleTwo, if_neg (by omega)]
    simp

theorem exists_scaleTen (e k : ℤ) : ∃ d : ℕ, 0 < d ∧ ∀ n, (scaleTen (scaleTwo n e) (-k)).2 = d ∧
    ((scaleTen (scaleTwo n e) (-k)).1 : ℚ) = n * 2 ^ e / 10 ^ k * d := by
  obtain ⟨d, hd, hscale⟩ := exists_scaleTwo e
  rcases le_or_gt k 0 with hk | hk
  · obtain ⟨i, rfl⟩ : ∃ i : ℕ, k = -i := ⟨(-k).toNat, by omega⟩
    refine ⟨d, hd, fun n => ?_⟩
    obtain ⟨hden, hnum⟩ := hscale n
    simp only [scaleTen, neg_neg, Int.natCast_nonneg, if_true, Int.toNat_natCast, Nat.pow_eq, hden, true_and]
    push_cast
    rw [hnum, zpow_neg, zpow_natCast, div_inv_eq_mul]
    ring
  · obtain ⟨i, rfl⟩ := Int.eq_ofNat_of_zero_le hk.le
    refine ⟨d * 10 ^ i, by positivity, fun n => ?_⟩
    obtain ⟨hden, hnum⟩ := hscale n
    have hneg : ¬(0 : ℤ) ≤ -i := by omega
    simp only [scaleTen, hneg, if_false, neg_neg, Int.toNat_natCast, Nat.pow_eq, hden, true_and]
    push_cast
    rw [hnum, zpow_natCast]
    field_simp

/-- The leading digit of a quotient is not beyond the quotient. -/
theorem pow_leadingExponent_le (hn : 0 < n) (hd : 0 < d) : (10 : ℚ) ^ leadingExponent n d ≤ n / d := by
  have hdpos : (0 : ℚ) < d := by exact_mod_cast hd
  have hinverse {j : ℕ} (h : d ≤ n * 10 ^ j) : (10 : ℚ) ^ (-(j : ℤ)) ≤ n / d := by
    have h : (d : ℚ) ≤ n * 10 ^ j := by exact_mod_cast h
    rw [zpow_neg, zpow_natCast, le_div_iff₀ hdpos, inv_mul_le_iff₀ (by positivity), mul_comm]
    exact h
  rw [leadingExponent]
  split
  · next hle =>
    have hlength := List.length_pos_iff.mpr (digits_ne_nil (n / d))
    have hexponent : ((digits (n / d)).length - 1 : ℤ) = ((digits (n / d)).length - 1 : ℕ) := by omega
    have hleast : ((10 ^ ((digits (n / d)).length - 1) : ℕ) : ℚ) ≤ (n / d : ℕ) := by
      exact_mod_cast pow_length_digits_le (Nat.div_pos hle hd)
    rw [hexponent, zpow_natCast]
    exact (by exact_mod_cast hleast : (10 : ℚ) ^ _ ≤ (n / d : ℕ)).trans Nat.cast_div_le
  · dsimp only
    split
    · next hle => exact hinverse hle
    · refine hinverse ?_
      have hlt := lt_pow_length_digits (d / n)
      rw [Nat.div_lt_iff_lt_mul hn, Nat.mul_comm] at hlt
      exact hlt.le

/-! ### Grids -/

/-- Whether a point of a grid lies in the rounding interval. -/
def Binary.Covers (b : Binary) (k : ℤ) (c : ℕ) : Prop :=
  if b.interval.closed then
    b.interval.low * 2 ^ (b.exponent - 2) ≤ (c * 10 ^ k : ℚ) ∧
      (c * 10 ^ k : ℚ) ≤ b.interval.high * 2 ^ (b.exponent - 2)
  else
    b.interval.low * 2 ^ (b.exponent - 2) < (c * 10 ^ k : ℚ) ∧
      (c * 10 ^ k : ℚ) < b.interval.high * 2 ^ (b.exponent - 2)

section Scaled

variable {x : ℚ} (hd : 0 < d) (hn : (n : ℚ) = x / 10 ^ k * d)
include hd hn

theorem le_mul_iff : n ≤ c * d ↔ x ≤ c * 10 ^ k := by
  have hd : (0 : ℚ) < d := by exact_mod_cast hd
  rw [← Nat.cast_le (α := ℚ), hn, Nat.cast_mul, mul_le_mul_iff_left₀ hd, div_le_iff₀ (by positivity)]

theorem mul_le_iff : c * d ≤ n ↔ c * 10 ^ k ≤ x := by
  have hd : (0 : ℚ) < d := by exact_mod_cast hd
  rw [← Nat.cast_le (α := ℚ), hn, Nat.cast_mul, mul_le_mul_iff_left₀ hd, le_div_iff₀ (by positivity)]

theorem lt_mul_iff : n < c * d ↔ x < c * 10 ^ k := lt_iff_lt_of_le_iff_le (mul_le_iff hd hn)

theorem mul_lt_iff : c * d < n ↔ c * 10 ^ k < x := lt_iff_lt_of_le_iff_le (le_mul_iff hd hn)

end Scaled

/-- Of the two points of a grid next to the double one is taken that lies in its interval, if there is one. -/
theorem onGrid_spec (b : Binary) (lead : ℤ) (i : ℕ) :
    (∀ s ∈ b.onGrid lead i, b.Covers s.exponent s.coefficient) ∧
      (b.onGrid lead i = none → ∃ c : ℕ,
        c * 10 ^ (lead - (i - 1 : ℕ)) ≤ (b.interval.value * 2 ^ (b.exponent - 2) : ℚ) ∧
        (b.interval.value * 2 ^ (b.exponent - 2) : ℚ) < (c + 1 : ℕ) * 10 ^ (lead - (i - 1 : ℕ)) ∧
        (c ≠ 0 → ¬b.Covers (lead - (i - 1 : ℕ)) c) ∧ ¬b.Covers (lead - (i - 1 : ℕ)) (c + 1)) := by
  rw [Binary.onGrid]
  dsimp only
  generalize lead - ((i - 1 : ℕ) : ℤ) = k
  obtain ⟨d, hd, hscaled⟩ := exists_scaleTen (b.exponent - 2) k
  obtain ⟨hden, hvalue⟩ := hscaled b.interval.value
  obtain ⟨-, hlow⟩ := hscaled b.interval.low
  obtain ⟨-, hhigh⟩ := hscaled b.interval.high
  rw [hden]
  clear hscaled hden
  generalize (scaleTen (scaleTwo b.interval.value (b.exponent - 2)) (-k)).1 = num at hvalue ⊢
  generalize (scaleTen (scaleTwo b.interval.low (b.exponent - 2)) (-k)).1 = lo at hlow ⊢
  generalize (scaleTen (scaleTwo b.interval.high (b.exponent - 2)) (-k)).1 = hi at hhigh ⊢
  have hcovers (c : ℕ) : (if b.interval.closed = true then decide (lo ≤ c * d) && decide (c * d ≤ hi)
      else decide (lo < c * d) && decide (c * d < hi)) = true ↔ b.Covers k c := by
    rw [Binary.Covers, ← le_mul_iff hd hlow, ← mul_le_iff hd hhigh, ← lt_mul_iff hd hlow,
      ← mul_lt_iff hd hhigh]
    split <;> simp
  have hbelow := hcovers (num / d)
  have habove := hcovers (num / d + 1)
  generalize (if b.interval.closed = true then decide (lo ≤ num / d * d) && decide (num / d * d ≤ hi)
    else decide (lo < num / d * d) && decide (num / d * d < hi)) = inside at hbelow ⊢
  generalize (if b.interval.closed = true then
    decide (lo ≤ (num / d + 1) * d) && decide ((num / d + 1) * d ≤ hi)
    else decide (lo < (num / d + 1) * d) && decide ((num / d + 1) * d < hi)) = inside' at habove ⊢
  split
  · next h =>
    refine ⟨fun s hs => ?_, fun hnone => ?_⟩
    · rw [Bool.and_eq_true] at h
      split at hs
      · obtain rfl := Option.some.inj hs
        exact hbelow.mp h.1
      · obtain rfl := Option.some.inj hs
        exact habove.mp rfl
    · split at hnone <;> cases hnone
  · next h =>
    rw [Bool.and_eq_true] at h
    refine ⟨fun s hs => ?_, fun hnone => nomatch hnone⟩
    obtain rfl := Option.some.inj hs
    exact hbelow.mp h.1
  · refine ⟨fun s hs => ?_, fun hnone => nomatch hnone⟩
    obtain rfl := Option.some.inj hs
    exact habove.mp rfl
  · next h =>
    refine ⟨fun s hs => (nomatch hs), fun _ => ⟨num / d, ?_, ?_, fun hne hcover => ?_, fun hcover => ?_⟩⟩
    · exact (mul_le_iff hd hvalue).mp (Nat.div_mul_le_self num d)
    · refine (lt_mul_iff hd hvalue).mp ?_
      rw [Nat.mul_comm]
      exact Nat.lt_mul_div_succ num hd
    · rw [hbelow.mpr hcover, Bool.true_and, bne_eq_false_iff_eq] at h
      exact hne h
    · cases habove.mpr hcover

/-! ### The interval -/

section Interval

variable (hp : Parts f b) (hpos : 0 < b.mantissa)
include hp hpos

theorem Parts.low_eq : (b.interval.low * 2 ^ (b.exponent - 2) : ℚ) =
    (b.mantissa - reach b.mantissa b.exponent) * 2 ^ b.exponent := by
  have hlow : (b.interval.low : ℚ) = 4 * (b.mantissa - reach b.mantissa b.exponent) := by
    rw [Binary.interval, reach]
    dsimp only
    rw [hp.atPowerOfTwo]
    simp only [decide_eq_true_eq]
    split
    · rw [Nat.cast_sub (by omega)]
      push_cast
      ring
    · rw [Nat.cast_sub (by omega)]
      push_cast
      ring
  rw [hlow, zpow_sub₀ (by norm_num)]
  ring

omit hp hpos in
theorem Binary.high_eq (b : Binary) : (b.interval.high * 2 ^ (b.exponent - 2) : ℚ) =
    (b.mantissa + 1 / 2) * 2 ^ b.exponent := by
  rw [Binary.interval, zpow_sub₀ (by norm_num)]
  push_cast
  ring

omit hp hpos in
theorem Binary.value_eq (b : Binary) : (b.interval.value * 2 ^ (b.exponent - 2) : ℚ) =
    b.mantissa * 2 ^ b.exponent := by
  rw [Binary.interval, zpow_sub₀ (by norm_num)]
  push_cast
  ring

omit hp hpos in
theorem Binary.closed_iff (b : Binary) : b.interval.closed = true ↔ b.mantissa % 2 = 0 := by
  rw [Binary.interval]
  exact beq_iff_eq

/-- What the interval covers is rounded to the double. -/
theorem Parts.roundsTo (h : b.Covers k c) : RoundsTo (c * 10 ^ k) b.mantissa b.exponent := by
  rw [Binary.Covers, hp.low_eq hpos, b.high_eq] at h
  split at h
  · next hm => exact ⟨hp.stored, h.1, h.2, fun _ => b.closed_iff.mp hm⟩
  · refine ⟨hp.stored, h.1.le, h.2.le, ?_⟩
    rintro (heq | heq)
    · exact absurd heq h.1.ne'
    · exact absurd heq h.2.ne

/-- What lies between the ends of the interval is covered. -/
theorem Parts.covers (hlow : (b.mantissa - reach b.mantissa b.exponent) * 2 ^ b.exponent < (c * 10 ^ k : ℚ))
    (hhigh : (c * 10 ^ k : ℚ) < (b.mantissa + 1 / 2) * 2 ^ b.exponent) : b.Covers k c := by
  rw [Binary.Covers, hp.low_eq hpos, b.high_eq]
  split
  · exact ⟨hlow.le, hhigh.le⟩
  · exact ⟨hlow, hhigh⟩

/-- The points of a grid of seventeen digits are so close that one of the two next to the double lies in its
interval. -/
theorem Parts.onGrid_ne_none (hlead : (10 : ℚ) ^ lead ≤ b.mantissa * 2 ^ b.exponent) :
    b.onGrid lead 17 ≠ none := by
  intro hnone
  obtain ⟨c, hle, hlt, hbelow, habove⟩ := (onGrid_spec b lead 17).2 hnone
  have hunit : (0 : ℚ) < 2 ^ b.exponent := by positivity
  have hstep : (0 : ℚ) < 10 ^ (lead - (17 - 1 : ℕ)) := by positivity
  have hdigits : 10 ^ 16 * 10 ^ (lead - (17 - 1 : ℕ)) ≤ (b.mantissa * 2 ^ b.exponent : ℚ) := by
    refine le_trans (le_of_eq ?_) hlead
    rw [← zpow_natCast, ← zpow_add₀ (by norm_num)]
    congr 1
    omega
  rw [b.value_eq] at hle hlt
  have hc : c ≠ 0 := by
    rintro rfl
    have : (10 : ℚ) ^ 16 * 10 ^ (lead - (17 - 1 : ℕ)) < 1 * 10 ^ (lead - (17 - 1 : ℕ)) := by
      simpa using hdigits.trans_lt hlt
    have := lt_of_mul_lt_mul_right this hstep.le
    norm_num at this
  -- if neither point lies in the interval, a step of the grid is as long as the interval
  have hlow : (c * 10 ^ (lead - (17 - 1 : ℕ)) : ℚ) ≤
      (b.mantissa - reach b.mantissa b.exponent) * 2 ^ b.exponent := by
    by_contra hout
    refine hbelow hc (hp.covers hpos (not_le.mp hout) (hle.trans_lt ?_))
    exact mul_lt_mul_of_pos_right (by linarith) hunit
  have hhigh : (b.mantissa + 1 / 2) * 2 ^ b.exponent ≤ ((c + 1 : ℕ) * 10 ^ (lead - (17 - 1 : ℕ)) : ℚ) := by
    by_contra hout
    refine habove (hp.covers hpos (lt_of_le_of_lt ?_ hlt) (not_le.mp hout))
    exact mul_le_mul_of_nonneg_right (by linarith [reach_pos b.mantissa b.exponent]) hunit.le
  rw [Nat.cast_add_one] at hhigh
  generalize (10 : ℚ) ^ (lead - (17 - 1 : ℕ)) = t at hdigits hlow hhigh
  have hlong : (1 / 2 + reach b.mantissa b.exponent) * 2 ^ b.exponent ≤ t := by linarith
  have hmantissa : 10 ^ 16 * (1 / 2 + reach b.mantissa b.exponent) ≤ (b.mantissa : ℚ) := by
    refine le_of_mul_le_mul_right ?_ hunit
    linarith
  have hbound : (b.mantissa : ℚ) < 2 ^ 53 := by exact_mod_cast hp.stored.bound
  rw [reach] at hmantissa
  split at hmantissa
  · next hpower =>
    rw [hpower.1] at hmantissa
    norm_num at hmantissa
  · linarith

end Interval

/-! ### The shortest decimal -/

/-- Moving a zero into the exponent keeps the value. -/
theorem value_dropZeros (fuel : ℕ) (s : Scientific) : (dropZeros fuel s).value = s.value := by
  induction fuel generalizing s with
  | zero => rfl
  | succ fuel ih =>
    rw [dropZeros]
    split
    · next hzero =>
      rw [Bool.and_eq_true, beq_iff_eq] at hzero
      have hten : (s.coefficient : ℚ) = (s.coefficient / 10 : ℕ) * 10 := by
        exact_mod_cast (Nat.div_mul_cancel (Nat.dvd_of_mod_eq_zero hzero.2)).symm
      rw [ih, Scientific.value, Scientific.value, hten, zpow_add₀ (by norm_num)]
      ring
    · rfl

/-- The decimal that a double is written as lies in its interval. -/
theorem Parts.shortest (hp : Parts f b) : RoundsTo b.shortest.value b.mantissa b.exponent := by
  rw [Binary.shortest]
  split
  · next hzero =>
    have hm := beq_iff_eq.mp hzero
    have he : b.exponent = -1074 := hp.stored.full.resolve_left (by omega)
    rw [hm, he, Scientific.value]
    norm_num
    exact roundsTo_zero le_rfl (by positivity)
  · next hne =>
    have hpos : 0 < b.mantissa := Nat.pos_of_ne_zero fun h => hne (beq_iff_eq.mpr h)
    obtain ⟨d, hd, hscale⟩ := exists_scaleTwo b.exponent
    obtain ⟨hden, hnum⟩ := hscale b.mantissa
    have hdpos : (0 : ℚ) < d := by exact_mod_cast hd
    have hmpos : (0 : ℚ) < b.mantissa := by exact_mod_cast hpos
    have hnpos : 0 < (scaleTwo b.mantissa b.exponent).1 := by
      have : (0 : ℚ) < (scaleTwo b.mantissa b.exponent).1 := by
        rw [hnum]
        positivity
      exact_mod_cast this
    have hlead := pow_leadingExponent_le hnpos hd
    rw [hnum, mul_div_cancel_right₀ _ hdpos.ne', ← hden] at hlead
    dsimp only
    split
    · next s hs =>
      obtain ⟨i, -, hi⟩ := List.exists_of_findSome?_eq_some hs
      rw [value_dropZeros]
      exact hp.roundsTo hpos ((onGrid_spec _ _ _).1 s hi)
    · next hnone =>
      rw [List.findSome?_eq_none_iff] at hnone
      exact absurd (hnone 16 (by simp)) (hp.onGrid_ne_none hpos hlead)

/-- Zero alone is written with the digit zero. -/
theorem Parts.exponent_shortest (hp : Parts f b) (h : b.shortest.coefficient = 0) :
    b.shortest.exponent = 0 := by
  have hm : b.mantissa = 0 := by
    have hunit : (0 : ℚ) < 2 ^ b.exponent := by positivity
    have hbelow := hp.shortest.below
    rw [Scientific.value, h, Nat.cast_zero, zero_mul] at hbelow
    have hle : (b.mantissa : ℚ) - reach b.mantissa b.exponent ≤ 0 := by
      by_contra hlt
      exact absurd (mul_pos (not_le.mp hlt) hunit) (not_lt.mpr hbelow)
    have hreach := reach_le b.mantissa b.exponent
    have hlt : (b.mantissa : ℚ) < 1 := by linarith
    exact Nat.lt_one_iff.mp (by exact_mod_cast hlt)
  rw [Binary.shortest, hm]
  rfl

/-- A finite double is read back from the decimal that it is written as. -/
theorem nearest_shortest (h : Double.of f = .finite b) :
    nearest b.negative b.shortest.coefficient b.shortest.exponent = f :=
  nearest_eq h (parts_of h).shortest

end SuiteBench.Decimal
