import SuiteBench.Proofs.Decimal.Doubles

/-!
# Proofs.Decimal.Places — rounding to whole numbers and to decimal places

The nearest whole double is exact: truncation and the rest that it leaves lose nothing.  Figures with
decimal places are scaled, rounded to a whole number and scaled back, so that bounds which are whole
numbers are kept all the way.
-/

namespace SuiteBench.Decimal

open Float.Model Float.Model.UnpackedFloat

variable {x y : ℚ} {m n : ℕ} {e : ℤ} {f : Float}

/-! ### Whole numbers -/

/-- A mantissa is cut off at the point. -/
theorem mantissa_shiftToExponent_zero (m : ℕ) (e : ℤ) :
    (shiftToExponent (decreaseExponent m e 0).1 (decreaseExponent m e 0).2 .exact 0).1.mantissa =
      ⌊(m * 2 ^ e : ℚ)⌋₊ := by
  simp only [decreaseExponent, shiftToExponent, mantissa_shiftRight,
    ExtendedMantissa.ofMantissaAndAccuracy, Nat.shiftLeft_eq]
  rcases le_or_gt 0 e with hle | hlt
  · obtain ⟨k, rfl⟩ := Int.eq_ofNat_of_zero_le hle
    have hvalue : (m * 2 ^ (k : ℤ) : ℚ) = ((m * 2 ^ k : ℕ) : ℚ) := by
      rw [zpow_natCast]
      push_cast
      rfl
    rw [hvalue, Nat.floor_natCast]
    simp
  · obtain ⟨k, hk⟩ : ∃ k : ℕ, e = -k := ⟨(-e).toNat, by omega⟩
    have hvalue : (m * 2 ^ e : ℚ) = (m : ℚ) / ((2 ^ k : ℕ) : ℚ) := by
      rw [hk, zpow_neg, zpow_natCast]
      push_cast
      rfl
    rw [hvalue, Nat.floor_div_natCast, Nat.floor_natCast, hk]
    simp

theorem toUInt64_of_denotes (h : Denotes f x) (hx : x < 2 ^ 64) : f.toUInt64 = UInt64.ofNat ⌊x⌋₊ := by
  have hfloor : ⌊x⌋₊ < UInt64.size := by
    rw [Nat.floor_lt h.nonneg]
    exact_mod_cast hx
  have htoInt : UnpackedFloat.toInt 0 (UInt64.size - 1) f.toModel.unpack = ⌊x⌋₊ := by
    rw [Denotes] at h
    generalize f.toModel.unpack = u at h
    cases h with
    | zero => simp [UnpackedFloat.toInt]
    | finite hm _ => exact congrArg Nat.cast (mantissa_shiftToExponent_zero _ _)
  change UInt64.ofNatClamp (UnpackedFloat.toInt 0 (UInt64.size - 1) f.toModel.unpack).toNat = _
  rw [htoInt, Int.toNat_natCast, UInt64.ofNatClamp, dif_pos hfloor, UInt64.ofNatLT_eq_ofNat]

theorem denotes_abs (h : Denotes f x) (hx : x ≤ 2 ^ 100) : Denotes f.abs x := by
  refine denotes_pack (u := f.toModel.unpack.abs) ?_ hx
  rw [Denotes] at h
  generalize f.toModel.unpack = u at h
  cases h with
  | zero => exact .zero
  | finite hm h => exact .finite hm h

theorem ofBitVec_eq_positive {b : BitVec 1} (h : Sign.ofBitVec b = .positive) : b = 0#1 := by
  by_contra hne
  rw [Sign.ofBitVec, if_neg hne] at h
  cases h

/-- A double that is not negative has no sign bit. -/
theorem unpackSign_of_hasValue {b : BitVec 64}
    (h : HasValue (UnpackedFloat.unpack Format.binary64 b) x) :
    @unpackSign Format.binary64 b = 0#1 := by
  refine ofBitVec_eq_positive ?_
  rw [UnpackedFloat.unpack] at h
  generalize Sign.ofBitVec (@unpackSign Format.binary64 b) = s at h
  dsimp only at h
  split at h
  · split at h <;> cases h
  · split at h
    · split at h <;> cases h <;> rfl
    · cases h
      rfl

theorem toBits_lt_of_denotes (h : Denotes f x) : f.toBits < 9223372036854775808 := by
  have hsign := congrArg BitVec.toNat (unpackSign_of_hasValue h)
  have hlt : f.toBits.toNat < 2 ^ 64 := f.toBits.toNat_lt
  simp only [unpackSign, BitVec.toNat_cast, BitVec.extractLsb_toNat, Nat.shiftRight_eq_div_pow] at hsign
  change f.toBits.toNat / 2 ^ 63 % 2 = 0 at hsign
  rw [UInt64.lt_iff_toNat_lt]
  change f.toBits.toNat < 2 ^ 63
  omega

theorem isDouble_sub_floor (h : IsDouble x) : IsDouble (x - ⌊x⌋₊) := by
  obtain ⟨m, e, hm, he, rfl⟩ := h
  rcases le_or_gt 0 e with hle | hlt
  · obtain ⟨k, rfl⟩ := Int.eq_ofNat_of_zero_le hle
    have hvalue : (m * 2 ^ (k : ℤ) : ℚ) = ((m * 2 ^ k : ℕ) : ℚ) := by
      rw [zpow_natCast]
      push_cast
      rfl
    rw [hvalue, Nat.floor_natCast, sub_self]
    exact HasValue.zero.isDouble
  · obtain ⟨k, rfl⟩ : ∃ k : ℕ, e = -k := ⟨(-e).toNat, by omega⟩
    have hvalue : (m * 2 ^ (-k : ℤ) : ℚ) = (m : ℚ) / ((2 ^ k : ℕ) : ℚ) := by
      rw [zpow_neg, zpow_natCast]
      push_cast
      rfl
    have hsum : ((2 ^ k : ℕ) : ℚ) * ((m / 2 ^ k : ℕ) : ℚ) + ((m % 2 ^ k : ℕ) : ℚ) = m := by
      exact_mod_cast Nat.div_add_mod m (2 ^ k)
    refine ⟨m % 2 ^ k, -k, (Nat.mod_le _ _).trans_lt hm, he, ?_⟩
    rw [hvalue, Nat.floor_div_natCast, Nat.floor_natCast, ← hsum, zpow_neg, zpow_natCast]
    push_cast
    field_simp
    ring

theorem denotes_zero : Denotes 0.0 0 := .zero

theorem denotes_one : Denotes 1.0 1 := by
  have hvalue : (1.0 : Float) = (UInt64.ofNat 1).toFloat := rfl
  exact hvalue ▸ Nat.cast_one (R := ℚ) ▸ denotes_toFloat_of_le (by decide)

theorem denotes_half : Denotes 0.5 (1 / 2) := by
  have hvalue : (0.5 : Float) = 1.0 / (UInt64.ofNat 2).toFloat := by decide +kernel
  have htwo : Denotes (UInt64.ofNat 2).toFloat ((2 : ℕ) : ℚ) := denotes_toFloat_of_le (by decide)
  obtain ⟨z, hz, hdenotes⟩ := denotes_one.div htwo (by norm_num) (by norm_num)
  have hhalf : IsDouble ((1 : ℚ) / (2 : ℕ)) := ⟨1, -1, by decide, by decide, by norm_num⟩
  rw [hz.eq_of_isDouble hhalf, ← hvalue] at hdenotes
  exact hdenotes

/-- The least double from which on all are whole. -/
theorem denotes_limit : Denotes 4503599627370496.0 ((2 ^ 52 : ℕ) : ℚ) := by
  have hvalue : (4503599627370496.0 : Float) = (UInt64.ofNat (2 ^ 52)).toFloat := rfl
  exact hvalue ▸ denotes_toFloat_of_le (by decide)

/-- The nearest whole double of a number that is not negative, a half being rounded up. -/
theorem denotes_wholeDouble (h : Denotes f x) (hx : x < 2 ^ 52) :
    Denotes (wholeDouble f) ⌊x + 1 / 2⌋₊ := by
  have hbound : x ≤ 2 ^ 100 := hx.le.trans (pow_le_pow_right₀ (by norm_num) (by decide))
  have hn : ⌊x⌋₊ < 2 ^ 52 := by
    rw [Nat.floor_lt h.nonneg]
    exact_mod_cast hx
  have habs := denotes_abs h hbound
  have hbelow : Denotes f.abs.toUInt64.toFloat ⌊x⌋₊ := by
    rw [toUInt64_of_denotes habs (hx.trans (by norm_num))]
    exact denotes_toFloat_of_le (by omega)
  have hrest : Denotes (f.abs - f.abs.toUInt64.toFloat) (x - ⌊x⌋₊) := by
    obtain ⟨z, hz, hdenotes⟩ := habs.sub hbelow (Nat.floor_le h.nonneg) hbound
    rwa [hz.eq_of_isDouble (isDouble_sub_floor h.isDouble)] at hdenotes
  rw [wholeDouble]
  dsimp only
  rw [if_pos ((habs.lt_iff denotes_limit).mpr (by exact_mod_cast hx)), if_pos (toBits_lt_of_denotes h)]
  split
  · next hup =>
    have hge : 1 / 2 ≤ x - ⌊x⌋₊ := (denotes_half.le_iff hrest).mp hup
    have hfloor : ⌊x + 1 / 2⌋₊ = ⌊x⌋₊ + 1 := by
      rw [Nat.floor_eq_iff (by linarith [h.nonneg])]
      have := Nat.lt_floor_add_one x
      push_cast
      constructor <;> linarith
    have hsum : (⌊x⌋₊ + 1 : ℚ) ≤ 2 ^ 100 := by
      have : (⌊x⌋₊ : ℚ) ≤ 2 ^ 52 := by exact_mod_cast hn.le
      linarith
    obtain ⟨z, hz, hdenotes⟩ := hbelow.add denotes_one hsum
    rw [← Nat.cast_add_one] at hz
    rwa [hz.eq_of_isDouble (isDouble_natCast (by omega)), ← hfloor] at hdenotes
  · next hdown =>
    have hlt : x - ⌊x⌋₊ < 1 / 2 := lt_of_not_ge fun hge => hdown ((denotes_half.le_iff hrest).mpr hge)
    have hfloor : ⌊x + 1 / 2⌋₊ = ⌊x⌋₊ := by
      rw [Nat.floor_eq_iff (by linarith [h.nonneg])]
      have := Nat.floor_le h.nonneg
      constructor <;> linarith
    rw [hfloor]
    exact hbelow

/-! ### Decimal places -/

/-- The powers of ten up to the fifteenth are doubles. -/
theorem denotes_scale {places : ℕ} (h : places ≤ 15) : Denotes (scale places) (10 ^ places : ℕ) := by
  have hvalue : ∀ p ≤ 15, (scale p : Float) = (UInt64.ofNat (10 ^ p)).toFloat := by decide
  have hle : 10 ^ places ≤ 10 ^ 15 := Nat.pow_le_pow_right (by decide) h
  exact hvalue places h ▸ denotes_toFloat_of_le (hle.trans (by decide))

/-- A figure with four decimal places is scaled, brought to a whole number and scaled back. -/
theorem denotes_roundTo_four (h : Denotes f x) (hx : x ≤ 2 ^ 30) : ∃ y z,
    Nearest (x * 10000) y ∧ Nearest (⌊y + 1 / 2⌋₊ / 10000) z ∧ Denotes (roundTo f 4) z := by
  have hscale : Denotes (scale 4) (10000 : ℕ) := denotes_scale (by decide)
  obtain ⟨y, hy, hscaled⟩ := h.mul hscale (by push_cast; linarith)
  have hbound : y ≤ 2 ^ 44 := hy.le_of_le (isDouble_pow 44) (by push_cast; linarith)
  have hwhole := denotes_wholeDouble hscaled (by linarith)
  have hfloor : (⌊y + 1 / 2⌋₊ : ℚ) ≤ 2 ^ 45 :=
    (Nat.floor_le (by linarith [hscaled.nonneg])).trans (by linarith)
  obtain ⟨z, hz, hdenotes⟩ := hwhole.div hscale (by norm_num) (by push_cast; linarith)
  push_cast at hy hz
  exact ⟨y, z, hy, hz, hdenotes⟩

end SuiteBench.Decimal
