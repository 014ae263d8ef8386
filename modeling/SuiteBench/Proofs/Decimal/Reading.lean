import SuiteBench.Decimal.Layout
import SuiteBench.Decimal.Reader
import SuiteBench.Proofs.Decimal.Digits
import SuiteBench.Proofs.Decimal.Doubles

/-!
# Proofs.Decimal.Reading — which double a decimal is read as

The numbers that are rounded to a double form an interval, whose ends belong to it when the mantissa is even.
No number lies in two of these intervals, and a decimal is read as the double in whose interval it lies.
-/

namespace SuiteBench.Decimal

open Float.Model Float.Model.UnpackedFloat

variable {x y : ℚ} {m n : ℕ} {e e' : ℤ} {a : Accuracy} {u : UnpackedFloat} {f g : Float}
  {b : Binary}

/-! ### Rounding intervals -/

/-- How far below a stored double the numbers reach that are rounded to it, in units of its last place. -/
def reach (m : ℕ) (e : ℤ) : ℚ := if m = 2 ^ 52 ∧ -1074 < e then 1 / 4 else 1 / 2

/-- Whether a number lies in the interval of a stored double. -/
structure RoundsTo (x : ℚ) (m : ℕ) (e : ℤ) : Prop where
  stored : Canonical m e
  below : (m - reach m e) * 2 ^ e ≤ x
  above : x ≤ (m + 1 / 2) * 2 ^ e
  /-- The ends belong to an even mantissa. -/
  even : x = (m - reach m e) * 2 ^ e ∨ x = (m + 1 / 2) * 2 ^ e → m % 2 = 0

theorem reach_le (m : ℕ) (e : ℤ) : reach m e ≤ 1 / 2 := by
  rw [reach]
  split <;> norm_num

theorem reach_pos (m : ℕ) (e : ℤ) : 0 < reach m e := by
  rw [reach]
  split <;> norm_num

/-- A double with a greater exponent has all bits of its mantissa and keeps clear of the double below. -/
theorem Canonical.le_sub_reach (h : Canonical n e') (hlt : -1074 < e') :
    (2 : ℚ) ^ 52 - 1 / 4 ≤ n - reach n e' := by
  have hfull : 2 ^ 52 ≤ n := h.full.resolve_right hlt.ne'
  rw [reach]
  split
  · next heq =>
    rw [heq.1]
    norm_num
  · next hne =>
    have hn : 2 ^ 52 + 1 ≤ n := by
      rcases Nat.lt_or_eq_of_le hfull with hlt' | heq
      · exact hlt'
      · exact absurd ⟨heq.symm, hlt⟩ hne
    have hn : (2 : ℚ) ^ 52 + 1 ≤ n := by exact_mod_cast hn
    linarith

/-- Of two doubles the intervals are apart: their common end could belong to even mantissas alone, and the
mantissas of neighbours are not both even. -/
theorem RoundsTo.not_lt (h : RoundsTo x m e) (h' : RoundsTo x n e') : ¬(e < e' ∨ e = e' ∧ m < n) := by
  have hpos : (0 : ℚ) < 2 ^ e := by positivity
  have hbelow := h'.below
  have habove := h.above
  rintro (hlt | ⟨rfl, hlt⟩)
  · have hm : (m : ℚ) ≤ 2 ^ 53 - 1 := by
      have := h.stored.bound
      have : m + 1 ≤ 2 ^ 53 := by omega
      have : (m : ℚ) + 1 ≤ 2 ^ 53 := by exact_mod_cast this
      linarith
    have hleast := h.stored.least
    have hscale : (2 : ℚ) * 2 ^ e ≤ 2 ^ e' := by
      calc (2 : ℚ) * 2 ^ e = 2 ^ (e + 1) := by
            rw [zpow_add₀ (by norm_num)]
            ring
        _ ≤ 2 ^ e' := zpow_le_zpow_right₀ (by norm_num) (by omega)
    have hend : ((2 : ℚ) ^ 53 - 1 / 2) * 2 ^ e ≤ x := by
      calc ((2 : ℚ) ^ 53 - 1 / 2) * 2 ^ e = (2 ^ 52 - 1 / 4) * (2 * 2 ^ e) := by ring
        _ ≤ (n - reach n e') * 2 ^ e' :=
            mul_le_mul (h'.stored.le_sub_reach (by omega)) hscale (by positivity)
              ((by norm_num : (0 : ℚ) ≤ 2 ^ 52 - 1 / 4).trans (h'.stored.le_sub_reach (by omega)))
        _ ≤ x := hbelow
    have hlast : (2 : ℚ) ^ 53 - 1 / 2 ≤ m + 1 / 2 := le_of_mul_le_mul_right (hend.trans habove) hpos
    have hm' : m = 2 ^ 53 - 1 := by
      have hge : (2 : ℚ) ^ 53 ≤ m + 1 := by linarith
      have hge : 2 ^ 53 ≤ m + 1 := by exact_mod_cast hge
      have := h.stored.bound
      omega
    have hup : (m + 1 / 2) * 2 ^ e ≤ x := (mul_le_mul_of_nonneg_right (by linarith) hpos.le).trans hend
    have heven := h.even (.inr (le_antisymm habove hup))
    omega
  · have hreach := reach_le n e
    have hmn : (m : ℚ) + 1 ≤ n := by exact_mod_cast hlt
    have hle : (n : ℚ) - reach n e ≤ m + 1 / 2 := le_of_mul_le_mul_right (hbelow.trans habove) hpos
    have hn : n = m + 1 := by
      have : (n : ℚ) ≤ m + 1 := by linarith
      have : n ≤ m + 1 := by exact_mod_cast this
      omega
    have hends : (n : ℚ) - reach n e = m + 1 / 2 := le_antisymm hle (by linarith)
    have hx : x = (m + 1 / 2) * 2 ^ e := le_antisymm habove (by rwa [hends] at hbelow)
    have heven := h.even (.inr hx)
    have heven' := h'.even (.inl (by rw [hends, hx]))
    omega

/-- A number is rounded to one double alone. -/
theorem RoundsTo.unique (h : RoundsTo x m e) (h' : RoundsTo x n e') : m = n ∧ e = e' := by
  have hlt := h.not_lt h'
  have hgt := h'.not_lt h
  omega

/-! ### Rounding -/

/-- A mantissa that is a half away from the number is even. -/
theorem Tells.even_of_half (h : Tells a m x) (hhalf : |(a.roundToNearestEven m : ℚ) - x| = 1 / 2) :
    a.roundToNearestEven m % 2 = 0 := by
  rcases a with _ | (_ | _ | _) <;> simp only [Tells] at h <;>
    simp only [Accuracy.roundToNearestEven] at hhalf ⊢
  · rw [h, sub_self, abs_zero] at hhalf
    norm_num at hhalf
  · rw [abs_of_neg (by linarith)] at hhalf
    linarith
  · omega
  · push_cast at hhalf
    rw [abs_of_pos (by linarith)] at hhalf
    linarith

/-- What is rounded lies in the interval of the double that it is rounded to. -/
theorem RoundedFrom.exists_roundsTo (h : RoundedFrom u x) :
    ∃ m e, RoundsTo x m e ∧ u = ofParts .positive m e := by
  obtain ⟨m₀, e₀, a, rfl, hexact, henough⟩ := h
  obtain ⟨em, t, hshift, htells, hbound, hfull, ht⟩ := exists_shift hexact henough
  clear hexact
  obtain ⟨hle, hge⟩ := roundedMantissa_bounds em
  have hnear := htells.abs_rounded_sub_le
  have heven := htells.even_of_half
  have hpos : (0 : ℚ) < 2 ^ t := by positivity
  rw [roundWithAccuracy_eq .positive (by omega) ht hshift]
  change |(em.roundedMantissa : ℚ) - x / 2 ^ t| ≤ 1 / 2 at hnear
  change |(em.roundedMantissa : ℚ) - x / 2 ^ t| = 1 / 2 → em.roundedMantissa % 2 = 0 at heven
  have hx : x = x / 2 ^ t * 2 ^ t := (div_mul_cancel₀ x hpos.ne').symm
  generalize x / 2 ^ t = q at htells hnear heven hx
  subst hx
  obtain ⟨hlow, hhigh⟩ := abs_le.mp hnear
  have hq := htells.bounds.1
  split
  · next hlt =>
    -- at a power of two nothing below it is rounded up to it
    have hbelow : (em.roundedMantissa : ℚ) - reach em.roundedMantissa t ≤ q ∧
        (q = em.roundedMantissa - reach em.roundedMantissa t → em.roundedMantissa % 2 = 0) := by
      rw [reach]
      split
      · next hpow =>
        have hm : em.mantissa = em.roundedMantissa := by omega
        rw [hm] at hq
        exact ⟨by linarith, fun heq => by linarith⟩
      · refine ⟨by linarith, fun heq => heven ?_⟩
        rw [heq, sub_sub_cancel]
        norm_num
    refine ⟨_, _, ⟨⟨hlt, ht, hfull.imp_left fun hm => hm.trans hle⟩, ?_, ?_, ?_⟩, rfl⟩
    · exact mul_le_mul_of_nonneg_right hbelow.1 hpos.le
    · exact mul_le_mul_of_nonneg_right (by linarith) hpos.le
    · rintro (heq | heq)
      · exact hbelow.2 (mul_right_cancel₀ hpos.ne' heq)
      · refine heven ?_
        rw [mul_right_cancel₀ hpos.ne' heq, sub_add_cancel_left, abs_neg]
        norm_num
  · next hge' =>
    have hr : em.roundedMantissa = 2 ^ 53 := by omega
    have hr : (em.roundedMantissa : ℚ) = 2 ^ 53 := by exact_mod_cast hr
    have hnext : (2 : ℚ) ^ (t + 1) = 2 * 2 ^ t := by
      rw [zpow_add₀ (by norm_num)]
      ring
    refine ⟨_, _, ⟨canonical_full ht, ?_, ?_, fun _ => by norm_num⟩, rfl⟩
    · have hreach : reach (2 ^ 52) (t + 1) = 1 / 4 := if_pos ⟨rfl, by omega⟩
      rw [hreach, hnext, ← mul_assoc]
      refine mul_le_mul_of_nonneg_right ?_ hpos.le
      push_cast
      linarith
    · rw [hnext, ← mul_assoc]
      refine mul_le_mul_of_nonneg_right ?_ hpos.le
      push_cast
      linarith

/-- A number in the interval of a double is rounded to it. -/
theorem RoundedFrom.eq_ofParts (h : RoundedFrom u x) (hx : RoundsTo x m e) : u = ofParts .positive m e := by
  obtain ⟨m', e', hx', rfl⟩ := h.exists_roundsTo
  obtain ⟨rfl, rfl⟩ := hx.unique hx'
  rfl

/-! ### Doubles by their bits -/

/-- The sign of a double that is or is not negative. -/
def signOf (negative : Bool) : Sign := if negative then .negative else .positive

theorem signOf_eq_ofBitVec (v : BitVec 1) : signOf (v.toNat == 1) = Sign.ofBitVec v := by
  obtain rfl | rfl : v = 0#1 ∨ v = 1#1 := by
    have := v.isLt
    simp only [← BitVec.toNat_inj, BitVec.toNat_ofNat]
    omega
  · rfl
  · rfl

/-- The parts of a double are read from its bits. -/
theorem unpack_eq (f : Float) : f.toModel.unpack =
    if f.toBits.toNat / 2 ^ 52 % 2048 = 2047 then
      if f.toBits.toNat % 2 ^ 52 = 0 then .infinity (signOf (f.toBits.toNat / 2 ^ 63 == 1)) else .notANumber
    else if f.toBits.toNat / 2 ^ 52 % 2048 = 0 then
      ofParts (signOf (f.toBits.toNat / 2 ^ 63 == 1)) (f.toBits.toNat % 2 ^ 52) (-1074)
    else ofParts (signOf (f.toBits.toNat / 2 ^ 63 == 1)) (f.toBits.toNat % 2 ^ 52 + 2 ^ 52)
      ((f.toBits.toNat / 2 ^ 52 % 2048 : ℕ) - 1075) := by
  change UnpackedFloat.unpack Format.binary64 f.toModel.toBits.toBitVec = _
  have hbits : f.toBits.toNat = f.toModel.toBits.toBitVec.toNat := rfl
  rw [hbits]
  generalize f.toModel.toBits.toBitVec = v
  have hv : v.toNat < 2 ^ 64 := v.isLt
  have hmantissa : (@unpackMantissa Format.binary64 v).toNat = v.toNat % 2 ^ 52 := by
    simp [unpackMantissa]
  have hexponent : (@unpackExponent Format.binary64 v).toNat = v.toNat / 2 ^ 52 % 2048 := by
    simp [unpackExponent, Nat.shiftRight_eq_div_pow]
  have hsign : (@unpackSign Format.binary64 v).toNat = v.toNat / 2 ^ 63 := by
    simp only [unpackSign, BitVec.toNat_cast, BitVec.extractLsb_toNat, Nat.shiftRight_eq_div_pow]
    change v.toNat / 2 ^ 63 % 2 = _
    omega
  have hgreatest : @unpackExponent Format.binary64 v = -1#_ ↔ v.toNat / 2 ^ 52 % 2048 = 2047 := by
    rw [← hexponent, ← BitVec.toNat_inj]
    rfl
  have hleast : @unpackExponent Format.binary64 v = 0#_ ↔ v.toNat / 2 ^ 52 % 2048 = 0 := by
    rw [← hexponent, ← BitVec.toNat_inj]
    rfl
  have hzero : @unpackMantissa Format.binary64 v = 0#_ ↔ v.toNat % 2 ^ 52 = 0 := by
    rw [← hmantissa, ← BitVec.toNat_inj]
    rfl
  rw [UnpackedFloat.unpack, ← hsign, signOf_eq_ofBitVec]
  simp only [hgreatest, hleast, hzero]
  split
  · rfl
  split
  · rw [ofParts]
    split
    · next h => rw [dif_neg (by omega)]
    · next h =>
      rw [dif_pos (Nat.pos_of_ne_zero h)]
      congr 1
      rw [hexponent]
      simp [Format.exponentBias]
      omega
  · have hfull : (1#1 ++ @unpackMantissa Format.binary64 v).toNat = v.toNat % 2 ^ 52 + 2 ^ 52 := by
      rw [BitVec.toNat_append, ← Nat.shiftLeft_add_eq_or_of_lt (BitVec.isLt _), hmantissa,
        Nat.shiftLeft_eq, Nat.add_comm]
      rfl
    rw [ofParts, dif_pos (by omega)]
    congr 1
    rw [hexponent]
    simp [Format.exponentBias]

/-- Whether a double has these parts. -/
structure Parts (f : Float) (b : Binary) : Prop where
  unpack : f.toModel.unpack = ofParts (signOf b.negative) b.mantissa b.exponent
  stored : Canonical b.mantissa b.exponent
  exponent_le : b.exponent ≤ 971
  atPowerOfTwo : b.atPowerOfTwo = decide (b.mantissa = 2 ^ 52 ∧ -1074 < b.exponent)

theorem parts_of (h : Double.of f = .finite b) : Parts f b := by
  have hunpack := unpack_eq f
  have hhidden : hiddenBit = 2 ^ 52 := rfl
  have hsign : 9223372036854775808 = 2 ^ 63 := rfl
  rw [Double.of, Double.ofBits] at h
  simp only [hhidden, hsign, beq_iff_eq] at h
  generalize f.toBits.toNat = bits at h hunpack
  split at h
  · split at h <;> cases h
  next hgreatest =>
  rw [if_neg hgreatest] at hunpack
  split at h
  · next hleast =>
    obtain rfl := Double.finite.inj h
    rw [if_pos hleast] at hunpack
    exact ⟨hunpack, ⟨by dsimp only; omega, le_rfl, .inr rfl⟩, by dsimp only; omega, by simp⟩
  · next hleast =>
    obtain rfl := Double.finite.inj h
    rw [if_neg hleast] at hunpack
    refine ⟨hunpack, ⟨by dsimp only; omega, by dsimp only; omega, .inl (by dsimp only; omega)⟩,
      by dsimp only; omega, ?_⟩
    rw [Bool.eq_iff_iff]
    simp
    omega

theorem Parts.isFinite (h : Parts f b) : f.isFinite = true := by
  change f.toModel.unpack.isFinite = true
  rw [h.unpack, ofParts]
  split <;> rfl

theorem ofParts_injective {s s' : Sign} (h : Canonical m e) (h' : Canonical n e')
    (heq : ofParts s m e = ofParts s' n e') : s = s' ∧ m = n ∧ e = e' := by
  rw [ofParts, ofParts] at heq
  split at heq <;> split at heq
  · cases heq
    exact ⟨rfl, rfl, rfl⟩
  · cases heq
  · cases heq
  · next hm hn =>
    cases heq
    have hfull := h.full
    have hfull' := h'.full
    exact ⟨rfl, by omega, by omega⟩

theorem exists_finite (h : f.isFinite = true) : ∃ b, Double.of f = .finite b := by
  have hunpack := unpack_eq f
  have hhidden : hiddenBit = 2 ^ 52 := rfl
  rw [Double.of, Double.ofBits]
  simp only [hhidden, beq_iff_eq]
  change f.toModel.unpack.isFinite = true at h
  split
  · next hgreatest =>
    rw [if_pos hgreatest] at hunpack
    rw [hunpack] at h
    split at h <;> cases h
  · split <;> exact ⟨_, rfl⟩

/-- The bits that a finite double is stored with. -/
def bitsOf (b : Binary) : ℕ :=
  (if b.negative then 2 ^ 63 else 0) +
    if b.mantissa < 2 ^ 52 then b.mantissa else (b.exponent + 1075).toNat * 2 ^ 52 + (b.mantissa - 2 ^ 52)

theorem toBits_eq_bitsOf (h : Double.of f = .finite b) : f.toBits.toNat = bitsOf b := by
  have hlt := f.toBits.toNat_lt
  have hhidden : hiddenBit = 2 ^ 52 := rfl
  have hsign : 9223372036854775808 = 2 ^ 63 := rfl
  rw [Double.of, Double.ofBits] at h
  simp only [hhidden, hsign, beq_iff_eq] at h
  generalize f.toBits.toNat = bits at h hlt
  have hnegative : (if bits / 2 ^ 63 == 1 then 2 ^ 63 else 0) = bits / 2 ^ 63 * 2 ^ 63 := by
    split
    · next h => rw [beq_iff_eq.mp h, Nat.one_mul]
    · next h =>
      rw [beq_iff_eq] at h
      omega
  split at h
  · split at h <;> cases h
  split at h
  · obtain rfl := Double.finite.inj h
    simp only [bitsOf, hnegative]
    rw [if_pos (by omega)]
    omega
  · obtain rfl := Double.finite.inj h
    simp only [bitsOf, hnegative]
    rw [if_neg (by omega)]
    omega

/-- Finite doubles are told apart by what they are unpacked to. -/
theorem eq_of_unpack_eq (hf : f.isFinite = true) (h : g.toModel.unpack = f.toModel.unpack) : g = f := by
  have hg : g.isFinite = true := by
    change g.toModel.unpack.isFinite = true
    rw [h]
    exact hf
  obtain ⟨b, hb⟩ := exists_finite hf
  obtain ⟨c, hc⟩ := exists_finite hg
  have hparts := parts_of hb
  have hparts' := parts_of hc
  rw [hparts.unpack, hparts'.unpack] at h
  obtain ⟨hsign, hmantissa, hexponent⟩ := ofParts_injective hparts'.stored hparts.stored h
  have hnegative : c.negative = b.negative := by
    cases hcn : c.negative <;> cases hbn : b.negative <;> simp [hcn, hbn, signOf] at hsign ⊢
  have hbits : g.toBits.toNat = f.toBits.toNat := by
    rw [toBits_eq_bitsOf hb, toBits_eq_bitsOf hc, bitsOf, bitsOf, hnegative, hmantissa, hexponent]
  obtain ⟨⟨fbits, _⟩⟩ := f
  obtain ⟨⟨gbits, _⟩⟩ := g
  have hbits : gbits.toNat = fbits.toNat := hbits
  obtain rfl := UInt64.toNat_inj.mp hbits
  rfl

/-! ### Decimals -/

theorem Denotes.roundedFrom_mul (hf : Denotes f x) (hg : Denotes g y) (hx : 0 < x) (hy : 0 < y) :
    RoundedFrom (UnpackedFloat.mul Format.binary64 f.toModel.unpack g.toModel.unpack) (x * y) := by
  rw [Denotes] at hf hg
  generalize f.toModel.unpack = u at hf
  generalize g.toModel.unpack = v at hg
  cases hf with
  | zero => exact absurd hx (lt_irrefl 0)
  | finite hm h =>
    cases hg with
    | zero => exact absurd hy (lt_irrefl 0)
    | finite hn h' => exact Decimal.roundedFrom_mul hm hn (h.enough_mul hm hn h')

theorem Denotes.roundedFrom_div (hf : Denotes f x) (hg : Denotes g y) (hx : 0 < x) (hy : 0 < y) :
    RoundedFrom (UnpackedFloat.div Format.binary64 f.toModel.unpack g.toModel.unpack) (x / y) := by
  rw [Denotes] at hf hg
  generalize f.toModel.unpack = u at hf
  generalize g.toModel.unpack = v at hg
  cases hf with
  | zero => exact absurd hx (lt_irrefl 0)
  | finite hm _ =>
    cases hg with
    | zero => exact absurd hy (lt_irrefl 0)
    | finite hn _ => exact Decimal.roundedFrom_div hm hn _ _

theorem Parts.denotes (h : Parts f b) (hpositive : b.negative = false) :
    Denotes f (b.mantissa * 2 ^ b.exponent) := by
  rw [Denotes, h.unpack, hpositive]
  exact hasValue_ofParts h.stored

/-- The powers of ten that are doubles are tabled as such. -/
theorem denotes_powerOfTen (k : Fin 23) : Denotes (Float.exactlyRepresentablePowersOfTen[k]) (10 ^ k.val) := by
  have htable : ∃ b, Double.of (Float.exactlyRepresentablePowersOfTen[k]) = .finite b ∧ b.negative = false ∧
      -52 ≤ b.exponent ∧ b.mantissa * 2 ^ (b.exponent + 52).toNat = 10 ^ k.val * 2 ^ 52 := by
    fin_cases k <;> exact ⟨_, rfl, rfl, by decide⟩
  obtain ⟨b, hb, hpositive, hexponent, hvalue⟩ := htable
  convert (parts_of hb).denotes hpositive using 1
  have hvalue : (b.mantissa : ℚ) * 2 ^ (b.exponent + 52) = 10 ^ k.val * 2 ^ 52 := by
    rw [← Int.toNat_of_nonneg (by omega : 0 ≤ b.exponent + 52), zpow_natCast]
    exact_mod_cast hvalue
  rw [zpow_add₀ (by norm_num), ← mul_assoc] at hvalue
  exact (mul_right_cancel₀ (by norm_num) hvalue).symm

/-- A number between the powers of ten that are read at all is rounded. -/
theorem ofScientific_of_roundsTo {c : ℕ} {k : ℤ} (hc : 0 < c) (hk : -(2048 + c.log2) ≤ k) (hk' : k ≤ 2048)
    (h : RoundsTo (c * 10 ^ k) m e) :
    UnpackedFloat.ofScientific Format.binary64 c k = ofParts .positive m e := by
  have hbits : (2 : ℤ) ^ Format.binary64.exponentBits = 2048 := rfl
  rw [UnpackedFloat.ofScientific, dif_neg hc.ne', hbits, if_neg (by omega), if_neg (by omega)]
  split
  · next hpos =>
    have hm : 0 < c <<< Format.binary64.mantissaBits := by
      rw [Nat.shiftLeft_eq]
      positivity
    have hn : 0 < 10 ^ k.toNat := by positivity
    refine (roundedFrom_mul hm hn (.inl ?_)).eq_ofParts ?_
    · refine le_log2_of_le ?_
      rw [Nat.shiftLeft_eq]
      calc 2 ^ 52 ≤ 1 * 2 ^ Format.binary64.mantissaBits * 1 := by decide
        _ ≤ c * 2 ^ Format.binary64.mantissaBits * 10 ^ k.toNat :=
            Nat.mul_le_mul (Nat.mul_le_mul_right _ hc) hn
    · convert h using 1
      rw [Nat.shiftLeft_eq, zpow_zero, mul_one, zpow_neg, zpow_natCast]
      push_cast
      rw [mul_inv_cancel_right₀ (by positivity), ← zpow_natCast, Int.toNat_of_nonneg hpos]
  · next hneg =>
    have hn : 0 < 10 ^ (-k).toNat := by positivity
    refine (roundedFrom_div hc hn 0 0).eq_ofParts ?_
    convert h using 1
    rw [zpow_zero, mul_one, mul_one]
    push_cast
    rw [← zpow_natCast, Int.toNat_of_nonneg (by omega), zpow_neg, div_inv_eq_mul]

/-- Few digits and a small power of ten are doubles both, whose product or quotient is rounded. -/
theorem unpack_ofScientific {c i : ℕ} {k : ℤ} {down : Bool} (hi : (if down then -(i : ℤ) else i) = k)
    (hc : 0 < c) (hk : -(2048 + c.log2) ≤ k) (hk' : k ≤ 2048) (h : RoundsTo (c * 10 ^ k) m e) (he : e ≤ 971) :
    (Float.ofScientific c down i).toModel.unpack = ofParts .positive m e := by
  rw [Float.ofScientific]
  split
  · next hfew =>
    have hcoefficient : Denotes c.toUInt64.toFloat c := denotes_toFloat_of_le hfew.1.le
    have hpower := denotes_powerOfTen ⟨i, by omega⟩
    have hpos : (0 : ℚ) < c := by exact_mod_cast hc
    dsimp only
    subst hi
    split
    · next hdown =>
      rw [if_pos hdown, zpow_neg, zpow_natCast, ← div_eq_mul_inv] at h
      have hrounded := (hcoefficient.roundedFrom_div hpower hpos (by positivity)).eq_ofParts h
      change (Float.Model.pack (UnpackedFloat.div Format.binary64 _ _)).unpack = _
      rw [← unpack_pack_ofParts .positive h.stored he, ← hrounded]
      rfl
    · next hup =>
      rw [if_neg hup, zpow_natCast] at h
      have hrounded := (hcoefficient.roundedFrom_mul hpower hpos (by positivity)).eq_ofParts h
      change (Float.Model.pack (UnpackedFloat.mul Format.binary64 _ _)).unpack = _
      rw [← unpack_pack_ofParts .positive h.stored he, ← hrounded]
      rfl
  · have hsigned : (if down then Int.negOfNat i else Int.ofNat i) = k := by
      rw [← hi]
      split
      · exact Int.negOfNat_eq
      · rfl
    dsimp only
    rw [hsigned]
    change (Float.Model.pack (UnpackedFloat.ofScientific Format.binary64 c k)).unpack = _
    rw [ofScientific_of_roundsTo hc hk hk' h]
    exact unpack_pack_ofParts .positive h.stored he

/-- What is less than half of the least double is rounded to zero. -/
theorem roundsTo_zero (hx : 0 ≤ x) (hlt : x < 1 / 2 * 2 ^ (-1074 : ℤ)) : RoundsTo x 0 (-1074) where
  stored := ⟨by decide, le_rfl, .inr rfl⟩
  below := by
    refine le_trans ?_ hx
    rw [Nat.cast_zero, zero_sub, neg_mul, neg_nonpos]
    exact mul_nonneg (reach_pos _ _).le (by positivity)
  above := by
    rw [Nat.cast_zero, zero_add]
    exact hlt.le
  even _ := rfl

/-- No number is rounded to a double but what is less than the infinities. -/
theorem RoundsTo.lt (h : RoundsTo x m e) (he : e ≤ 971) : x < 2 ^ 1024 := by
  have hm : (m : ℚ) + 1 ≤ 2 ^ 53 := by exact_mod_cast h.stored.bound
  calc x ≤ (m + 1 / 2) * 2 ^ e := h.above
    _ < 2 ^ 53 * 2 ^ e := mul_lt_mul_of_pos_right (by linarith) (by positivity)
    _ ≤ 2 ^ 53 * 2 ^ (971 : ℤ) :=
        mul_le_mul_of_nonneg_left (zpow_le_zpow_right₀ (by norm_num) he) (by positivity)
    _ = 2 ^ 1024 := by rw [← zpow_natCast, ← zpow_natCast, ← zpow_add₀ (by norm_num)]; rfl

theorem unpack_neg (h : f.toModel.unpack = ofParts .positive m e) (hm : Canonical m e) (he : e ≤ 971) :
    (-f).toModel.unpack = ofParts .negative m e := by
  have hneg : f.toModel.unpack.neg = ofParts .negative m e := by
    rw [h, ofParts, ofParts]
    split <;> rfl
  change (Float.Model.pack f.toModel.unpack.neg).unpack = _
  rw [hneg]
  exact unpack_pack_ofParts .negative hm he

/-- A decimal is read as the double in whose interval it lies. -/
theorem unpack_nearest (negative : Bool) {c : ℕ} {k : ℤ} (h : RoundsTo (c * 10 ^ k) m e) (he : e ≤ 971) :
    (nearest negative c k).toModel.unpack = ofParts (signOf negative) m e := by
  have hscale : (0 : ℚ) < 10 ^ k := by positivity
  have hpositive : (nearest false c k).toModel.unpack = ofParts .positive m e := by
    rw [nearest, if_neg Bool.false_ne_true]
    split
    · next hsmall =>
      have hlt : (c : ℚ) * 10 ^ k < 1 / 2 * 2 ^ (-1074 : ℤ) := by
        rw [Bool.or_eq_true, beq_iff_eq, decide_eq_true_iff] at hsmall
        rcases hsmall with rfl | hsize
        · norm_num
        · have hc : (c : ℚ) < 10 ^ ((digits c).length : ℤ) := by exact_mod_cast lt_pow_length_digits c
          calc (c : ℚ) * 10 ^ k < 10 ^ ((digits c).length : ℤ) * 10 ^ k := mul_lt_mul_of_pos_right hc hscale
            _ = 10 ^ ((digits c).length + k) := (zpow_add₀ (by norm_num) _ _).symm
            _ ≤ 10 ^ (-400 : ℤ) := zpow_le_zpow_right₀ (by norm_num) hsize.le
            _ ≤ 2 ^ (-1075 : ℤ) := by
                rw [zpow_neg, zpow_neg]
                exact inv_anti₀ (by positivity) (by exact_mod_cast (by decide +kernel : 2 ^ 1075 ≤ 10 ^ 400))
            _ = 1 / 2 * 2 ^ (-1074 : ℤ) := by rw [one_div, ← zpow_neg_one, ← zpow_add₀ (by norm_num)]; rfl
      obtain ⟨rfl, rfl⟩ := h.unique (roundsTo_zero (by positivity) hlt)
      have hzero : (0.0 : Float) = ⟨Float.Model.pack (ofParts .positive 0 (-1074))⟩ := by decide +kernel
      rw [hzero]
      exact unpack_pack_ofParts .positive h.stored he
    next hsmall =>
    rw [Bool.or_eq_true, beq_iff_eq, decide_eq_true_iff, not_or] at hsmall
    have hc : 0 < c := Nat.pos_of_ne_zero hsmall.1
    have hlength : 0 < (digits c).length := List.length_pos_iff.mpr (digits_ne_nil c)
    have hleast := pow_length_digits_le hc
    have hsize : (digits c).length + k ≤ 310 := by
      by_contra hlt
      have hc' : (10 : ℚ) ^ (((digits c).length - 1 : ℕ) : ℤ) ≤ c := by exact_mod_cast hleast
      have hbound : (2 : ℚ) ^ 1024 ≤ c * 10 ^ k := by
        calc (2 : ℚ) ^ 1024 ≤ 10 ^ (310 : ℤ) := by exact_mod_cast (by decide +kernel : 2 ^ 1024 ≤ 10 ^ 310)
          _ ≤ 10 ^ (((digits c).length - 1 : ℕ) + k) := zpow_le_zpow_right₀ (by norm_num) (by omega)
          _ = 10 ^ (((digits c).length - 1 : ℕ) : ℤ) * 10 ^ k := zpow_add₀ (by norm_num) _ _
          _ ≤ c * 10 ^ k := mul_le_mul_of_nonneg_right hc' hscale.le
      exact absurd (h.lt he) (not_lt.mpr hbound)
    have hlog : (digits c).length - 1 ≤ c.log2 :=
      (Nat.le_log2 hc.ne').mpr ((Nat.pow_le_pow_left (by decide) _).trans hleast)
    rw [if_neg (by omega)]
    split
    · exact unpack_ofScientific (by simp; omega) hc (by omega) (by omega) h he
    · exact unpack_ofScientific (by simp; omega) hc (by omega) (by omega) h he
  cases negative with
  | false => exact hpositive
  | true =>
    refine Eq.trans ?_ (unpack_neg hpositive h.stored he)
    rfl

/-- A decimal in the interval of a double is read as that double. -/
theorem nearest_eq {c : ℕ} {k : ℤ} (h : Double.of f = .finite b)
    (hc : RoundsTo (c * 10 ^ k) b.mantissa b.exponent) : nearest b.negative c k = f := by
  have hparts := parts_of h
  have hread := unpack_nearest b.negative hc hparts.exponent_le
  exact eq_of_unpack_eq hparts.isFinite (hread.trans hparts.unpack.symm)

end SuiteBench.Decimal
