import SuiteBench.Decimal.Arithmetic
import SuiteBench.Proofs.Decimal.Rounding

/-!
# Proofs.Decimal.Doubles — what is computed with doubles

Operations on doubles that are not negative give the double nearest to the exact result.  They unpack
their operands, compute with whole numbers, round and pack what comes out again, which loses nothing as
long as it is far below the infinities.
-/

namespace SuiteBench.Decimal

open Float.Model Float.Model.UnpackedFloat

variable {x y : ℚ} {m n : ℕ} {e : ℤ} {u : UnpackedFloat} {f g : Float}

/-! ### Packing -/

theorem unpackSign_packComponents {spec : Format} {s : Sign} {y : BitVec spec.exponentBits}
    {z : BitVec spec.mantissaBitsWithoutImplicit} :
    unpackSign (packComponents spec s y z) = s.toBitVec := by
  ext i hi
  obtain rfl : i = 0 := by omega
  simp [unpackSign, packComponents, BitVec.getLsbD_append, BitVec.getElem_append]

theorem toNat_append_one (hm : 2 ^ 52 ≤ m) (hm' : m < 2 ^ 53) :
    (1#1 ++ BitVec.ofNat 52 m).toNat = m := by
  rw [BitVec.toNat_append, ← Nat.shiftLeft_add_eq_or_of_lt (BitVec.isLt _), BitVec.toNat_ofNat,
    Nat.shiftLeft_eq, BitVec.toNat_ofNat]
  omega

@[simp] theorem ofBitVec_toBitVec (s : Sign) : Sign.ofBitVec s.toBitVec = s := by cases s <;> rfl

/-- A mantissa with all its bits is stored without the first one. -/
theorem unpack_packComponents_full {s : Sign} {y : ℕ} (hy : 0 < y) (hy' : y < 2047) (hm : 2 ^ 52 ≤ m)
    (hm' : m < 2 ^ 53) :
    UnpackedFloat.unpack Format.binary64 (packComponents Format.binary64 s (BitVec.ofNat 11 y)
      (BitVec.ofNat 52 m)) = .finite s m (y - 1075) (by omega) := by
  have hvalue : (BitVec.ofNat 11 y).toNat = y := by
    rw [BitVec.toNat_ofNat]
    omega
  have hleast : BitVec.ofNat 11 y ≠ 0#11 := fun h => by
    have := congrArg BitVec.toNat h
    rw [hvalue] at this
    exact hy.ne' this
  have hgreatest : BitVec.ofNat 11 y ≠ -1#11 := fun h => by
    have := congrArg BitVec.toNat h
    rw [hvalue] at this
    exact hy'.ne this
  rw [UnpackedFloat.unpack]
  simp only [unpackExponent_packComponents, unpackMantissa_packComponents, unpackSign_packComponents,
    hleast, hgreatest, if_false, hvalue, toNat_append_one hm hm', ofBitVec_toBitVec]
  rfl

/-- One without all its bits has the least exponent. -/
theorem unpack_packComponents_least {s : Sign} (hm : 0 < m) (hm' : m < 2 ^ 52) :
    UnpackedFloat.unpack Format.binary64 (packComponents Format.binary64 s 0#11
      (BitVec.ofNat 52 m)) = .finite s m (-1074) hm := by
  have hvalue : (BitVec.ofNat 52 m).toNat = m := by
    rw [BitVec.toNat_ofNat]
    omega
  have hne : BitVec.ofNat 52 m ≠ 0#52 := fun h => by
    have := congrArg BitVec.toNat h
    rw [hvalue] at this
    exact hm.ne' this
  rw [UnpackedFloat.unpack]
  simp only [unpackExponent_packComponents, unpackMantissa_packComponents, unpackSign_packComponents,
    hne, hvalue, ofBitVec_toBitVec]
  rfl

theorem unpack_pack_finite {s : Sign} (hm : 0 < m) (h : Canonical m e) (he : e ≤ 971) :
    (Float.Model.pack (.finite s m e hm)).unpack = .finite s m e hm := by
  have hleast := h.least
  have hbias : (e + (Format.binary64.exponentBias : ℤ) +
      (Format.binary64.mantissaBitsWithoutImplicit : ℤ)).toNat = (e + 1075).toNat := by
    simp [Format.exponentBias]
    omega
  change UnpackedFloat.unpack Format.binary64 (UnpackedFloat.pack Format.binary64 _) = _
  simp only [UnpackedFloat.pack, hbias]
  rw [if_neg (by norm_num; omega)]
  rcases Nat.lt_or_ge m (2 ^ 52) with hlt | hge
  · have hlog : m.log2 < 52 := (Nat.log2_lt hm.ne').mpr hlt
    obtain rfl : e = -1074 := h.full.resolve_left (by omega)
    rw [if_neg (by simp [Format.mantissaBits]; omega)]
    exact unpack_packComponents_least hm hlt
  · have hlog : m.log2 = 52 := (Nat.log2_eq_iff hm.ne').mpr ⟨hge, h.bound⟩
    rw [if_pos (by rw [hlog]; rfl)]
    refine (unpack_packComponents_full (by omega) (by omega) hge h.bound).trans ?_
    congr 1
    omega

/-- What is packed below the infinities is unpacked again. -/
theorem unpack_pack_ofParts (s : Sign) (h : Canonical m e) (he : e ≤ 971) :
    (Float.Model.pack (ofParts s m e)).unpack = ofParts s m e := by
  rw [ofParts]
  split
  · next hm => exact unpack_pack_finite hm h he
  · cases s <;> rfl

theorem Canonical.exponent_le (h : Canonical m e) (hx : (m * 2 ^ e : ℚ) ≤ 2 ^ 100) : e ≤ 100 := by
  by_contra hlt
  have hm : 2 ^ 52 ≤ m := h.full.resolve_right (by omega)
  have hm : (1 : ℚ) ≤ m := by exact_mod_cast (Nat.one_le_two_pow.trans hm)
  have he : (2 : ℚ) ^ (101 : ℤ) ≤ 2 ^ e := zpow_le_zpow_right₀ (by norm_num) (by omega)
  have hle : (2 : ℚ) ^ e ≤ m * 2 ^ e := le_mul_of_one_le_left (by positivity) hm
  norm_num at he hx
  linarith

theorem unpack_pack (h : HasValue u x) (hx : x ≤ 2 ^ 100) : (Float.Model.pack u).unpack = u := by
  cases h with
  | zero => rfl
  | finite hm h => exact unpack_pack_finite hm h ((h.exponent_le hx).trans (by decide))

/-! ### Values -/

/-- Whether a double is a number that is not negative. -/
def Denotes (f : Float) (x : ℚ) : Prop := HasValue f.toModel.unpack x

theorem denotes_pack (h : HasValue u x) (hx : x ≤ 2 ^ 100) : Denotes ⟨Float.Model.pack u⟩ x := by
  rw [Denotes, unpack_pack h hx]
  exact h

theorem Denotes.nonneg (h : Denotes f x) : 0 ≤ x := h.isDouble.nonneg

/-- What is rounded to a double far below the infinities is packed as it is. -/
theorem exists_denotes_pack (hx : x ≤ 2 ^ 100) (h : ∃ y, Nearest x y ∧ HasValue u y) :
    ∃ y, Nearest x y ∧ Denotes ⟨Float.Model.pack u⟩ y := by
  obtain ⟨y, hnearest, hvalue⟩ := h
  exact ⟨y, hnearest, denotes_pack hvalue (hnearest.le_of_le (isDouble_pow 100) hx)⟩

theorem nearest_self (h : IsDouble x) : Nearest x x :=
  ⟨h, fun z _ => by rw [sub_self, abs_zero]; exact abs_nonneg _⟩

/-! ### Whole numbers -/

theorem log2_shiftLeft (hn : 0 < n) (k : ℕ) : (n <<< k).log2 = n.log2 + k := by
  rw [Nat.shiftLeft_eq, Nat.log2_eq_iff (by positivity)]
  constructor
  · rw [pow_add]
    exact Nat.mul_le_mul_right _ (Nat.log2_self_le hn.ne')
  · rw [Nat.add_right_comm, pow_add]
    exact Nat.mul_lt_mul_of_pos_right Nat.lt_log2_self (by positivity)

theorem le_log2_of_le (h : 2 ^ 52 ≤ m) : 52 ≤ m.log2 :=
  (Nat.le_log2 (Nat.pos_of_ne_zero (by omega)).ne').mpr h

/-- A mantissa is filled up before it is rounded. -/
theorem exists_nearest_round (hn : 0 < n) (e : ℤ) : ∃ y, Nearest (n * 2 ^ e) y ∧
    HasValue (UnpackedFloat.round Format.binary64 .positive n e) y := by
  obtain ⟨k, hk⟩ : ∃ k : ℕ, (e - max (n.log2 + e - 52) (-1074)).toNat = k := ⟨_, rfl⟩
  rw [UnpackedFloat.round, targetExponent_eq]
  simp only [decreaseExponent, hk]
  have hlog := log2_shiftLeft hn k
  refine RoundedFrom.exists_nearest ⟨_, _, _, rfl, ?_, by omega⟩
  rw [Tells, Nat.shiftLeft_eq, div_eq_iff (by positivity)]
  push_cast
  rw [zpow_sub₀ (by norm_num), zpow_natCast]
  field_simp

theorem exists_nearest_normalize (n : ℕ) (e : ℤ) : ∃ y, Nearest (n * 2 ^ e) y ∧
    HasValue (UnpackedFloat.normalize Format.binary64 n e .positive) y := by
  rw [UnpackedFloat.normalize]
  rcases Nat.eq_zero_or_pos n with rfl | hn
  · rw [Nat.cast_zero, zero_mul]
    exact ⟨0, nearest_self HasValue.zero.isDouble, .zero⟩
  · have hcompare : compare (n : ℤ) 0 = .gt := Int.compare_eq_gt.mpr (by omega)
    rw [hcompare]
    exact exists_nearest_round hn e

/-- Whole numbers of sixty-four bits are rounded to the nearest double. -/
theorem denotes_toFloat (h : n < 2 ^ 64) :
    ∃ y, Nearest n y ∧ Denotes (UInt64.ofNat n).toFloat y := by
  have hvalue : (UInt64.ofNat n).toNat = n := by
    rw [UInt64.toNat_ofNat']
    exact Nat.mod_eq_of_lt h
  have hbound : (n : ℚ) ≤ 2 ^ 100 := by
    have hn : (n : ℚ) ≤ 2 ^ 64 := by exact_mod_cast h.le
    exact hn.trans (pow_le_pow_right₀ (by norm_num) (by decide))
  have hround := exists_nearest_normalize n 0
  rw [zpow_zero, mul_one] at hround
  have hpack := exists_denotes_pack hbound hround
  rw [← hvalue] at hpack
  rwa [← hvalue, UInt64.ofNat_toNat]

theorem Denotes.isFinite (h : Denotes f x) : f.isFinite = true := by
  change f.toModel.unpack.isFinite = true
  rw [Denotes] at h
  generalize f.toModel.unpack = u at h
  cases h <;> rfl

/-- No whole number is so great that its double is infinite, since it is cut to sixty-four bits. -/
theorem exists_denotes_ofNat (n : ℕ) : ∃ y, Denotes (Figures.ofNat n) y := by
  obtain ⟨y, -, hdenotes⟩ := denotes_toFloat (n := (UInt64.ofNat n).toNat) (UInt64.toNat_lt _)
  rw [UInt64.ofNat_toNat] at hdenotes
  exact ⟨y, hdenotes⟩

theorem isFinite_ofNat (n : ℕ) : Figures.isFinite (Figures.ofNat n : Float) = true := by
  obtain ⟨y, hdenotes⟩ := exists_denotes_ofNat n
  exact hdenotes.isFinite

/-- Those of fifty-three bits are doubles themselves. -/
theorem denotes_toFloat_of_le (h : n ≤ 2 ^ 53) : Denotes (UInt64.ofNat n).toFloat n := by
  obtain ⟨y, hy, hdenotes⟩ := denotes_toFloat (n := n) (by omega)
  rwa [hy.eq_of_isDouble (isDouble_natCast h)] at hdenotes

/-! ### Arithmetic -/

theorem tells_accuracyOfFraction (m : ℕ) (hn : 0 < n) :
    Tells (accuracyOfFraction (m % n) n) (m / n) (m / n : ℚ) := by
  have hsum : (n : ℚ) * ((m / n : ℕ) : ℚ) + ((m % n : ℕ) : ℚ) = m := by
    exact_mod_cast Nat.div_add_mod m n
  have hpos : (0 : ℚ) < n := by exact_mod_cast hn
  have hless : ((m % n : ℕ) : ℚ) < n := by exact_mod_cast Nat.mod_lt m hn
  have hquotient : (m : ℚ) / n = (m / n : ℕ) + ((m % n : ℕ) : ℚ) / n := by
    rw [← hsum]
    field_simp
  rw [accuracyOfFraction, hquotient]
  split
  · next hzero => simp [Tells, hzero]
  · next hne =>
    have hrest : (0 : ℚ) < ((m % n : ℕ) : ℚ) := by exact_mod_cast Nat.pos_of_ne_zero hne
    have hfraction : 0 < ((m % n : ℕ) : ℚ) / n := div_pos hrest hpos
    have hone : ((m % n : ℕ) : ℚ) / n < 1 := (div_lt_one hpos).mpr hless
    cases hcompare : compare (2 * (m % n)) n with
    | lt =>
      have hlt : (2 : ℚ) * ((m % n : ℕ) : ℚ) < n := by exact_mod_cast Nat.compare_eq_lt.mp hcompare
      have hhalf : ((m % n : ℕ) : ℚ) / n < 1 / 2 := by
        rw [div_lt_iff₀ hpos]
        linarith
      exact ⟨by linarith, by linarith⟩
    | eq =>
      have heq : (2 : ℚ) * ((m % n : ℕ) : ℚ) = n := by exact_mod_cast Nat.compare_eq_eq.mp hcompare
      have hhalf : ((m % n : ℕ) : ℚ) / n = 1 / 2 := by
        rw [div_eq_iff hpos.ne']
        linarith
      rw [Tells, hhalf]
    | gt =>
      have hgt : (n : ℚ) < 2 * ((m % n : ℕ) : ℚ) := by exact_mod_cast Nat.compare_eq_gt.mp hcompare
      have hhalf : 1 / 2 < ((m % n : ℕ) : ℚ) / n := by
        rw [lt_div_iff₀ hpos]
        linarith
      exact ⟨by linarith, by linarith⟩

/-- The quotient has bits enough, since the numerator is given that many more than the denominator. -/
theorem roundedFrom_div (hm : 0 < m) (hn : 0 < n) (e e' : ℤ) :
    RoundedFrom (UnpackedFloat.div Format.binary64 (.finite .positive m e hm) (.finite .positive n e' hn))
      (m * 2 ^ e / (n * 2 ^ e')) := by
  obtain ⟨t, ht⟩ : ∃ t : ℤ, min (e - e') (Format.binary64.targetExponent
    (totalExponent m e - totalExponent n e')) = t := ⟨_, rfl⟩
  obtain ⟨k, hk⟩ : ∃ k : ℕ, (e - e' - t).toNat = k := ⟨_, rfl⟩
  have hcore : divCore Format.binary64 m e n e' =
      ((m <<< k) / n, t, accuracyOfFraction ((m <<< k) % n) n) := by
    rw [← hk, ← ht]
    rfl
  have htarget : t ≤ e - e' ∧ (t ≤ -1074 ∨ t ≤ m.log2 + e - (n.log2 + e') - 53) := by
    rw [← ht]
    simp only [Format.targetExponent, totalExponent, Format.mantissaBits, Format.minExponent]
    norm_num
    omega
  refine ⟨(m <<< k) / n, t, accuracyOfFraction ((m <<< k) % n) n, ?_, ?_, ?_⟩
  · rw [UnpackedFloat.div, hcore]
    rfl
  · have htells := tells_accuracyOfFraction (m <<< k) hn
    convert htells using 1
    have he : e = e' + t + k := by omega
    rw [Nat.shiftLeft_eq, he, zpow_add₀ (by norm_num), zpow_add₀ (by norm_num), zpow_natCast]
    push_cast
    field_simp
  · refine htarget.2.symm.imp_left fun henough => ?_
    have hshift := log2_shiftLeft hm k
    refine le_log2_of_le ((Nat.le_div_iff_mul_le hn).mpr ?_)
    calc 2 ^ 52 * n ≤ 2 ^ 52 * 2 ^ (n.log2 + 1) := Nat.mul_le_mul_left _ Nat.lt_log2_self.le
      _ = 2 ^ (n.log2 + 53) := by
          rw [← pow_add]
          congr 1
          omega
      _ ≤ 2 ^ (m <<< k).log2 := Nat.pow_le_pow_right (by decide) (by omega)
      _ ≤ m <<< k := Nat.log2_self_le (by rw [Nat.shiftLeft_eq]; positivity)

theorem roundedFrom_mul (hm : 0 < m) (hn : 0 < n) {e e' : ℤ}
    (henough : 52 ≤ (m * n).log2 ∨ e + e' ≤ -1074) :
    RoundedFrom (UnpackedFloat.mul Format.binary64 (.finite .positive m e hm) (.finite .positive n e' hn))
      (m * 2 ^ e * (n * 2 ^ e')) := by
  refine ⟨m * n, e + e', .exact, rfl, ?_, henough⟩
  rw [Tells, zpow_add₀ (by norm_num)]
  push_cast
  field_simp

/-- The product of stored doubles has bits enough. -/
theorem Canonical.enough_mul (hm : 0 < m) (h : Canonical m e) (hn : 0 < n) {e' : ℤ} (h' : Canonical n e') :
    52 ≤ (m * n).log2 ∨ e + e' ≤ -1074 := by
  rcases h.full with hfull | rfl
  · exact .inl (le_log2_of_le (hfull.trans (Nat.le_mul_of_pos_right m hn)))
  · rcases h'.full with hfull | rfl
    · exact .inl (le_log2_of_le (hfull.trans (Nat.le_mul_of_pos_left n hm)))
    · exact .inr (by decide)

theorem HasValue.div {v : UnpackedFloat} (hu : HasValue u x) (hv : HasValue v y) (hy : 0 < y) :
    ∃ z, Nearest (x / y) z ∧ HasValue (UnpackedFloat.div Format.binary64 u v) z := by
  cases hv with
  | zero => exact absurd hy (lt_irrefl 0)
  | finite hn _ =>
    cases hu with
    | zero =>
      rw [zero_div]
      exact ⟨0, nearest_self HasValue.zero.isDouble, .zero⟩
    | finite hm _ => exact (roundedFrom_div hm hn _ _).exists_nearest

theorem Denotes.div (hf : Denotes f x) (hg : Denotes g y) (hy : 0 < y) (hxy : x / y ≤ 2 ^ 100) :
    ∃ z, Nearest (x / y) z ∧ Denotes (f / g) z :=
  exists_denotes_pack hxy (HasValue.div hf hg hy)

theorem HasValue.mul {v : UnpackedFloat} (hu : HasValue u x) (hv : HasValue v y) :
    ∃ z, Nearest (x * y) z ∧ HasValue (UnpackedFloat.mul Format.binary64 u v) z := by
  have hzero := nearest_self HasValue.zero.isDouble
  cases hu with
  | zero =>
    rw [zero_mul]
    cases hv with
    | zero => exact ⟨0, hzero, .zero⟩
    | finite hn _ => exact ⟨0, hzero, .zero⟩
  | finite hm h =>
    cases hv with
    | zero =>
      rw [mul_zero]
      exact ⟨0, hzero, .zero⟩
    | finite hn h' => exact (roundedFrom_mul hm hn (h.enough_mul hm hn h')).exists_nearest

theorem Denotes.mul (hf : Denotes f x) (hg : Denotes g y) (hxy : x * y ≤ 2 ^ 100) :
    ∃ z, Nearest (x * y) z ∧ Denotes (f * g) z :=
  exists_denotes_pack hxy (HasValue.mul hf hg)

/-- Two numbers are brought to their lesser exponent. -/
theorem decreaseExponent_min (m : ℕ) {e t : ℤ} (h : t ≤ e) :
    (((decreaseExponent m e t).1 : ℕ) : ℚ) * 2 ^ t = m * 2 ^ e := by
  have he : e = t + (e - t).toNat := by omega
  simp only [decreaseExponent, Nat.shiftLeft_eq]
  conv_rhs => rw [he, zpow_add₀ (by norm_num), zpow_natCast]
  push_cast
  ring

theorem HasValue.add {v : UnpackedFloat} (hu : HasValue u x) (hv : HasValue v y) :
    ∃ z, Nearest (x + y) z ∧ HasValue (UnpackedFloat.add Format.binary64 u v) z := by
  cases hu with
  | zero =>
    rw [zero_add]
    cases hv with
    | zero => exact ⟨0, nearest_self HasValue.zero.isDouble, .zero⟩
    | finite hn h => exact ⟨_, nearest_self (HasValue.finite hn h).isDouble, .finite hn h⟩
  | @finite m e hm h =>
    cases hv with
    | zero =>
      rw [add_zero]
      exact ⟨_, nearest_self (HasValue.finite hm h).isDouble, .finite hm h⟩
    | @finite n e' hn _ =>
      rw [← decreaseExponent_min m (min_le_left e e'), ← decreaseExponent_min n (min_le_right e e'),
        ← add_mul, ← Nat.cast_add]
      exact exists_nearest_normalize _ _

theorem Denotes.add (hf : Denotes f x) (hg : Denotes g y) (hxy : x + y ≤ 2 ^ 100) :
    ∃ z, Nearest (x + y) z ∧ Denotes (f + g) z :=
  exists_denotes_pack hxy (HasValue.add hf hg)

theorem Denotes.sub (hf : Denotes f x) (hg : Denotes g y) (hxy : y ≤ x) (hx : x ≤ 2 ^ 100) :
    ∃ z, Nearest (x - y) z ∧ Denotes (f - g) z := by
  have hle : x - y ≤ 2 ^ 100 := (sub_le_self x hg.nonneg).trans hx
  refine exists_denotes_pack hle (u := UnpackedFloat.sub Format.binary64 f.toModel.unpack
    g.toModel.unpack) ?_
  rw [Denotes] at hf hg
  generalize f.toModel.unpack = u at hf
  generalize g.toModel.unpack = v at hg
  cases hg with
  | zero =>
    rw [sub_zero]
    cases hf with
    | zero => exact ⟨0, nearest_self HasValue.zero.isDouble, .zero⟩
    | finite hm h => exact ⟨_, nearest_self (HasValue.finite hm h).isDouble, .finite hm h⟩
  | @finite n e' hn _ =>
    cases hf with
    | zero =>
      have hpos : (0 : ℚ) < n := by exact_mod_cast hn
      have : 0 < (n : ℚ) * 2 ^ e' := by positivity
      exact absurd hxy (not_le_of_gt this)
    | @finite m e hm _ =>
      have hfirst := decreaseExponent_min m (min_le_left e e')
      have hsecond := decreaseExponent_min n (min_le_right e e')
      rw [← hfirst, ← hsecond] at hxy ⊢
      have horder : (decreaseExponent n e' (min e e')).1 ≤ (decreaseExponent m e (min e e')).1 := by
        exact_mod_cast le_of_mul_le_mul_right hxy (by positivity)
      have hround := exists_nearest_normalize ((decreaseExponent m e (min e e')).1 -
        (decreaseExponent n e' (min e e')).1) (min e e')
      rw [Int.ofNat_sub horder] at hround
      rw [← sub_mul, ← Nat.cast_sub horder]
      exact hround

/-! ### Order -/

theorem Canonical.lt_of_exponent_lt {e' : ℤ} (h : Canonical m e) (h' : Canonical n e') (hlt : e < e') :
    (m * 2 ^ e : ℚ) < n * 2 ^ e' := by
  have hn : 2 ^ 52 ≤ n := h'.full.resolve_right (by have := h.least; omega)
  have hm : (m : ℚ) < 2 ^ 53 := by exact_mod_cast h.bound
  have hn : (2 : ℚ) ^ 52 ≤ n := by exact_mod_cast hn
  calc (m * 2 ^ e : ℚ) < 2 ^ 53 * 2 ^ e := mul_lt_mul_of_pos_right hm (by positivity)
    _ = 2 ^ 52 * 2 ^ (e + 1) := by
        rw [zpow_add₀ (by norm_num)]
        ring
    _ ≤ n * 2 ^ e' :=
        mul_le_mul hn (zpow_le_zpow_right₀ (by norm_num) (by omega)) (by positivity) (by positivity)

/-- Stored doubles are compared by their exponents first. -/
theorem compare_canonical {e' : ℤ} (h : Canonical m e) (h' : Canonical n e') :
    (compare e e').then (compare m n) = compare (m * 2 ^ e : ℚ) (n * 2 ^ e') := by
  rcases lt_trichotomy e e' with hlt | rfl | hgt
  · rw [compare_lt_iff_lt.mpr hlt, compare_lt_iff_lt.mpr (h.lt_of_exponent_lt h' hlt)]
    rfl
  · rw [compare_eq_iff_eq.mpr rfl]
    rcases lt_trichotomy m n with hmn | rfl | hmn
    · have hvalue : (m * 2 ^ e : ℚ) < n * 2 ^ e :=
        mul_lt_mul_of_pos_right (by exact_mod_cast hmn) (by positivity)
      rw [compare_lt_iff_lt.mpr hvalue, compare_lt_iff_lt.mpr hmn]
      rfl
    · rw [compare_eq_iff_eq.mpr rfl, compare_eq_iff_eq.mpr rfl]
      rfl
    · have hvalue : (n * 2 ^ e : ℚ) < m * 2 ^ e :=
        mul_lt_mul_of_pos_right (by exact_mod_cast hmn) (by positivity)
      rw [compare_gt_iff_gt.mpr hvalue, compare_gt_iff_gt.mpr hmn]
      rfl
  · rw [compare_gt_iff_gt.mpr hgt, compare_gt_iff_gt.mpr (h'.lt_of_exponent_lt h hgt)]
    rfl

theorem HasValue.compare {v : UnpackedFloat} (hu : HasValue u x) (hv : HasValue v y) :
    u.compare v = some (Ord.compare x y) := by
  have hpos {m : ℕ} (hm : 0 < m) (e : ℤ) : (0 : ℚ) < m * 2 ^ e := by
    have : (0 : ℚ) < m := by exact_mod_cast hm
    positivity
  cases hu with
  | zero =>
    cases hv with
    | zero => rw [compare_eq_iff_eq.mpr rfl]; rfl
    | finite hn _ => rw [compare_lt_iff_lt.mpr (hpos hn _)]; rfl
  | finite hm h =>
    cases hv with
    | zero => rw [compare_gt_iff_gt.mpr (hpos hm _)]; rfl
    | finite hn h' => rw [← compare_canonical h h']; rfl

theorem le_iff_of_compare (h : f.toModel.unpack.compare g.toModel.unpack = some (Ord.compare x y)) :
    f ≤ g ↔ x ≤ y := by
  change decide (UnpackedFloat.le f.toModel.unpack g.toModel.unpack = true) = true ↔ _
  rw [decide_eq_true_iff, UnpackedFloat.le, h, ← compare_le_iff_le]
  exact Ordering.isLE_iff_ne_gt

theorem lt_iff_of_compare (h : f.toModel.unpack.compare g.toModel.unpack = some (Ord.compare x y)) :
    f < g ↔ x < y := by
  change decide (UnpackedFloat.lt f.toModel.unpack g.toModel.unpack = true) = true ↔ _
  rw [decide_eq_true_iff, UnpackedFloat.lt, h, ← compare_lt_iff_lt]
  exact beq_iff_eq.trans (Option.some.injEq _ _).to_iff

theorem Denotes.le_iff (hf : Denotes f x) (hg : Denotes g y) : f ≤ g ↔ x ≤ y :=
  le_iff_of_compare (HasValue.compare hf hg)

theorem Denotes.lt_iff (hf : Denotes f x) (hg : Denotes g y) : f < g ↔ x < y :=
  lt_iff_of_compare (HasValue.compare hf hg)

end SuiteBench.Decimal
