import SuiteBench.Proofs.Decimal.Places
import SuiteBench.Proofs.Decimal.Reading

/-!
# Proofs.Decimal.Signs — doubles below zero, and doubles that run over

A finite double of either sign amounts to a number, and doubles are compared as these numbers are.  What is
computed with doubles that are not negative either comes to such a number or runs over to the positive
infinity: it never falls below zero and never fails to be a number.
-/

namespace SuiteBench.Decimal

open Float.Model Float.Model.UnpackedFloat

variable {x y : ℚ} {m n : ℕ} {e : ℤ} {u v : UnpackedFloat} {f g : Float} {b c : Binary}

/-! ### Numbers of either sign -/

/-- The number with these parts. -/
def Binary.number (b : Binary) : ℚ := (if b.negative then -1 else 1) * (b.mantissa * 2 ^ b.exponent)

/-- Whether an unpacked double has a value, which may be negative. -/
def HasSigned (u : UnpackedFloat) (x : ℚ) : Prop := HasValue u x ∨ HasValue u.neg (-x)

theorem hasSigned_ofParts (h : Canonical b.mantissa b.exponent) :
    HasSigned (ofParts (signOf b.negative) b.mantissa b.exponent) b.number := by
  rw [Binary.number]
  cases b.negative with
  | false =>
    rw [if_neg Bool.false_ne_true, one_mul]
    exact .inl (hasValue_ofParts h)
  | true =>
    have hneg : (ofParts .negative b.mantissa b.exponent).neg = ofParts .positive b.mantissa b.exponent := by
      rw [ofParts, ofParts]
      split <;> rfl
    rw [if_pos rfl, HasSigned, neg_mul, one_mul, neg_neg]
    exact .inr (hneg ▸ hasValue_ofParts h)

theorem compare_neg (u v : UnpackedFloat) :
    u.neg.compare v.neg = (u.compare v).map Ordering.swap := by
  cases u with
  | notANumber => cases v <;> rfl
  | infinity s => cases v with
    | notANumber => rfl
    | infinity t => cases s <;> cases t <;> rfl
    | zero t => cases s <;> rfl
    | finite t => cases s <;> rfl
  | zero s => cases v with
    | notANumber => rfl
    | infinity t => cases t <;> rfl
    | zero t => rfl
    | finite t => cases t <;> rfl
  | finite s m e hm => cases v with
    | notANumber => rfl
    | infinity t => cases t <;> rfl
    | zero t => cases s <;> rfl
    | finite t n e' hn =>
      cases s <;> cases t
      · exact congrArg some Ordering.swap_swap.symm
      · rfl
      · rfl
      · rfl

@[simp] theorem neg_neg_unpacked (u : UnpackedFloat) : u.neg.neg = u := by
  cases u with
  | notANumber => rfl
  | infinity s => cases s <;> rfl
  | zero s => cases s <;> rfl
  | finite s => cases s <;> rfl

theorem HasSigned.neg (h : HasSigned u x) : HasSigned u.neg (-x) := by
  rw [HasSigned, neg_neg_unpacked, neg_neg]
  exact h.symm

theorem HasValue.unique (hu : HasValue u x) (hv : HasValue v x) : u = v := by
  have hpos {m : ℕ} (hm : 0 < m) (e : ℤ) : (m * 2 ^ e : ℚ) ≠ 0 := by
    have : (0 : ℚ) < m := by exact_mod_cast hm
    positivity
  generalize hx : x = z at hv
  cases hu with
  | zero =>
    cases hv with
    | zero => rfl
    | finite hn _ => exact absurd hx.symm (hpos hn _)
  | @finite m e hm h =>
    cases hv with
    | zero => exact absurd hx (hpos hm _)
    | @finite n e' hn h' =>
      have hcompare := compare_canonical h h'
      rw [compare_eq_iff_eq.mpr hx, Ordering.then_eq_eq, compare_eq_iff_eq, compare_eq_iff_eq] at hcompare
      obtain ⟨rfl, rfl⟩ := hcompare
      rfl

/-- What is not negative is compared with a number of either sign. -/
theorem HasValue.compare_signed (hu : HasValue u x) (hv : HasSigned v y) :
    u.compare v = some (Ord.compare x y) := by
  rcases hv with hv | hv
  · exact hu.compare hv
  have hx := hu.isDouble.nonneg
  cases v with
  | notANumber => cases hv
  | infinity s => cases s <;> cases hv
  | zero s =>
    cases s with
    | positive => cases hv
    | negative =>
      -- the sign of a zero is not looked at
      have hzero : y = 0 := by
        generalize hz : -y = z at hv
        cases hv
        exact neg_eq_zero.mp hz
      have hvalue : HasValue (.zero .positive) y := hzero ▸ .zero
      rw [← hu.compare hvalue]
      cases hu <;> rfl
  | finite s n e' hn =>
    cases s with
    | positive => cases hv
    | negative =>
      have hy : y < 0 := by
        have hpos : (0 : ℚ) < -y := by
          generalize hz : -y = z at hv
          cases hv with
          | finite _ _ =>
            have : (0 : ℚ) < n := by exact_mod_cast hn
            positivity
        linarith
      rw [compare_gt_iff_gt.mpr (hy.trans_le hx)]
      cases hu <;> rfl

/-- Numbers of either sign are compared as what they stand for. -/
theorem HasSigned.compare (hu : HasSigned u x) (hv : HasSigned v y) :
    u.compare v = some (Ord.compare x y) := by
  rcases hu with hu | hu
  · exact hu.compare_signed hv
  · have hneg := compare_neg u v
    rw [hu.compare_signed hv.neg] at hneg
    obtain ⟨o, ho, hswap⟩ := Option.map_eq_some_iff.mp hneg.symm
    rw [ho, ← Ordering.swap_swap (o := o), hswap]
    rcases lt_trichotomy x y with hlt | rfl | hgt
    · rw [compare_lt_iff_lt.mpr hlt, compare_gt_iff_gt.mpr (neg_lt_neg hlt)]
      rfl
    · rw [compare_eq_iff_eq.mpr rfl, compare_eq_iff_eq.mpr rfl]
      rfl
    · rw [compare_gt_iff_gt.mpr hgt, compare_lt_iff_lt.mpr (neg_lt_neg hgt)]
      rfl

/-- Whether a double is finite and amounts to a number. -/
def Amounts (f : Float) (x : ℚ) : Prop := ∃ b, Double.of f = .finite b ∧ b.number = x

namespace Amounts

theorem hasSigned (h : Amounts f x) : HasSigned f.toModel.unpack x := by
  obtain ⟨b, hb, rfl⟩ := h
  have hparts := parts_of hb
  rw [hparts.unpack]
  exact hasSigned_ofParts hparts.stored

theorem isFinite (h : Amounts f x) : f.isFinite = true := by
  obtain ⟨b, hb, -⟩ := h
  exact (parts_of hb).isFinite

theorem exists_of_isFinite (h : f.isFinite = true) : ∃ x, Amounts f x := by
  obtain ⟨b, hb⟩ := exists_finite h
  exact ⟨_, b, hb, rfl⟩

theorem lt_iff (hf : Amounts f x) (hg : Amounts g y) : f < g ↔ x < y :=
  lt_iff_of_compare (hf.hasSigned.compare hg.hasSigned)

theorem le_iff (hf : Amounts f x) (hg : Amounts g y) : f ≤ g ↔ x ≤ y :=
  le_iff_of_compare (hf.hasSigned.compare hg.hasSigned)

theorem zero : Amounts 0.0 0 := ⟨⟨false, 0, -1074, false⟩, rfl, by simp [Binary.number]⟩

/-- A double that is not negative stands for its number, unless it is the zero with a sign. -/
theorem denotes (h : Amounts f x) (hx : 0 ≤ x) : Denotes f x ∨ f = -0.0 ∧ x = 0 := by
  rcases h.hasSigned with hvalue | hvalue
  · exact .inl hvalue
  · have hzero : x = 0 := le_antisymm (neg_nonneg.mp hvalue.isDouble.nonneg) hx
    have hunpack : f.toModel.unpack.neg = .zero .positive := by
      rw [hzero, neg_zero] at hvalue
      exact hvalue.unique .zero
    refine .inr ⟨(eq_of_unpack_eq (f := f) h.isFinite ?_).symm, hzero⟩
    rw [← neg_neg_unpacked f.toModel.unpack, hunpack]
    rfl

end Amounts

/-- Doubles that are not negative are told apart by what they stand for. -/
theorem Denotes.unique (hf : Denotes f x) (hg : Denotes g x) : f = g :=
  eq_of_unpack_eq hg.isFinite (HasValue.unique hf hg)

theorem Denotes.abs_eq (h : Denotes f x) : f.abs = f := by
  refine eq_of_unpack_eq h.isFinite ?_
  have habs : f.toModel.unpack.abs = f.toModel.unpack := by
    rw [Denotes] at h
    generalize f.toModel.unpack = u at h
    cases h <;> rfl
  obtain ⟨b, hb⟩ := exists_finite h.isFinite
  have hparts := parts_of hb
  change (Float.Model.pack f.toModel.unpack.abs).unpack = _
  rw [habs, hparts.unpack]
  exact unpack_pack_ofParts _ hparts.stored hparts.exponent_le

/-! ### Running over -/

/-- Whether an unpacked double has a value or is the positive infinity. -/
def Reaching (u : UnpackedFloat) (x : ℚ) : Prop := HasValue u x ∨ u = .infinity .positive

/-- Whether a double stands for a number or has run over to the positive infinity. -/
def Reaches (f : Float) (x : ℚ) : Prop := Reaching f.toModel.unpack x

/-- What is packed runs over when its exponent is too great. -/
theorem reaches_pack (h : Reaching u x) : Reaches ⟨Float.Model.pack u⟩ x := by
  rcases h with h | rfl
  · cases h with
    | zero => exact .inl .zero
    | @finite m e hm h =>
      by_cases he : e ≤ 971
      · rw [Reaches, unpack_pack_finite hm h he]
        exact .inl (.finite hm h)
      · have hbits : 2 ^ Format.binary64.exponentBits ≤ (e + (Format.binary64.exponentBias : ℤ) +
            (Format.binary64.mantissaBitsWithoutImplicit : ℤ)).toNat + 1 := by
          simp [Format.exponentBias]
          omega
        have hover : UnpackedFloat.pack Format.binary64 (.finite .positive m e hm) =
            UnpackedFloat.pack Format.binary64 (.infinity .positive) := if_pos hbits
        right
        change UnpackedFloat.unpack Format.binary64 (UnpackedFloat.pack Format.binary64 _) = _
        rw [hover]
        rfl
  · exact .inr rfl

theorem not_lt_of_infinity (hf : f.toModel.unpack = .infinity .positive) (hg : Denotes g y) : ¬ f < g := by
  change ¬ decide (UnpackedFloat.lt f.toModel.unpack g.toModel.unpack = true) = true
  rw [hf]
  rw [Denotes] at hg
  generalize g.toModel.unpack = v at hg
  cases hg <;> exact (by decide : ¬ decide (false = true) = true)

namespace Reaches

/-- Adding what is not negative does not make a sum less. -/
theorem add (hf : Reaches f x) (hg : Reaches g y) (hy : 0 ≤ y) : ∃ z, x ≤ z ∧ Reaches (f + g) z := by
  suffices h : ∃ z, x ≤ z ∧ Reaching (UnpackedFloat.add Format.binary64 f.toModel.unpack
      g.toModel.unpack) z by
    obtain ⟨z, hle, hz⟩ := h
    exact ⟨z, hle, reaches_pack hz⟩
  rcases hf with hf | hf <;> rcases hg with hg | hg
  · obtain ⟨z, hz, hvalue⟩ := hf.add hg
    exact ⟨z, hz.le_of_ge hf.isDouble (le_add_of_nonneg_right hy), .inl hvalue⟩
  · rw [hg]
    generalize f.toModel.unpack = u at hf
    exact ⟨x, le_rfl, .inr (by cases hf <;> rfl)⟩
  · rw [hf]
    generalize g.toModel.unpack = v at hg
    exact ⟨x, le_rfl, .inr (by cases hg <;> rfl)⟩
  · rw [hf, hg]
    exact ⟨x, le_rfl, .inr rfl⟩

theorem mul (hf : Reaches f x) (hg : Denotes g y) (hy : 0 < y) : ∃ z, Reaches (f * g) z := by
  suffices h : ∃ z, Reaching (UnpackedFloat.mul Format.binary64 f.toModel.unpack g.toModel.unpack) z by
    obtain ⟨z, hz⟩ := h
    exact ⟨z, reaches_pack hz⟩
  rw [Denotes] at hg
  rcases hf with hf | hf
  · obtain ⟨z, -, hvalue⟩ := hf.mul hg
    exact ⟨z, .inl hvalue⟩
  · rw [hf]
    generalize g.toModel.unpack = v at hg
    cases hg with
    | zero => exact absurd hy (lt_irrefl 0)
    | finite hn _ => exact ⟨0, .inr rfl⟩

/-- A quotient fails to be a number only when zero is divided by zero. -/
theorem div (hf : Reaches f x) (hg : Denotes g y) (hpos : 0 < x ∨ 0 < y) : ∃ z, Reaches (f / g) z := by
  suffices h : ∃ z, Reaching (UnpackedFloat.div Format.binary64 f.toModel.unpack g.toModel.unpack) z by
    obtain ⟨z, hz⟩ := h
    exact ⟨z, reaches_pack hz⟩
  rw [Denotes] at hg
  rcases hf with hf | hf
  · by_cases hy : 0 < y
    · obtain ⟨z, -, hvalue⟩ := hf.div hg hy
      exact ⟨z, .inl hvalue⟩
    · have hx := hpos.resolve_right hy
      have hzero : y = 0 := le_antisymm (not_lt.mp hy) hg.isDouble.nonneg
      subst hzero
      rw [hg.unique .zero]
      generalize f.toModel.unpack = u at hf
      cases hf with
      | zero => exact absurd hx (lt_irrefl 0)
      | finite hm _ => exact ⟨0, .inr rfl⟩
  · rw [hf]
    generalize g.toModel.unpack = v at hg
    cases hg <;> exact ⟨0, .inr rfl⟩

theorem wholeDouble (hf : Reaches f x) : ∃ z, Reaches (wholeDouble f) z := by
  rcases hf with hf | hf
  · by_cases hx : x < 2 ^ 52
    · exact ⟨_, .inl (denotes_wholeDouble hf hx)⟩
    · have hgreat : ¬ f.abs < 4503599627370496.0 := by
        rw [Denotes.abs_eq hf, Denotes.lt_iff hf denotes_limit]
        exact_mod_cast hx
      rw [Decimal.wholeDouble, if_neg hgreat]
      exact ⟨x, .inl hf⟩
  · have habs : f.abs.toModel.unpack = .infinity .positive := by
      change (Float.Model.pack f.toModel.unpack.abs).unpack = _
      rw [hf]
      rfl
    rw [Decimal.wholeDouble, if_neg (not_lt_of_infinity habs denotes_limit)]
    exact ⟨x, .inr hf⟩

/-- Rounding to decimal places keeps a figure from falling below zero, even where scaling it runs over. -/
theorem roundTo {places : ℕ} (hplaces : places ≤ 15) (hf : Reaches f x) :
    ∃ z, Reaches (roundTo f places) z := by
  have hscale := denotes_scale hplaces
  have hpos : (0 : ℚ) < (10 ^ places : ℕ) := by exact_mod_cast Nat.pow_pos (by decide)
  obtain ⟨z, hz⟩ := hf.mul hscale hpos
  obtain ⟨w, hw⟩ := hz.wholeDouble
  exact hw.div hscale (.inr hpos)

theorem isNaN (h : Reaches f x) : f.isNaN = false := by
  change f.toModel.unpack.isNaN = false
  rw [Reaches] at h
  generalize f.toModel.unpack = u at h
  rcases h with h | rfl
  · cases h <;> rfl
  · rfl

end Reaches

end SuiteBench.Decimal
