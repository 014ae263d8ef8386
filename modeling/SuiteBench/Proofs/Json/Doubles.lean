import SuiteBench.Proofs.Decimal.Shortest
import SuiteBench.Proofs.Json.RoundTrip

/-!
# Proofs.Json.Doubles — finite doubles read back

The text of a finite double is a numeral, wherever the point stands in it and whether or not it has an
exponent.  The numeral has the value of the shortest decimal of the double, which is read as the double.
-/

namespace SuiteBench.Json

open Decimal

variable {negative : Bool} {ds fs cs : List Char} {s : Scientific} {f : Float} {b : Binary}

/-! ### Parts of a numeral -/

/-- The decimal that a numeral stands for. -/
def value (n : Numeral) : ℚ := digitsValue (n.whole ++ n.fraction) * 10 ^ (n.exponent - n.fraction.length)

/-- Digits without a needless zero in front are the whole part of a numeral. -/
theorem unsigned?_whole (hd : ∀ c ∈ ds, isDigit c = true) (hne : ds ≠ [])
    (hzero : ds.head? = some '0' → ds.length = 1) (hcs : ∀ c ∈ cs.head?, isDigit c = false) :
    unsigned? negative (ds ++ cs) = (fraction? cs).bind fun (fraction, r, point) =>
      (exponent? r).map fun (e, r) => (⟨negative, ds, fraction, e.getD 0⟩, !point && e.isNone, r) := by
  have hwhole : ¬(ds.isEmpty || (ds.head? == some '0' && ds.length != 1)) = true := by
    simp [hne]
    exact hzero
  rw [unsigned?, spanDigits_append hd hcs]
  dsimp only
  rw [if_neg hwhole]

theorem fraction?_point (hd : ∀ c ∈ fs, isDigit c = true) (hne : fs ≠ [])
    (hcs : ∀ c ∈ cs.head?, isDigit c = false) : fraction? ('.' :: (fs ++ cs)) = some (fs, cs, true) := by
  rw [fraction?, spanDigits_append hd hcs]
  dsimp only
  rw [if_neg (by simpa using hne)]

theorem spanDigits_digits (n : ℕ) : spanDigits (digits n) = (digits n, []) := by
  have happend := spanDigits_append (fun _ => isDigit_of_mem_digits (n := n)) breaks_nil.notDigit
  rwa [List.append_nil] at happend

theorem exponent?_signed (e : ℤ) :
    exponent? ('e' :: ((if e < 0 then "-" else "+").toList ++ digits e.natAbs)) = some (some e, []) := by
  have hsign : exponentSign ((if e < 0 then "-" else "+").toList ++ digits e.natAbs) =
      (decide (e < 0), digits e.natAbs) := by
    split
    · next hneg =>
      rw [decide_eq_true hneg]
      rfl
    · next hpos =>
      rw [decide_eq_false hpos]
      rfl
  have hvalue : (if decide (e < 0) = true then -(e.natAbs : ℤ) else e.natAbs) = e := by
    simp only [decide_eq_true_eq]
    split <;> omega
  rw [exponent?, if_pos (by decide), hsign]
  dsimp only
  rw [spanDigits_digits]
  dsimp only
  rw [if_neg (by simpa using digits_ne_nil e.natAbs), digitsValue_digits, hvalue]

/-! ### The text of a decimal -/

/-- Whether a text is a numeral with a point or an exponent that stands for a number. -/
def Writes (negative : Bool) (cs : List Char) (x : ℚ) : Prop :=
  ∃ n : Numeral, unsigned? negative cs = some (n, false, []) ∧ n.negative = negative ∧ value n = x

/-- Digits around a point. -/
theorem writes_point (ds fs : List Char) (hd : ∀ c ∈ ds, isDigit c = true) (hne : ds ≠ [])
    (hzero : ds.head? = some '0' → ds.length = 1) (hf : ∀ c ∈ fs, isDigit c = true) (hne' : fs ≠ []) :
    Writes negative (ds ++ '.' :: fs) (digitsValue (ds ++ fs) * 10 ^ (-(fs.length : ℤ))) := by
  refine ⟨⟨negative, ds, fs, 0⟩, ?_, rfl, by rw [value, zero_sub]⟩
  have hfraction := fraction?_point hf hne' breaks_nil.notDigit
  rw [List.append_nil] at hfraction
  rw [unsigned?_whole hd hne hzero (by simp; decide), hfraction]
  rfl

theorem eq_zero_of_head?_digits {n : ℕ} (h : (digits n).head? = some '0') : n = 0 := by
  by_contra hne
  exact head?_digits (Nat.pos_of_ne_zero hne) h

theorem length_digits_zero : (digits 0).length = 1 := rfl

theorem isDigit_of_mem_zeros {k : ℕ} {c : Char} (h : c ∈ List.replicate k '0') : isDigit c = true := by
  rw [List.eq_of_mem_replicate h]
  decide

/-- Zeros behind the digits, digits around the point, or zeros in front of the digits. -/
theorem writes_positionalText (h : s.coefficient = 0 → s.exponent = 0) :
    Writes negative (positionalText s true).toList s.value := by
  have hdigits : ∀ c ∈ digits s.coefficient, isDigit c = true := fun c hc => isDigit_of_mem_digits hc
  have hne := digits_ne_nil s.coefficient
  have hlength := List.length_pos_iff.mpr hne
  rw [positionalText]
  dsimp only
  split
  · next hexponent =>
    obtain ⟨k, hk⟩ := Int.eq_ofNat_of_zero_le hexponent
    have hzeros : ∀ c ∈ digits s.coefficient ++ List.replicate k '0', isDigit c = true :=
      List.forall_mem_append.mpr ⟨hdigits, fun _ => isDigit_of_mem_zeros⟩
    convert writes_point (digits s.coefficient ++ List.replicate k '0') ['0'] hzeros (by simp [hne]) ?_
      (List.forall_mem_singleton.mpr (by decide)) (by decide) using 1
    · simp [hk]
    · rw [List.append_assoc, ← List.replicate_succ', digitsValue_append_zeros, digitsValue_digits,
        Scientific.value, hk]
      push_cast
      rw [zpow_natCast, pow_succ]
      norm_num
      ring
    · -- a zero in front is the whole number zero, which has no exponent
      intro hhead
      rw [List.head?_append_of_ne_nil _ hne] at hhead
      have hzero := eq_zero_of_head?_digits hhead
      have hk : k = 0 := by
        have := h hzero
        omega
      rw [hzero, hk]
      rfl
  · next hexponent =>
    obtain ⟨k, hk⟩ : ∃ k : ℕ, s.exponent = -k := ⟨(-s.exponent).toNat, by omega⟩
    have htoNat : (-s.exponent).toNat = k := by omega
    rw [htoNat]
    split
    · next hlt =>
      convert writes_point ((digits s.coefficient).take ((digits s.coefficient).length - k))
        ((digits s.coefficient).drop ((digits s.coefficient).length - k))
        (fun c hc => hdigits c (List.mem_of_mem_take hc)) ?_ ?_
        (fun c hc => hdigits c (List.mem_of_mem_drop hc)) ?_ using 1
      · simp
      · have hback : (digits s.coefficient).length - ((digits s.coefficient).length - k) = k := by omega
        rw [List.take_append_drop, digitsValue_digits, List.length_drop, hback, ← hk, Scientific.value]
      · rw [ne_eq, List.take_eq_nil_iff]
        rintro (hnone | hnil)
        · omega
        · exact hne hnil
      · intro hhead
        rw [List.head?_take, if_neg (by omega)] at hhead
        rw [eq_zero_of_head?_digits hhead] at hlt
        simp [length_digits_zero] at hlt
        omega
      · rw [ne_eq, List.drop_eq_nil_iff]
        omega
    · next hge =>
      have hzeros : ∀ c ∈ List.replicate (k - (digits s.coefficient).length) '0' ++ digits s.coefficient,
          isDigit c = true := List.forall_mem_append.mpr ⟨fun _ => isDigit_of_mem_zeros, hdigits⟩
      convert writes_point ['0'] _ (List.forall_mem_singleton.mpr (by decide)) (by decide) (fun _ => rfl)
        hzeros (by simp [hne]) using 1
      · simp
      · have hlength : (List.replicate (k - (digits s.coefficient).length) '0' ++
            digits s.coefficient).length = k := by
          rw [List.length_append, List.length_replicate]
          omega
        rw [hlength, ← hk, ← List.append_assoc, List.singleton_append, ← List.replicate_succ,
          digitsValue_zeros_append, digitsValue_digits, Scientific.value]

/-- The digits behind the first one follow the point, if there are any. -/
theorem writes_exponentText (s : Scientific) : Writes negative (exponentText s "+").toList s.value := by
  obtain ⟨d, fs, hds⟩ := List.exists_cons_of_ne_nil (digits_ne_nil s.coefficient)
  have hdigits : ∀ c ∈ d :: fs, isDigit c = true := fun c hc => by
    rw [← hds] at hc
    exact isDigit_of_mem_digits hc
  obtain ⟨hd, hfs⟩ := List.forall_mem_cons.mp hdigits
  have hvalue : digitsValue (d :: fs) = s.coefficient := by rw [← hds, digitsValue_digits]
  have hexponent : s.exponent + ((d :: fs).length - 1 : ℕ) = s.exponent + fs.length := rfl
  rw [exponentText, hds]
  simp only [hexponent]
  generalize he : s.exponent + (fs.length : ℤ) = e
  refine ⟨⟨negative, [d], fs, e⟩, ?_, rfl, ?_⟩
  · have hsplit : (String.ofList ((d :: fs).take 1) ++
        (if ((d :: fs).drop 1).isEmpty then "" else "." ++ String.ofList ((d :: fs).drop 1)) ++ "e" ++
        (if e < 0 then "-" else "+") ++ Decimal.ofNat e.natAbs).toList =
        [d] ++ ((if fs.isEmpty then [] else '.' :: fs) ++
          'e' :: ((if e < 0 then "-" else "+").toList ++ digits e.natAbs)) := by
      rcases fs with _ | ⟨c, fs⟩ <;> simp [Decimal.ofNat]
    have hbreak : ∀ c ∈ ('e' :: ((if e < 0 then "-" else "+").toList ++ digits e.natAbs)).head?,
        isDigit c = false := by
      simp
      decide
    have hfraction : fraction? ('e' :: ((if e < 0 then "-" else "+").toList ++ digits e.natAbs)) =
        some ([], 'e' :: ((if e < 0 then "-" else "+").toList ++ digits e.natAbs), false) := rfl
    rw [hsplit]
    split
    · next hempty =>
      rw [List.nil_append, unsigned?_whole (List.forall_mem_singleton.mpr hd) (by simp) (fun _ => rfl) hbreak,
        hfraction, Option.bind_some]
      dsimp only
      rw [exponent?_signed, List.isEmpty_iff.mp hempty]
      rfl
    · next hmore =>
      rw [List.cons_append (a := '.'), unsigned?_whole (List.forall_mem_singleton.mpr hd) (by simp)
        (fun _ => rfl) (by simp; decide), fraction?_point hfs (by simpa using hmore) hbreak, Option.bind_some]
      dsimp only
      rw [exponent?_signed]
      rfl
  · rw [value, List.singleton_append, hvalue, Scientific.value, ← he, add_sub_cancel_right]

/-! ### The text of a double -/

/-- The text of a finite double is a numeral that stands for the double. -/
theorem exists_numeral (h : Double.of f = .finite b) :
    ∃ n, numeral? (Layout.json.text f).toList = some (n, false, []) ∧ n.value = f := by
  have hwrites : Writes b.negative (if b.shortest.coefficient == 0 || Layout.json.positional
      (b.shortest.exponent + ((digits b.shortest.coefficient).length - 1 : ℕ)) then
        positionalText b.shortest true else exponentText b.shortest "+").toList b.shortest.value := by
    split
    · exact writes_positionalText (parts_of h).exponent_shortest
    · exact writes_exponentText b.shortest
  obtain ⟨n, hn, hnegative, hvalue⟩ := hwrites
  refine ⟨n, ?_, ?_⟩
  · have htext : Layout.json.text f = (if b.negative then "-" else "") ++
        (if b.shortest.coefficient == 0 || Layout.json.positional
          (b.shortest.exponent + ((digits b.shortest.coefficient).length - 1 : ℕ)) then
            positionalText b.shortest true else exponentText b.shortest "+") := by
      rw [Layout.text, h]
      rfl
    rw [htext, String.toList_append]
    cases hsign : b.negative with
    | true =>
      rw [hsign] at hn
      exact hn
    | false =>
      rw [hsign] at hn
      obtain ⟨d, front, hd, hdigit, -⟩ := unsigned?_append hn
      rw [hd] at hn ⊢
      exact (numeral?_of_digit hdigit _).trans hn
  · rw [Numeral.value, hnegative]
    refine nearest_eq h ?_
    have hrounds := (parts_of h).shortest
    rwa [← hvalue, value] at hrounds

theorem numberReads_of_isFinite (h : f.isFinite = true) : NumberReads (.float f) := by
  obtain ⟨b, hb⟩ := exists_finite h
  obtain ⟨n, hn, hvalue⟩ := exists_numeral hb
  refine ⟨?_, n, false, hn, ?_⟩
  · refine (text_json f).resolve_left fun hnull => ?_
    rw [hnull] at hn
    cases hn
  · have hinf : n.value.isInf = false := by
      rw [hvalue]
      change f.toModel.unpack.isInf = false
      rw [(parts_of hb).unpack, ofParts]
      split <;> rfl
    rw [numberOf, Bool.false_and, if_neg Bool.false_ne_true, if_neg (by rw [hinf]; exact Bool.false_ne_true),
      hvalue]

/-- A finite double reads back from its own text. -/
theorem readsBack_of_isFinite (h : f.isFinite = true) : ReadsBack f :=
  parse?_pretty (j := ofFloat f) (numberReads_of_isFinite h)

end SuiteBench.Json
