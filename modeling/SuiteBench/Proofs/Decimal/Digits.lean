import Mathlib.Tactic.IntervalCases
import SuiteBench.Decimal.Reader

/-!
# Proofs.Decimal.Digits — decimal digits read back

The digits of a number give the number back, with or without zeros in front; a run of digits ends
where something else stands.
-/

namespace SuiteBench.Decimal

theorem digit?_eq_some_iff {c : Char} {d : Nat} :
    digit? c = some d ↔ '0' ≤ c ∧ c ≤ '9' ∧ d = c.toNat - 48 := by
  unfold digit?
  split
  · next h =>
    simp only [Bool.and_eq_true, decide_eq_true_eq] at h
    simp [h, eq_comm]
  · next h =>
    simp only [Bool.and_eq_true, decide_eq_true_eq, not_and] at h
    simp only [reduceCtorEq, false_iff, not_and]
    exact fun h0 h9 => absurd h9 (h h0)

theorem isDigit_iff {c : Char} : isDigit c = true ↔ '0' ≤ c ∧ c ≤ '9' := by
  rw [isDigit, Option.isSome_iff_exists]
  simp [digit?_eq_some_iff]

theorem isDigit_of_mem_digits {n : Nat} {c : Char} (h : c ∈ digits n) : isDigit c = true := by
  have hd := Nat.isDigit_of_mem_toDigits (by decide) (by decide) h
  simp only [Char.isDigit, Bool.and_eq_true, decide_eq_true_eq] at hd
  exact isDigit_iff.mpr ⟨hd.1, hd.2⟩

theorem digits_ne_nil (n : Nat) : digits n ≠ [] := Nat.toDigits_ne_nil

theorem digitsValue_eq (ds : List Char) : digitsValue ds = Nat.ofDigitChars 10 ds 0 := by
  rw [Nat.ofDigitChars_eq_foldl, digitsValue]
  congr 1
  funext n c
  rw [Nat.mul_comm]
  rfl

@[simp] theorem digitsValue_digits (n : Nat) : digitsValue (digits n) = n := by
  rw [digitsValue_eq, digits, Nat.ofDigitChars_ten_toDigits]

theorem digitsValue_append (a b : List Char) :
    digitsValue (a ++ b) = 10 ^ b.length * digitsValue a + digitsValue b := by
  rw [digitsValue_eq, digitsValue_eq, digitsValue_eq, Nat.ofDigitChars_append,
    Nat.ofDigitChars_eq_ofDigitChars_zero]

@[simp] theorem digitsValue_zeros_append (k : Nat) (ds : List Char) :
    digitsValue (List.replicate k '0' ++ ds) = digitsValue ds := by
  rw [digitsValue_append, digitsValue_eq (List.replicate k '0'),
    Nat.ofDigitChars_replicate_zero, Nat.mul_zero, Nat.mul_zero, Nat.zero_add]

theorem digitsValue_append_zeros (ds : List Char) (k : Nat) :
    digitsValue (ds ++ List.replicate k '0') = 10 ^ k * digitsValue ds := by
  rw [digitsValue_eq, digitsValue_eq, Nat.ofDigitChars_append, Nat.ofDigitChars_replicate_zero]

theorem digits_of_lt {n : Nat} (h : n < 10) : digits n = [n.digitChar] :=
  Nat.toDigits_of_lt_base h

theorem digits_eq_append {n : Nat} (h : 10 ≤ n) :
    digits n = digits (n / 10) ++ [(n % 10).digitChar] :=
  Nat.toDigits_of_base_le (by decide) h

/-- Only zero is written with a zero in front. -/
theorem head?_digits {n : Nat} (h : 0 < n) : (digits n).head? ≠ some '0' := by
  induction n using Nat.strongRecOn with
  | ind n ih =>
    rcases Nat.lt_or_ge n 10 with hn | hn
    · rw [digits_of_lt hn]
      interval_cases n <;> decide
    · rw [digits_eq_append hn, List.head?_append, List.head?_eq_some_head (digits_ne_nil _),
        Option.some_or, ← List.head?_eq_some_head (digits_ne_nil _)]
      exact ih (n / 10) (by omega) (by omega)

theorem lt_pow_length_digits (n : Nat) : n < 10 ^ (digits n).length :=
  (Nat.length_toDigits_le_iff (by decide) (List.length_pos_iff.mpr (digits_ne_nil n))).mp le_rfl

theorem pow_length_digits_le {n : Nat} (h : 0 < n) : 10 ^ ((digits n).length - 1) ≤ n := by
  have hlength := List.length_pos_iff.mpr (digits_ne_nil n)
  rcases Nat.eq_zero_or_pos ((digits n).length - 1) with hone | hmore
  · rw [hone]
    exact h
  · by_contra hlt
    have := (Nat.length_toDigits_le_iff (by decide) hmore).mpr (not_le.mp hlt)
    rw [← digits] at this
    omega

/-! ### Numbers with zeros in front -/

theorem padded_toList (w n : Nat) :
    (padded w n).toList = List.replicate (w - (digits n).length) '0' ++ digits n := by
  simp [padded]

@[simp] theorem digitsValue_padded (w n : Nat) : digitsValue (padded w n).toList = n := by
  rw [padded_toList, digitsValue_zeros_append, digitsValue_digits]

theorem padded_injective {w m n : Nat} (h : padded w m = padded w n) : m = n := by
  rw [← digitsValue_padded w m, h, digitsValue_padded]

theorem isDigit_of_mem_padded {w n : Nat} {c : Char} (h : c ∈ (padded w n).toList) :
    isDigit c = true := by
  rw [padded_toList, List.mem_append] at h
  rcases h with h | h
  · obtain rfl := List.eq_of_mem_replicate h
    decide
  · exact isDigit_of_mem_digits h

theorem padded_ne_nil (w n : Nat) : (padded w n).toList ≠ [] := by
  rw [padded_toList]
  simp [digits_ne_nil]

theorem length_padded {w n : Nat} (hw : 0 < w) (h : n < 10 ^ w) : (padded w n).toList.length = w := by
  have hd : (digits n).length ≤ w := (Nat.length_toDigits_le_iff (by decide) hw).mpr h
  rw [padded_toList, List.length_append, List.length_replicate]
  omega

/-! ### Runs of digits -/

theorem takeWhile_isDigit_append {ds rest : List Char} (hd : ∀ c ∈ ds, isDigit c = true)
    (hr : ∀ c ∈ rest.head?, isDigit c = false) : (ds ++ rest).takeWhile isDigit = ds := by
  rw [List.takeWhile_append_of_pos hd]
  cases rest with
  | nil => simp
  | cons c rest => simp [hr c (by simp)]

theorem spanDigits_append {ds rest : List Char} (hd : ∀ c ∈ ds, isDigit c = true)
    (hr : ∀ c ∈ rest.head?, isDigit c = false) : spanDigits (ds ++ rest) = (ds, rest) := by
  have hw := takeWhile_isDigit_append hd hr
  have hs := List.takeWhile_append_dropWhile (p := isDigit) (l := ds ++ rest)
  rw [hw] at hs
  rw [spanDigits, hw, List.append_cancel_left hs]

/-- Every text is a run of digits and what follows it. -/
theorem spanDigits_spec (cs : List Char) :
    ∃ ds rest, cs = ds ++ rest ∧ spanDigits cs = (ds, rest) ∧ (∀ c ∈ ds, isDigit c = true) ∧
      ∀ c ∈ rest.head?, isDigit c = false := by
  refine ⟨cs.takeWhile isDigit, cs.dropWhile isDigit, List.takeWhile_append_dropWhile.symm, rfl,
    fun c hc => List.all_eq_true.mp (List.all_takeWhile (l := cs)) c hc, fun c hc => ?_⟩
  have hh := List.head?_dropWhile_not isDigit cs
  rw [Option.mem_def.mp hc] at hh
  simpa using hh

/-! ### Whole numbers -/

theorem appendDigits_eq_ok {bound n : Nat} :
    ∀ {cs : List Char} {acc : Nat}, appendDigits bound acc cs = .ok n →
      (∀ c ∈ cs, isDigit c = true) ∧ n = Nat.ofDigitChars 10 cs acc
  | [], acc, h => by
    cases h
    exact ⟨by simp, rfl⟩
  | c :: cs, acc, h => by
    rw [appendDigits] at h
    split at h
    · cases h
    · next d hd =>
      split at h
      · obtain ⟨hcs, hn⟩ := appendDigits_eq_ok h
        refine ⟨List.forall_mem_cons.mpr ⟨by rw [isDigit, hd]; rfl, hcs⟩, ?_⟩
        rw [hn, Nat.ofDigitChars_cons, (digit?_eq_some_iff.mp hd).2.2, Nat.mul_comm]
        rfl
      · cases h

/-- What is read as a whole number has nothing but digits after its sign. -/
theorem readNat_eq_ok {bound n : Nat} {cs : List Char} (h : readNat bound cs = .ok n) :
    (∀ c ∈ cs, isDigit c = true ∨ c = '+') ∧ ((∀ c ∈ cs, isDigit c = true) → n = digitsValue cs) := by
  unfold readNat at h
  split at h
  · cases h
  · cases h
  · next cs _ =>
    obtain ⟨hcs, -⟩ := appendDigits_eq_ok h
    refine ⟨List.forall_mem_cons.mpr ⟨.inr rfl, fun c hc => .inl (hcs c hc)⟩, fun hall => ?_⟩
    exact absurd (hall '+' List.mem_cons_self) (by decide)
  · obtain ⟨hcs, hn⟩ := appendDigits_eq_ok h
    exact ⟨fun c hc => .inl (hcs c hc), fun _ => hn.trans (digitsValue_eq cs).symm⟩

theorem appendDigits_le {bound n : Nat} : ∀ {cs : List Char} {acc : Nat}, acc ≤ bound →
    appendDigits bound acc cs = .ok n → n ≤ bound
  | [], _, hacc, h => by
    cases h
    exact hacc
  | c :: cs, acc, _, h => by
    rw [appendDigits] at h
    split at h
    · cases h
    · split at h
      · next hle => exact appendDigits_le hle h
      · cases h

theorem readNat_le {bound n : Nat} {cs : List Char} (h : readNat bound cs = .ok n) : n ≤ bound := by
  unfold readNat at h
  split at h
  · cases h
  · cases h
  · exact appendDigits_le (Nat.zero_le _) h
  · exact appendDigits_le (Nat.zero_le _) h

theorem le_ofDigitChars (cs : List Char) (acc : Nat) : acc ≤ Nat.ofDigitChars 10 cs acc := by
  rw [Nat.ofDigitChars_eq_ofDigitChars_zero]
  have hpos : 0 < 10 ^ cs.length := Nat.pow_pos (by decide)
  exact (Nat.le_mul_of_pos_left acc hpos).trans (Nat.le_add_right _ _)

/-- Digits are appended as long as the number that they make is within the bound. -/
theorem appendDigits_of_le {bound : Nat} : ∀ {cs : List Char} {acc : Nat},
    (∀ c ∈ cs, isDigit c = true) → Nat.ofDigitChars 10 cs acc ≤ bound →
      appendDigits bound acc cs = .ok (Nat.ofDigitChars 10 cs acc)
  | [], _, _, _ => rfl
  | c :: cs, acc, hd, h => by
    obtain ⟨hc, hcs⟩ := List.forall_mem_cons.mp hd
    obtain ⟨x, hx⟩ := Option.isSome_iff_exists.mp hc
    have hvalue : Nat.ofDigitChars 10 (c :: cs) acc = Nat.ofDigitChars 10 cs (acc * 10 + x) := by
      rw [Nat.ofDigitChars_cons, (digit?_eq_some_iff.mp hx).2.2, Nat.mul_comm]
      rfl
    rw [hvalue] at h ⊢
    rw [appendDigits, hx]
    dsimp only
    rw [if_pos ((le_ofDigitChars cs _).trans h), appendDigits_of_le hcs h]

/-- A number within the bound is read as it was written. -/
theorem readNat_padded {bound w n : Nat} (h : n ≤ bound) :
    readNat bound (padded w n).toList = .ok n := by
  have hd : ∀ c ∈ (padded w n).toList, isDigit c = true := fun c hc => isDigit_of_mem_padded hc
  have hvalue : Nat.ofDigitChars 10 (padded w n).toList 0 = n := by
    rw [← digitsValue_eq, digitsValue_padded]
  have happend := appendDigits_of_le hd (hvalue.trans_le h)
  rw [hvalue] at happend
  have hne := padded_ne_nil w n
  revert hd hne happend
  cases (padded w n).toList with
  | nil => exact fun _ _ hne => absurd rfl hne
  | cons c cs =>
    intro hd happend _
    have hplus : c ≠ '+' := by
      rintro rfl
      exact absurd (hd '+' List.mem_cons_self) (by decide)
    rw [readNat, happend]
    all_goals simp [hplus]

end SuiteBench.Decimal
