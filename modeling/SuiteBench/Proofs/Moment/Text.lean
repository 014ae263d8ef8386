import SuiteBench.Proofs.Decimal.Digits
import SuiteBench.Proofs.Moment.Calendar

/-!
# Proofs.Moment.Text — a written moment reads back

Each part of a written moment is read back with what follows it left over; from that every moment that
the calendar covers is read back, a leap second included.
-/

namespace SuiteBench.Moment

open Decimal

/-- Whether the calendar covers the moment; only the last second of a minute can be a leap second. -/
def WellFormed (m : Moment) : Prop :=
  CalendarDay.covers (CalendarDay.ofDays (m.seconds / 86400)).year = true ∧
    (m.nanos < 1000000000 ∨ m.nanos < 2000000000 ∧ m.seconds % 60 = 59)

instance (m : Moment) : Decidable m.WellFormed := inferInstanceAs (Decidable (_ ∧ _))

theorem not_blank_of_isDigit {c : Char} (h : isDigit c = true) : Text.isBlank c = false := by
  obtain ⟨h0, h9⟩ := isDigit_iff.mp h
  have h0' : 48 ≤ c.toNat := h0
  have h9' : c.toNat ≤ 57 := h9
  simp [Text.isBlank]
  omega

theorem trimFront_of_isDigit {ds rest : List Char} (hd : ∀ c ∈ ds, isDigit c = true) (h0 : ds ≠ []) :
    Text.trimFront (ds ++ rest) = ds ++ rest := by
  cases ds with
  | nil => exact absurd rfl h0
  | cons c ds => exact Text.trimFront_cons_of_not_blank (not_blank_of_isDigit (hd c (by simp)))

theorem number?_append {most : Nat} {ds rest : List Char} (hd : ∀ c ∈ ds, isDigit c = true)
    (h0 : ds ≠ []) (hm : ds.length ≤ most) (hr : ∀ c ∈ rest.head?, isDigit c = false) :
    number? most (ds ++ rest) = some (digitsValue ds, rest) := by
  have ht : ((ds ++ rest).takeWhile isDigit).take most = ds := by
    rw [takeWhile_isDigit_append hd hr, List.take_of_length_le hm]
  simp only [number?, ht, List.drop_left]
  simp [h0, digitsValue]

theorem field?_padded {lo hi n : Nat} {rest : List Char} (hlo : lo ≤ n) (hhi : n ≤ hi)
    (hn : n < 100) (hr : ∀ c ∈ rest.head?, isDigit c = false) :
    field? lo hi ((padded 2 n).toList ++ rest) = some (n, rest) := by
  rw [field?, trimFront_of_isDigit (fun _ => isDigit_of_mem_padded) (padded_ne_nil _ _),
    number?_append (fun _ => isDigit_of_mem_padded) (padded_ne_nil _ _)
      (length_padded (by decide) (by omega)).le hr]
  simp [hlo, hhi]

theorem separator?_cons {c : Char} {cs : List Char} (h : Text.isBlank c = false) :
    separator? c (c :: cs) = some cs := by
  simp [separator?, Text.trimFront_cons_of_not_blank h]

/-! ### The year -/

theorem year?_of_isDigit {c : Char} {cs : List Char} (h : isDigit c = true) :
    year? (c :: cs) = (number? 4 (c :: cs)).map fun (n, r) => ((n : Int), r) := by
  have hm : c ≠ '-' := by rintro rfl; revert h; decide
  have hp : c ≠ '+' := by rintro rfl; revert h; decide
  rw [year?, Text.trimFront_cons_of_not_blank (not_blank_of_isDigit h)]
  split
  · next heq => exact absurd (List.cons.inj heq).1 hm
  · next heq => exact absurd (List.cons.inj heq).1 hp
  · rfl

theorem year?_yearText (y : Int) {rest : List Char} (hr : ∀ c ∈ rest.head?, isDigit c = false) :
    year? ((CalendarDay.yearText y).toList ++ rest) = some (y, rest) := by
  have hd : ∀ {n}, ∀ c ∈ (padded 4 n).toList, isDigit c = true := fun {_} _ => isDigit_of_mem_padded
  have hs : ∀ n : Nat, number? ((padded 4 n).toList ++ rest).length ((padded 4 n).toList ++ rest) =
      some (n, rest) := fun n => by
    rw [number?_append hd (padded_ne_nil _ _) (by simp) hr, digitsValue_padded]
  unfold CalendarDay.yearText
  split
  · next h =>
    simp only [Bool.and_eq_true, decide_eq_true_eq] at h
    have hn := number?_append hd (padded_ne_nil 4 y.toNat)
      (length_padded (by decide) (by omega : y.toNat < 10 ^ 4)).le hr
    obtain ⟨c, cs, hc⟩ := List.exists_cons_of_ne_nil (padded_ne_nil 4 y.toNat)
    have hc' : isDigit c = true := hd c (by rw [hc]; simp)
    rw [digitsValue_padded, hc, List.cons_append] at hn
    rw [hc, List.cons_append, year?_of_isDigit hc', hn]
    exact congrArg (fun z => some (z, rest)) (Int.toNat_of_nonneg h.1)
  · rw [String.toList_append, List.append_assoc]
    split
    · next hy =>
      have ht : year? ("-".toList ++ ((padded 4 y.natAbs).toList ++ rest)) =
          (number? ((padded 4 y.natAbs).toList ++ rest).length
            ((padded 4 y.natAbs).toList ++ rest)).map fun (n, r) => (-(n : Int), r) := rfl
      rw [ht, hs]
      exact congrArg (fun z => some (z, rest)) (by omega : -(y.natAbs : Int) = y)
    · next hy =>
      have ht : year? ("+".toList ++ ((padded 4 y.natAbs).toList ++ rest)) =
          (number? ((padded 4 y.natAbs).toList ++ rest).length
            ((padded 4 y.natAbs).toList ++ rest)).map fun (n, r) => ((n : Int), r) := rfl
      rw [ht, hs]
      exact congrArg (fun z => some (z, rest)) (by omega : (y.natAbs : Int) = y)

/-! ### The fraction of a second -/

theorem fraction?_padded {w n : Nat} {rest : List Char} (hw : 0 < w) (hw9 : w ≤ 9) (hn : n < 10 ^ w)
    (hr : ∀ c ∈ rest.head?, isDigit c = false) :
    fraction? (("." ++ padded w n).toList ++ rest) = some (n * 10 ^ (9 - w), rest) := by
  have hd : ∀ c ∈ (padded w n).toList, isDigit c = true := fun _ => isDigit_of_mem_padded
  have hl := length_padded hw hn
  have ht : ("." ++ padded w n).toList ++ rest = '.' :: ((padded w n).toList ++ rest) := by simp
  simp only [ht, fraction?, takeWhile_isDigit_append hd hr,
    number?_append hd (padded_ne_nil w n) (hl.trans_le hw9) hr, digitsValue_padded, hl,
    List.drop_left' hl, Nat.min_eq_right hw9]
  rfl

/-- As few digits as are exact lose nothing. -/
theorem fraction?_fractionText {n : Nat} (h : n < 1000000000) {rest : List Char}
    (hr : ∀ c ∈ rest.head?, isDigit c = false) (hd : rest.head? ≠ some '.') :
    fraction? ((fractionText n).toList ++ rest) = some (n, rest) := by
  unfold fractionText
  split
  · next h0 =>
    obtain rfl : n = 0 := by simpa using h0
    change fraction? rest = some (0, rest)
    unfold fraction?
    split
    · exact absurd rfl hd
    · rfl
  · split
    · next h6 =>
      have h6 : n % 1000000 = 0 := by simpa using h6
      rw [fraction?_padded (by decide) (by decide) (by omega) hr,
        show n / 1000000 * 10 ^ (9 - 3) = n by omega]
    · split
      · next h3 =>
        have h3 : n % 1000 = 0 := by simpa using h3
        rw [fraction?_padded (by decide) (by decide) (by omega) hr,
          show n / 1000 * 10 ^ (9 - 6) = n by omega]
      · rw [fraction?_padded (by decide) (by decide) (by omega) hr, Nat.sub_self, Nat.pow_zero,
          Nat.mul_one]

theorem head?_fractionText (n : Nat) {c : Char} {cs : List Char} (hc : isDigit c = false) :
    ∀ d ∈ ((fractionText n).toList ++ c :: cs).head?, isDigit d = false := by
  have hdot : ∀ (x : String) (d : Char), d ∈ (("." ++ x).toList ++ c :: cs).head? →
      isDigit d = false := by
    intro x d hd
    simp only [String.toList_append, List.append_assoc, Option.mem_def] at hd
    cases hd
    decide
  intro d
  unfold fractionText
  split
  · intro hd
    obtain rfl : c = d := by simpa using hd
    exact hc
  · split
    · exact hdot _ d
    · split
      · exact hdot _ d
      · exact hdot _ d

/-! ### A moment -/

/-- The second of its minute that a moment is written with; a leap second is the sixty-first. -/
def writtenSecond (m : Moment) : Nat :=
  (m.seconds % 86400).toNat % 60 + (if 1000000000 ≤ m.nanos then 1 else 0)

/-- The nanoseconds that a moment is written with. -/
def writtenNanos (m : Moment) : Nat :=
  if 1000000000 ≤ m.nanos then m.nanos - 1000000000 else m.nanos

theorem text_toList (m : Moment) :
    let d := CalendarDay.ofDays (m.seconds / 86400)
    let s := (m.seconds % 86400).toNat
    m.text.toList = (CalendarDay.yearText d.year).toList ++
      '-' :: ((padded 2 d.month).toList ++ '-' :: ((padded 2 d.day).toList ++
      'T' :: ((padded 2 (s / 3600)).toList ++ ':' :: ((padded 2 (s / 60 % 60)).toList ++
      ':' :: ((padded 2 m.writtenSecond).toList ++ ((fractionText m.writtenNanos).toList ++
        ['Z'])))))) := by
  simp [text, split, writtenSecond, writtenNanos]

theorem written_of_wellFormed {m : Moment} (h : m.WellFormed) :
    m.writtenNanos < 1000000000 ∧ m.writtenSecond ≤ 60 ∧
      (m.writtenSecond = 60 ↔ 1000000000 ≤ m.nanos) ∧
      m.nanos = m.writtenNanos + (if m.writtenSecond = 60 then 1000000000 else 0) ∧
      (m.seconds % 86400).toNat % 60 = if m.writtenSecond = 60 then 59 else m.writtenSecond := by
  obtain ⟨-, hn⟩ := h
  unfold writtenNanos writtenSecond
  by_cases hl : 1000000000 ≤ m.nanos
  · have hs : (m.seconds % 86400).toNat % 60 = 59 := by omega
    simp only [hl, if_true, hs]
    exact ⟨by omega, le_refl _, trivial, by omega, trivial⟩
  · have hs : (m.seconds % 86400).toNat % 60 + 0 ≠ 60 := by omega
    simp only [hl, if_false, hs]
    exact ⟨by omega, by omega, trivial, rfl, rfl⟩

/-- A moment that the calendar covers is read back from its text. -/
theorem read?_text {m : Moment} (h : m.WellFormed) : read? m.text = some m := by
  obtain ⟨hn, hs, -, hnanos, hsec⟩ := written_of_wellFormed h
  obtain ⟨hm1, hm2, hd1, hd2⟩ := CalendarDay.ofDays_bounds (m.seconds / 86400)
  have hday := CalendarDay.make?_ofDays h.1
  have hcov := h.1
  have hcut : ∀ {c : Char} {cs : List Char}, isDigit c = false →
      ∀ d ∈ (c :: cs).head?, isDigit d = false := by simp
  rw [read?, text_toList]
  refine Option.bind_eq_some_iff.mpr ⟨_, year?_yearText _ (hcut (by decide)), ?_⟩
  refine Option.bind_eq_some_iff.mpr ⟨_, separator?_cons (by decide), ?_⟩
  refine Option.bind_eq_some_iff.mpr ⟨_, field?_padded hm1 hm2 (by omega) (hcut (by decide)), ?_⟩
  refine Option.bind_eq_some_iff.mpr ⟨_, separator?_cons (by decide), ?_⟩
  refine Option.bind_eq_some_iff.mpr ⟨_, field?_padded hd1 hd2 (by omega) (hcut (by decide)), ?_⟩
  refine Option.bind_eq_some_iff.mpr ⟨_, rfl, ?_⟩
  refine Option.bind_eq_some_iff.mpr ⟨_, field?_padded (by omega) (by omega) (by omega)
    (hcut (by decide)), ?_⟩
  refine Option.bind_eq_some_iff.mpr ⟨_, separator?_cons (by decide), ?_⟩
  refine Option.bind_eq_some_iff.mpr ⟨_, field?_padded (by omega) (by omega) (by omega)
    (hcut (by decide)), ?_⟩
  refine Option.bind_eq_some_iff.mpr ⟨_, separator?_cons (by decide), ?_⟩
  refine Option.bind_eq_some_iff.mpr ⟨_, field?_padded (by omega) hs (by omega)
    (head?_fractionText _ (by decide)), ?_⟩
  refine Option.bind_eq_some_iff.mpr ⟨_, fraction?_fractionText hn (hcut (by decide))
    (by decide), ?_⟩
  refine Option.bind_eq_some_iff.mpr ⟨(0, []), rfl, ?_⟩
  refine Option.bind_eq_some_iff.mpr ⟨_, hday, ?_⟩
  have hsum : (CalendarDay.ofDays (m.seconds / 86400)).toDays * 86400 +
      (((m.seconds % 86400).toNat / 3600 : Nat) * 3600 +
        ((m.seconds % 86400).toNat / 60 % 60 : Nat) * 60 +
        ((if (m.writtenSecond == 60) = true then 59 else m.writtenSecond : Nat) : Int)) - 0 =
      m.seconds := by
    rw [CalendarDay.toDays_ofDays]
    simp only [beq_iff_eq, ← hsec]
    omega
  simp only [hsum, h.1, if_true, Option.some.injEq]
  simp only [beq_iff_eq, ← hnanos]

end SuiteBench.Moment
