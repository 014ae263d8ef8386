import Mathlib.Tactic.IntervalCases
import SuiteBench.Moment

/-!
# Proofs.Moment.Calendar — days and their numbers

Four hundred years are a cycle of 146097 days: four centuries, each of 25 spans of four years, the leap
day being the last day of a span and of the cycle.  The day with a number has that number, and it is a
day of the calendar.
-/

namespace SuiteBench.CalendarDay

/-- A day of a cycle: its century, its span of four years, its year there and its day in that year,
which runs from March. -/
structure Place where
  century : Int
  span : Int
  year : Int
  day : Int
  century_range : 0 ≤ century ∧ century ≤ 3
  span_range : 0 ≤ span ∧ span ≤ 24
  year_range : 0 ≤ year ∧ year ≤ 3
  day_nonneg : 0 ≤ day
  /-- Only the last year of a span has a day 365, and in the last span of a century only the fourth
  century has one. -/
  day_range : day ≤ 364 ∨ day = 365 ∧ year = 3 ∧ (span ≤ 23 ∨ century = 3)

namespace Place

/-- The number of a day in its cycle. -/
def number (p : Place) : Int := 36524 * p.century + 1461 * p.span + 365 * p.year + p.day

/-- The year of a day in its cycle. -/
def yearOfCycle (p : Place) : Int := 100 * p.century + 4 * p.span + p.year

theorem exists_of_number {n : Int} (h0 : 0 ≤ n) (h1 : n ≤ 146096) : ∃ p : Place, p.number = n := by
  obtain ⟨c, hc⟩ : ∃ c, c = min 3 (n / 36524) := ⟨_, rfl⟩
  obtain ⟨s, hs⟩ : ∃ s, s = (n - 36524 * c) / 1461 := ⟨_, rfl⟩
  obtain ⟨y, hy⟩ : ∃ y, y = min 3 ((n - 36524 * c - 1461 * s) / 365) := ⟨_, rfl⟩
  refine ⟨⟨c, s, y, n - 36524 * c - 1461 * s - 365 * y, by omega, by omega, by omega, by omega,
    by omega⟩, ?_⟩
  simp only [number]
  omega

/-- The year of a day is found from the number of the day. -/
theorem yearOfCycle_eq (p : Place) :
    (p.number - p.number / 1460 + p.number / 36524 - p.number / 146096) / 365 = p.yearOfCycle := by
  obtain ⟨c, s, y, d, hc, hs, hy, hd, hr⟩ := p
  simp only [number, yearOfCycle]
  have hbc : (36524 * c + 1461 * s + 365 * y + d) / 36524 -
      (36524 * c + 1461 * s + 365 * y + d) / 146096 = c := by
    obtain ⟨r, hr⟩ : ∃ r, r = 1461 * s + 365 * y + d := ⟨_, rfl⟩
    have hle : 0 ≤ r ∧ (r ≤ 36523 ∨ r = 36524 ∧ c = 3) := by omega
    rw [show 36524 * c + 1461 * s + 365 * y + d = 36524 * c + r by omega]
    clear hr
    obtain rfl | rfl | rfl | rfl : c = 0 ∨ c = 1 ∨ c = 2 ∨ c = 3 := by omega
    all_goals omega
  have ha : (36524 * c + 1461 * s + 365 * y + d) / 1460 =
      25 * c + s + (24 * c + s + 365 * y + d) / 1460 := by omega
  have he : 0 ≤ d - (24 * c + s + 365 * y + d) / 1460 ∧
      d - (24 * c + s + 365 * y + d) / 1460 ≤ 364 := by omega
  omega

theorem day_eq (p : Place) :
    p.number - (365 * p.yearOfCycle + p.yearOfCycle / 4 - p.yearOfCycle / 100) = p.day := by
  obtain ⟨c, s, y, d, hc, hs, hy, hd, hr⟩ := p
  simp only [number, yearOfCycle]
  omega

end Place

/-- The month, counted from March, of a day of the year that runs from March. -/
def monthFromMarch (day : Int) : Int := (5 * day + 2) / 153

/-- The number of a month whose count from March is `m`. -/
def monthNumber (m : Int) : Nat := (if m < 10 then m + 3 else m - 9).toNat

/-- The day at a place of a cycle of four hundred years. -/
def atPlace (cycle : Int) (p : Place) : CalendarDay :=
  let m := monthNumber (monthFromMarch p.day)
  ⟨p.yearOfCycle + cycle * 400 + (if m ≤ 2 then 1 else 0), m,
    (p.day - (153 * monthFromMarch p.day + 2) / 5 + 1).toNat⟩

/-- Every day stands at a place of a cycle. -/
theorem ofDays_eq_atPlace (n : Int) :
    ∃ cycle p, n = cycle * 146097 + Place.number p - 719468 ∧ ofDays n = atPlace cycle p := by
  obtain ⟨p, hp⟩ := Place.exists_of_number (n := n + 719468 - (n + 719468) / 146097 * 146097)
    (by omega) (by omega)
  refine ⟨(n + 719468) / 146097, p, by omega, ?_⟩
  simp only [ofDays, ← hp, p.yearOfCycle_eq, p.day_eq]
  rfl

theorem monthFromMarch_range (p : Place) :
    0 ≤ monthFromMarch p.day ∧ monthFromMarch p.day ≤ 11 := by
  have h0 := p.day_nonneg
  have h1 := p.day_range
  simp only [monthFromMarch]
  omega

theorem monthNumber_of_range {m : Int} (h : 0 ≤ m ∧ m ≤ 11) :
    1 ≤ monthNumber m ∧ monthNumber m ≤ 12 ∧ ((monthNumber m : Int) + 9) % 12 = m ∧
      (monthNumber m ≤ 2 ↔ 10 ≤ m) := by
  unfold monthNumber
  split <;> omega

theorem toDays_atPlace (cycle : Int) (p : Place) :
    (atPlace cycle p).toDays = cycle * 146097 + p.number - 719468 := by
  obtain ⟨-, -, hm, -⟩ := monthNumber_of_range (monthFromMarch_range p)
  have hd : 0 ≤ p.day - (153 * monthFromMarch p.day + 2) / 5 + 1 := by
    have h0 := p.day_nonneg
    simp only [monthFromMarch]
    omega
  have hy : (if (atPlace cycle p).month ≤ 2 then (atPlace cycle p).year - 1
      else (atPlace cycle p).year) = p.yearOfCycle + cycle * 400 := by
    simp only [atPlace]
    split <;> omega
  have hc : 0 ≤ p.yearOfCycle ∧ p.yearOfCycle ≤ 399 := by
    have h1 := p.century_range
    have h2 := p.span_range
    have h3 := p.year_range
    simp only [Place.yearOfCycle]
    omega
  have he := p.day_eq
  simp only [toDays, hy]
  simp only [atPlace, hm, Int.toNat_of_nonneg hd]
  rw [show (p.yearOfCycle + cycle * 400) / 400 = cycle by omega,
    show p.yearOfCycle + cycle * 400 - cycle * 400 = p.yearOfCycle by omega]
  omega

/-- The day with a number has that number. -/
theorem toDays_ofDays (n : Int) : (ofDays n).toDays = n := by
  obtain ⟨cycle, p, hn, hp⟩ := ofDays_eq_atPlace n
  rw [hp, toDays_atPlace, hn]

/-- The day 365 is the 29th of February of a leap year. -/
theorem isLeap_of_last_day (cycle : Int) (p : Place) (h : p.day = 365) :
    isLeap (p.yearOfCycle + cycle * 400 + 1) = true := by
  have hr := p.day_range
  have h1 := p.century_range
  have h2 := p.span_range
  simp only [isLeap, Place.yearOfCycle, Bool.and_eq_true, beq_iff_eq, Bool.or_eq_true, bne_iff_ne]
  omega

theorem day_atPlace (cycle : Int) (p : Place) :
    1 ≤ (atPlace cycle p).day ∧
      (atPlace cycle p).day ≤ monthLength (atPlace cycle p).year (atPlace cycle p).month := by
  have h0 := p.day_nonneg
  have h1 := p.day_range
  have hl := isLeap_of_last_day cycle p
  obtain ⟨m, hm⟩ : ∃ m, m = monthFromMarch p.day := ⟨_, rfl⟩
  have hr := monthFromMarch_range p
  rw [← hm] at hr
  simp only [atPlace, ← hm]
  simp only [monthFromMarch] at hm
  refine ⟨by omega, ?_⟩
  obtain ⟨hr0, hr1⟩ := hr
  interval_cases m <;> simp [monthNumber, monthLength]
  all_goals try omega
  split
  · omega
  · next hn =>
    have : p.day ≠ 365 := fun h => hn (hl h)
    omega

/-- The day with a number is a day of the calendar, as long as the calendar covers its year. -/
theorem make?_ofDays {n : Int} (h : covers (ofDays n).year = true) :
    make? (ofDays n).year (ofDays n).month (ofDays n).day = some (ofDays n) := by
  obtain ⟨cycle, p, -, hp⟩ := ofDays_eq_atPlace n
  rw [hp] at h ⊢
  obtain ⟨h1, h2, -, -⟩ := monthNumber_of_range (monthFromMarch_range p)
  obtain ⟨h3, h4⟩ := day_atPlace cycle p
  rw [make?, if_pos]
  simp only [Bool.and_eq_true, decide_eq_true_eq]
  exact ⟨⟨⟨⟨h, h1⟩, h2⟩, h3⟩, h4⟩

theorem ofDays_bounds (n : Int) :
    1 ≤ (ofDays n).month ∧ (ofDays n).month ≤ 12 ∧ 1 ≤ (ofDays n).day ∧ (ofDays n).day ≤ 31 := by
  obtain ⟨cycle, p, -, hp⟩ := ofDays_eq_atPlace n
  rw [hp]
  obtain ⟨h1, h2, -, -⟩ := monthNumber_of_range (monthFromMarch_range p)
  obtain ⟨h3, h4⟩ := day_atPlace cycle p
  refine ⟨h1, h2, h3, h4.trans ?_⟩
  simp only [monthLength]
  split
  · split <;> omega
  · split <;> omega

end SuiteBench.CalendarDay
