import SuiteBench.Proofs.Store.Records

/-!
# Proofs.Store.Sparing — what is done to one run leaves the others alone

The directories of two runs lie apart, so that steps in one of them neither reach into the other nor
take the way to it.  A run then has its record after such steps exactly if it had it before.
-/

namespace SuiteBench

/-- Whether neither of two locations lies at or below the other. -/
def Location.Apart (a b : Location) : Prop := ¬ a <+: b ∧ ¬ b <+: a

namespace Location.Apart

variable {a b m : Location}

theorem symm (h : a.Apart b) : b.Apart a := ⟨h.2, h.1⟩

theorem not_both (h : a.Apart b) (ha : a <+: m) (hb : b <+: m) : False :=
  (List.prefix_or_prefix_of_prefix ha hb).elim h.1 h.2

theorem append (h : a.Apart b) (c : Location) : Location.Apart (a ++ c) b :=
  ⟨fun hp => h.1 ((List.prefix_append a c).trans hp),
    fun hp => h.not_both (List.prefix_append a c) hp⟩

/-- What begins with a location apart lies apart. -/
theorem of_prefix (h : a.Apart b) (hp : a <+: m) : m.Apart b := by
  obtain ⟨c, rfl⟩ := hp
  exact h.append c

/-- Different locations of one depth lie apart. -/
theorem of_length (hl : a.length = b.length) (hne : a ≠ b) : a.Apart b :=
  ⟨fun h => hne (h.eq_of_length hl), fun h => hne (h.eq_of_length hl.symm).symm⟩

end Location.Apart

theorem ResultsDir.runLocation_apart (d : ResultsDir) {k k' : RunKey} (h : k ≠ k') :
    (d.runLocation k).Apart (d.runLocation k') :=
  .of_length (by simp [runLocation, Layout.length_runLocation]) fun he =>
    h (Layout.runLocation_injective he)

namespace Step

variable {t u : Tree} {s : Step} {steps : List Step} {l b : Location} {c : ByteArray}

/-- Whether a step takes nothing on the way to a location and touches nothing at or below it. -/
def Avoids (s : Step) (b : Location) : Prop :=
  (∀ m, m <+: b → ¬ s.Replaces m) ∧ ∀ m, b <+: m → ¬ s.Touches m

theorem avoids_makeDirs (h : ¬ b <+: l) : (makeDirs l).Avoids b :=
  ⟨fun _ _ hr => hr, fun _ hm ht => h (hm.trans ht)⟩

theorem avoids_write (h : l.Apart b) : (write l c).Avoids b := by
  refine ⟨fun m hm hr => ?_, fun m hm ht => ?_⟩
  · obtain rfl : m = l := hr
    exact h.1 hm
  · obtain rfl : m = l := ht
    exact h.2 hm

theorem avoids_remove (h : l.Apart b) : (remove l).Avoids b :=
  ⟨fun _ hm hr => h.1 (List.IsPrefix.trans hr hm), fun _ hm ht => h.not_both ht hm⟩

theorem avoids_replace (h : l.Apart b) (hh : (hidden l).Apart b) :
    ∀ s ∈ replace l c, s.Avoids b := by
  intro s hs
  refine ⟨fun m hm hr => ?_, fun m hm ht => ?_⟩
  · rcases replace_touches hs hr.touches with hp | rfl
    · exact hh.1 (hp.trans hm)
    · exact h.1 hm
  · rcases replace_touches hs ht with hp | rfl
    · exact hh.not_both hp hm
    · exact h.2 hm

end Step

namespace Tree

variable {t u v : Tree} {b : Location}

/-- Whether all that stands at or below a location in one tree, and the way to it, still stands in
another. -/
structure Spares (b : Location) (t u : Tree) : Prop where
  way : ∀ m e, m <+: b → t.find? m = some e → u.find? m = some e
  below : ∀ m, b <+: m → u.find? m = t.find? m

namespace Spares

theorem refl (b : Location) (t : Tree) : Spares b t t := ⟨fun _ _ _ h => h, fun _ _ => rfl⟩

theorem trans (h : Spares b t u) (h' : Spares b u v) : Spares b t v :=
  ⟨fun m e hm he => h'.way m e hm (h.way m e hm he),
    fun m hm => (h'.below m hm).trans (h.below m hm)⟩

/-- What could be read directly below the location is still read. -/
theorem read (h : Spares b t u) {name : String} {c : ByteArray} (hr : t.read (b ++ [name]) = .ok c) :
    u.read (b ++ [name]) = .ok c := by
  obtain ⟨ho, x, hf⟩ := read_eq_ok_iff.mp hr
  refine read_eq_ok_iff.mpr ⟨obstacle?_eq_none_iff.mpr fun p hp => ?_, x, ?_⟩
  · rw [List.dropLast_concat] at hp
    refine h.way p _ hp (obstacle?_eq_none_iff.mp ho p ?_)
    rwa [List.dropLast_concat]
  · rw [h.below _ (List.prefix_append _ _), hf]

end Spares

theorem spares_apply {s : Step} (hs : s.apply t = .ok u) (h : s.Avoids b) : Spares b t u :=
  ⟨fun m _ hm he => Step.find?_apply_some hs (h.1 m hm) he,
    fun m hm => Step.find?_apply hs (h.2 m hm)⟩

theorem spares_run {steps : List Step} (h : ∀ s ∈ steps, s.Avoids b) :
    Spares b t (Step.run t steps).1 :=
  Step.run_induction (P := Spares b t) steps
    (fun s hs _ _ ha hv => hv.trans (spares_apply ha (h s hs))) (.refl b t)

theorem spares_of_run {steps : List Step} {e : Option FileError} (hr : Step.run t steps = (u, e))
    (h : ∀ s ∈ steps, s.Avoids b) : Spares b t u := by
  have hs := spares_run (t := t) h
  rwa [hr] at hs

end Tree

namespace Store

variable {d : ResultsDir} {t u : Tree} {k k' : RunKey} {r : RunRecord}

/-- Whether nothing stands at the directory of a run or below it. -/
def Vacant (d : ResultsDir) (t : Tree) (k : RunKey) : Prop :=
  ∀ m, d.runLocation k <+: m → t.find? m = none

theorem Vacant.of_spares (h : Vacant d t k) (hs : Tree.Spares (d.runLocation k) t u) :
    Vacant d u k :=
  fun m hm => (hs.below m hm).trans (h m hm)

theorem Holds.of_spares (h : Holds d t r) (hs : Tree.Spares (d.runLocation r.key) t u) :
    Holds d u r :=
  ⟨hs.read h.1, hs.read h.2⟩

/-! ### Saving and discarding -/

theorem avoids_saveSteps {b : Location} (ha : (d.runLocation r.key).Apart b) :
    ∀ s ∈ saveSteps d r, s.Avoids b := by
  have hrep : ∀ name c, ∀ s ∈ Step.replace (d.runLocation r.key ++ [name]) c, s.Avoids b :=
    fun name c => by
      refine Step.avoids_replace (ha.append _) ?_
      rw [Step.hidden_concat]
      exact ha.append _
  intro s hs
  rw [saveSteps_eq] at hs
  rcases List.mem_cons.mp hs with rfl | hs
  · exact Step.avoids_makeDirs ha.2
  · exact (List.mem_append.mp hs).elim (hrep _ _ s) (hrep _ _ s)

theorem avoids_discardSteps {b : Location} (ha : (d.runLocation k).Apart b) :
    ∀ s ∈ discardSteps d t k, s.Avoids b := by
  intro s hs
  rw [discardSteps] at hs
  split at hs
  · simp at hs
  · obtain rfl := List.mem_singleton.mp hs
    exact Step.avoids_remove ha

/-- Discarding a run whose directory can be reached leaves nothing of it. -/
theorem vacant_discard (hd : ∀ p, p <+: d.runLocation k → t.find? p = some .directory)
    (h : Step.run t (discardSteps d t k) = (u, none)) : Vacant d u k := by
  have hg : t.get (d.runLocation k) = .ok .directory :=
    Tree.get_eq_ok_iff.mpr ⟨Tree.obstacle?_eq_none_iff.mpr fun p hp =>
      hd p (hp.trans (List.dropLast_prefix _)), hd _ (List.prefix_refl _)⟩
  rw [discardSteps, hg] at h
  obtain ⟨v, hv, hu⟩ := Step.run_cons_eq_none.mp h
  cases hu
  obtain ⟨-, rfl⟩ := Step.apply_remove hv
  intro m hm
  refine Tree.find?_cut_below t hm ?_
  rintro rfl
  simp [ResultsDir.runLocation, Layout.runLocation] at hm

/-! ### Having a record -/

theorem hasRecord_of_holds (h : Holds d t r) (hr : r.Fits) (hf : ∀ x ∈ r.figures, Json.ReadsBack x) :
    hasRecord d t r.key = true := by
  rw [hasRecord, load_of_documents h.1 h.2 hr hf]

theorem hasRecord_of_vacant (h : Vacant d t k) : hasRecord d t k = false := by
  refine Bool.eq_false_iff.mpr fun hr => ?_
  rw [hasRecord] at hr
  split at hr
  · next r hl =>
    obtain ⟨m, -, hm, -⟩ := load_eq_some_iff.mp hl
    rw [metricsOf?] at hm
    cases hc : t.read (metricsAt d k) with
    | error e => simp [hc, Except.toOption] at hm
    | ok c =>
      obtain ⟨-, x, hf⟩ := Tree.read_eq_ok_iff.mp hc
      rw [h (metricsAt d k) (List.prefix_append _ _)] at hf
      cases hf
  · cases hr

end Store

end SuiteBench
