import SuiteBench.Proofs.Benchmark.Outcomes
import SuiteBench.Proofs.Store.Within

/-!
# Proofs.Benchmark.Isolation — one attempt and the rest of the results tree

An attempt whose tool keeps to the directory of its run changes nothing outside this directory, however
it ends.  What an earlier attempt left there has no part in it: an attempt that comes to an end goes as
if the directory had been empty, and what then stands in it was put there by the tool or the harness.
-/

namespace SuiteBench

/-! ### One run of the tool -/

theorem ToolAction.Within.differs {dir : Location} {a : ToolAction} {t : Tree} (h : a.Within dir) :
    a.Keeps (t.DiffersWithin dir) := fun u hu =>
  hu.trans fun _ hm => .inl (h.find?_eq u fun hdm => absurd hdm hm)

namespace Executor

variable {x : Executor} {c : RunContext} {e : Endpoint} {run budget : Nat} {dir m : Location}
  {t u : Tree} {w : World}

/-- The locations at which a run of the tool puts something by itself. -/
def places (x : Executor) (dir : Location) : List Location :=
  [dir, dir ++ [Layout.generatedTests], dir ++ [Layout.toolReport], x.logAt dir]

/-- Whether all that stands in the directory of a run stands at a place of the harness or was put there
by what was started for the run. -/
def Explains (x : Executor) (c : RunContext) (dir : Location) (t : Tree) : Prop :=
  ∀ m f, dir <+: m → t.find? m = some f → m ∈ x.places dir ∨ x.Does c (.put m f)

theorem Explains.of_vacant (h : ∀ m, dir <+: m → t.find? m = none) : x.Explains c dir t := by
  intro m f hm hf
  rw [h m hm] at hf
  cases hf

theorem Explains.apply {s : Step} (h : x.Explains c dir t) (hs : s.apply t = .ok u)
    (hp : ∀ m, dir <+: m → s.Touches m → m ∈ x.places dir) : x.Explains c dir u := by
  intro m f hm hf
  by_cases ht : s.Touches m
  · exact .inl (hp m hm ht)
  · rw [Step.find?_apply hs ht] at hf
    exact h m f hm hf

theorem Explains.keeps {a : ToolAction} (ha : x.Does c a) : a.Keeps (x.Explains c dir) := by
  intro t h m f hm hf
  cases a with
  | put l e =>
    by_cases hml : m = l
    · subst hml
      by_cases hm0 : m = []
      · subst hm0
        exact .inl (by simp [places, List.prefix_nil.mp hm])
      · rw [ToolAction.apply, Tree.find?_set t e hm0] at hf
        cases hf
        exact .inr ha
    · rw [ToolAction.apply, Tree.find?_set_of_ne t e hml] at hf
      exact h m f hm hf
  | clear l =>
    by_cases hlm : l <+: m
    · by_cases hm0 : m = []
      · subst hm0
        exact .inl (by simp [places, List.prefix_nil.mp hm])
      · rw [ToolAction.apply, Tree.find?_cut_below t hlm hm0] at hf
        cases hf
    · rw [ToolAction.apply, Tree.find?_cut_elsewhere t hlm] at hf
      exact h m f hm hf
  | output s bytes | wait ms | raise s => exact h m f hm hf

theorem touches_prepareSteps {s : Step} (hs : s ∈ x.prepareSteps dir) (hm : dir <+: m)
    (ht : s.Touches m) : m ∈ x.places dir := by
  have heq : ∀ {l : Location}, m <+: l → l.length ≤ m.length → m = l := fun hml hlen =>
    hml.eq_of_length (Nat.le_antisymm hml.length_le hlen)
  have hmake : ∀ name, m <+: dir ++ [name] → m = dir ∨ m = dir ++ [name] := fun name hml => by
    rcases List.prefix_concat_iff.mp hml with hml | hml
    · exact .inr hml
    · exact .inl (heq hml hm.length_le)
  simp only [prepareSteps, List.mem_cons, List.not_mem_nil, or_false] at hs
  rcases hs with rfl | rfl | rfl | rfl
  · simp [places, heq ht hm.length_le]
  · rcases hmake _ ht with rfl | rfl <;> simp [places]
  · rcases hmake _ ht with rfl | rfl <;> simp [places]
  · have hml : m = x.logAt dir := ht
    simp [places, hml]

/-- After a run in an empty directory all that stands there is explained. -/
theorem execute_explains (h : ∀ m, dir <+: m → w.tree.find? m = none) :
    x.Explains ⟨e, run, budget, dir.path⟩ dir (x.execute e run budget dir w).2.tree := by
  have hprep : x.Explains ⟨e, run, budget, dir.path⟩ dir (Step.run w.tree (x.prepareSteps dir)).1 :=
    Step.run_induction (P := x.Explains _ dir) _
      (fun s hs _ _ ha hv => hv.apply ha fun m => touches_prepareSteps hs) (.of_vacant h)
  obtain ⟨t, f, ht, he⟩ | ⟨t, w', lines, ht, he, hQ, -⟩ := execute_cases x e run budget dir w
  · rw [ht] at hprep
    rwa [he]
  · rw [ht] at hprep
    have hseen := hQ _ (fun a ha => Explains.keeps ha) hprep
    rw [he]
    dsimp only
    rcases writeLog_cases w'.tree (x.logAt dir) lines with hw | hw
    · rwa [hw]
    · refine hseen.apply hw fun m _ hm => ?_
      obtain rfl : m = x.logAt dir := hm
      simp [places]

/-- The directories that a run is prepared with. -/
def directories (dir : Location) : List Step :=
  [.makeDirs dir, .makeDirs (dir ++ [Layout.generatedTests]), .makeDirs (dir ++ [Layout.toolReport])]

theorem prepareSteps_eq (x : Executor) (dir : Location) :
    x.prepareSteps dir = directories dir ++ [.write (x.logAt dir) .empty] := rfl

theorem within_directories (dir : Location) : ∀ s ∈ directories dir, s.Within dir := by
  simp [directories, Step.Within, List.prefix_append]

/-- What steps in the directory of a run keep is kept while the run is prepared. -/
theorem prepareSteps_keeps {Q : Tree → Prop} (hd : dir.Proper)
    (hn : '/' ∉ x.settings.logFileName.toList) (hnone : t.find? dir = none)
    (hstep : ∀ (s : Step) v w, s.Within dir → s.apply v = .ok w → Q v → Q w) (hQ : Q t) :
    Q (Step.run t (x.prepareSteps dir)).1 := by
  have hrun : ∀ steps : List Step, (∀ s ∈ steps, s.Within dir) → Q (Step.run t steps).1 :=
    fun steps hs => Step.run_induction steps (fun s hm v w ha hv => hstep s v w (hs s hm) ha hv) hQ
  cases hr : Step.run t (x.prepareSteps dir) with
  | mk u f =>
    cases f with
    | none =>
      obtain ⟨hlog, -⟩ := way_of_prepared hd hn hnone hr
      rw [← hr, prepareSteps_eq, hlog]
      refine hrun _ fun s hs => ?_
      rcases List.mem_append.mp hs with hs | hs
      · exact within_directories dir s hs
      · obtain rfl := List.mem_singleton.mp hs
        exact List.prefix_append dir _
    | some f =>
      -- when the log cannot be written, nothing but directories was made
      have hmade := hrun _ (within_directories dir)
      rw [prepareSteps_eq] at hr
      rcases Step.run_append_cases hr with ⟨v, hv, hu⟩ | ⟨f', hu⟩
      · obtain rfl := Step.eq_of_run_singleton hu
        rwa [hv] at hmade
      · rwa [hu] at hmade

/-- What steps and actions in the directory of a run keep is kept by a run in a directory that was not
there. -/
theorem execute_keeps {Q : Tree → Prop}
    (h : ∀ a, x.Does ⟨e, run, budget, dir.path⟩ a → a.Within dir) (hd : dir.Proper)
    (hn : '/' ∉ x.settings.logFileName.toList) (hnone : w.tree.find? dir = none)
    (hstep : ∀ (s : Step) v w, s.Within dir → s.apply v = .ok w → Q v → Q w)
    (haction : ∀ a : ToolAction, a.Within dir → a.Keeps Q) (hQ : Q w.tree) :
    Q (x.execute e run budget dir w).2.tree := by
  have hprep : Q (Step.run w.tree (x.prepareSteps dir)).1 :=
    prepareSteps_keeps hd hn hnone hstep hQ
  obtain ⟨t, f, ht, he⟩ | ⟨t, w', lines, ht, he, hseen, -⟩ := execute_cases x e run budget dir w
  · rw [ht] at hprep
    rwa [he]
  · obtain ⟨hlog, -⟩ := way_of_prepared hd hn hnone ht
    rw [ht] at hprep
    have hafter : Q w'.tree := hseen Q (fun a ha => haction a (h a ha)) hprep
    rw [he]
    dsimp only
    rcases writeLog_cases w'.tree (x.logAt dir) lines with hw | hw
    · rwa [hw]
    · refine hstep (.write (x.logAt dir) _) _ _ ?_ hw hafter
      exact hlog ▸ List.prefix_append dir _

end Executor

/-! ### One attempt -/

theorem Finish.within {d : ResultsDir} {k : RunKey} {t : Tree} {y : Except ExecutionError Execution}
    {steps : List Step} {f : Option FileError} {a : Except HarnessError (Option RunRecord)}
    (hfin : Finish d k t y steps f a) : ∀ s ∈ steps, s.Within (d.runLocation k) := by
  cases hfin with
  | discarded | notDiscarded => exact Store.within_discardSteps
  | saved hr | notSaved hr => exact hr ▸ Store.within_saveSteps
  | stuck => simp

/-- The claims before a claim is made and after it is dropped again: the run can be claimed. -/
theorem Claims.claim_of_dropped {c c' : Claims} {name : String} {k : RunKey}
    (h : c.claim name k = .ok c') (name' : String) :
    ∃ c'', (c'.drop name).claim name' k = .ok c'' := by
  have hfree : k ∉ (c'.drop name).claimed := by
    rw [claim] at h
    split at h
    · cases h
    · cases h
      simp [drop, key?]
  exact ⟨_, by rw [claim, if_neg (by simpa using hfree)]⟩

/-- The session with a directory removed. -/
def Session.cut (s : Session) (l : Location) : Session :=
  { s with world := { s.world with tree := s.world.tree.cut l } }

namespace Harness

variable {h : Harness} {e : Endpoint} {n budget : Nat} {s : Session}

/-- The locations at which an attempt puts something by itself. -/
def places (h : Harness) (k : RunKey) : List Location :=
  h.executor.places (h.results.runLocation k) ++
    [Store.metricsAt h.results k, Store.statusAt h.results k]

/-- What steps and actions in the directory of a run keep is kept by an attempt at it, if nothing is
left of the directory once it is cleared. -/
theorem attempt_keeps {Q : Tree → Prop} (hset : h.executor.settings.check = .ok ())
    (hd : h.results.location.Proper)
    (htool : ∀ a, h.executor.Does ⟨e, n, budget, (h.results.runLocation ⟨e.id, n⟩).path⟩ a →
      a.Within (h.results.runLocation ⟨e.id, n⟩))
    (hclear : ∀ u, Step.run s.world.tree (Store.discardSteps h.results s.world.tree ⟨e.id, n⟩) =
      (u, none) → u.find? (h.results.runLocation ⟨e.id, n⟩) = none)
    (hstep : ∀ (s : Step) v w, s.Within (h.results.runLocation ⟨e.id, n⟩) →
      s.apply v = .ok w → Q v → Q w)
    (haction : ∀ a : ToolAction, a.Within (h.results.runLocation ⟨e.id, n⟩) → a.Keeps Q)
    (hQ : Q s.world.tree) : Q (h.attempt e n budget s).2.world.tree := by
  have hrun : ∀ {steps : List Step} {t u : Tree} {f : Option FileError}, Step.run t steps = (u, f) →
      (∀ st ∈ steps, st.Within (h.results.runLocation ⟨e.id, n⟩)) → Q t → Q u := by
    intro steps t u f hr hs hQt
    have hend := Step.run_induction steps (fun st hm v w ha hv => hstep st v w (hs st hm) ha hv) hQt
    rwa [hr] at hend
  obtain ⟨c, -, hc⟩ | ⟨w, f, hw, -, he⟩ | ⟨w, y, w', steps, f, hw, hx, hfinish, -, hfin⟩ :=
    h.attempt_cases e n budget s
  · rw [hc]
    exact hQ
  · rw [he]
    exact hrun (World.perform_eq.mp hw).1 Store.within_discardSteps hQ
  · have hcleared := (World.perform_eq.mp hw).1
    have hexec : Q (h.executor.execute e n budget (h.results.runLocation ⟨e.id, n⟩) w).2.tree :=
      Executor.execute_keeps htool (Layout.proper_runLocation hd _)
        (ExecutionSettings.bare_of_check hset) (hclear _ hcleared) hstep haction
        (hrun hcleared Store.within_discardSteps hQ)
    rw [hx] at hexec
    exact hrun hfinish hfin.within hexec

/-- An attempt changes nothing outside the directory of its run, but for directories on the way. -/
theorem attempt_differs (ht : s.world.tree.Sound) (hset : h.executor.settings.check = .ok ())
    (hd : h.results.location.Proper)
    (htool : ∀ a, h.executor.Does ⟨e, n, budget, (h.results.runLocation ⟨e.id, n⟩).path⟩ a →
      a.Within (h.results.runLocation ⟨e.id, n⟩)) :
    s.world.tree.DiffersWithin (h.results.runLocation ⟨e.id, n⟩)
      (h.attempt e n budget s).2.world.tree :=
  attempt_keeps hset hd htool
    (fun _ hu => (Store.discard_eq_cut ht hu).2.1 _ (List.prefix_refl _))
    (fun _ _ _ hs ha hv => hv.trans (hs.differs ha)) (fun _ ha => ha.differs) (.refl _ _)

/-- An attempt that does not fail goes as if nothing had stood in the directory of its run. -/
theorem attempt_cut (ht : s.world.tree.Sound) {a : Option RunRecord}
    (ha : (h.attempt e n budget s).1 = .ok a) :
    h.attempt e n budget s = h.attempt e n budget (s.cut (h.results.runLocation ⟨e.id, n⟩)) := by
  obtain ⟨c, -, hc⟩ | ⟨w, f, -, he, -⟩ | ⟨w, y, w', steps, f, hw, -⟩ := h.attempt_cases e n budget s
  · rw [hc] at ha
    cases ha
  · rw [he] at ha
    cases ha
  · obtain ⟨hclear, hworld⟩ := World.perform_eq.mp hw
    obtain ⟨hcut, -, hnone⟩ := Store.discard_eq_cut ht hclear
    have hs : (s.cut (h.results.runLocation ⟨e.id, n⟩)).world = w := by
      rw [Session.cut, hworld, hcut]
    have hagain : h.discard ⟨e.id, n⟩ w = (w, none) := by
      rw [discard, hnone]
      rfl
    have hsame : h.attemptClaimed e n budget s.world = h.attemptClaimed e n budget
        (s.cut (h.results.runLocation ⟨e.id, n⟩)).world := by
      simp only [attemptClaimed, hw, hs, hagain]
    cases hc : s.claims.claim (⟨e.id, n⟩ : RunKey).text ⟨e.id, n⟩ with
    | error c => simp [attempt, hc] at ha
    | ok c =>
      have hc' : (s.cut (h.results.runLocation ⟨e.id, n⟩)).claims.claim
          (⟨e.id, n⟩ : RunKey).text ⟨e.id, n⟩ = .ok c := hc
      simp only [attempt, hc, hc', hsame]

/-- What stands in the directory of a run after its record was saved. -/
theorem attempt_explains (ht : s.world.tree.Sound) {r : RunRecord}
    (ha : (h.attempt e n budget s).1 = .ok (some r)) {m : Location} {f : Entry}
    (hm : h.results.runLocation ⟨e.id, n⟩ <+: m)
    (hf : (h.attempt e n budget s).2.world.tree.find? m = some f) :
    m ∈ h.places ⟨e.id, n⟩ ∨
      h.executor.Does ⟨e, n, budget, (h.results.runLocation ⟨e.id, n⟩).path⟩ (.put m f) := by
  obtain ⟨c, -, hc⟩ | ⟨w, g, -, he, -⟩ | ⟨w, y, w', steps, g, hw, hx, hrun, -, hfin⟩ :=
    h.attempt_cases e n budget s
  · rw [hc] at ha
    cases ha
  · rw [he] at ha
    cases ha
  · obtain ⟨-, hvacant, -⟩ := Store.discard_eq_cut ht (World.perform_eq.mp hw).1
    have hexec : h.executor.Explains
        ⟨e, n, budget, (h.results.runLocation ⟨e.id, n⟩).path⟩ (h.results.runLocation ⟨e.id, n⟩)
        (h.executor.execute e n budget (h.results.runLocation ⟨e.id, n⟩) w).2.tree :=
      Executor.execute_explains hvacant
    rw [hx] at hexec
    rw [ha] at hfin
    cases hfin with
    | saved hr =>
      rw [← hr] at hm
      rcases Store.find?_saveSteps hrun hm hf with hsaved | hf
      · rw [hr] at hsaved
        simp only [List.mem_cons, List.not_mem_nil, or_false] at hsaved
        rcases hsaved with rfl | rfl | rfl <;> simp [places, Executor.places]
      · rw [hr] at hm
        exact (hexec m f hm hf).imp (List.mem_append_left _) id

/-- An attempt that an interrupt ended leaves nothing in the directory of its run. -/
theorem attempt_vacant (ht : s.world.tree.Sound) (hset : h.executor.settings.check = .ok ())
    (hd : h.results.location.Proper)
    (htool : ∀ a, h.executor.Does ⟨e, n, budget, (h.results.runLocation ⟨e.id, n⟩).path⟩ a →
      a.Within (h.results.runLocation ⟨e.id, n⟩)) (ha : (h.attempt e n budget s).1 = .ok none) :
    Store.Vacant h.results (h.attempt e n budget s).2.world.tree ⟨e.id, n⟩ := by
  obtain ⟨c, -, hc⟩ | ⟨w, g, -, he, -⟩ | ⟨w, y, w', steps, g, hw, hx, hrun, -, hfin⟩ :=
    h.attempt_cases e n budget s
  · rw [hc] at ha
    cases ha
  · rw [he] at ha
    cases ha
  · obtain ⟨-, hvacant, -⟩ := Store.discard_eq_cut ht (World.perform_eq.mp hw).1
    rw [ha] at hfin
    cases hfin with
    | discarded =>
      obtain ⟨-, hway⟩ := Executor.execute_way htool (Layout.proper_runLocation hd _)
        (ExecutionSettings.bare_of_check hset) (hvacant _ (List.prefix_refl _))
        fun g hg => by rw [hx] at hg; cases hg
      rw [hx] at hway
      exact Store.vacant_discard hway hrun

/-- A run can be claimed after an attempt at it. -/
theorem attempt_releases {a : Option RunRecord} (ha : (h.attempt e n budget s).1 = .ok a)
    (name : String) : ∃ c, (h.attempt e n budget s).2.claims.claim name ⟨e.id, n⟩ = .ok c := by
  cases hc : s.claims.claim (⟨e.id, n⟩ : RunKey).text ⟨e.id, n⟩ with
  | error c => simp [attempt, hc] at ha
  | ok c =>
    obtain ⟨c', hc'⟩ := Claims.claim_of_dropped hc name
    exact ⟨c', by simp only [attempt, hc, hc']⟩

end Harness

/-- An attempt at a run whose tool keeps to the directory of the run changes nothing outside this
directory but for making the way to it; if it comes to an end, what stood in the directory before has
no part in it.  With a record, all that stands there was put there by the tool or the harness, and the
record is loaded with its message cut; after an interrupt nothing stands there.  In both cases the run
can be claimed again. -/
theorem attempt_isolated {h : Harness} {e : Endpoint} {n budget : Nat} {s : Session}
    (ht : s.world.tree.Sound) (hset : h.executor.settings.check = .ok ())
    (hres : ∃ cwd p, Location.Proper cwd ∧ h.results = .ofPath cwd p)
    (htool : ∀ a, h.executor.Does ⟨e, n, budget, (h.results.runLocation ⟨e.id, n⟩).path⟩ a →
      a.Within (h.results.runLocation ⟨e.id, n⟩)) :
    (∀ m, ¬ h.results.runLocation ⟨e.id, n⟩ <+: m →
      (h.attempt e n budget s).2.world.tree.find? m = s.world.tree.find? m ∨
        m <+: h.results.runLocation ⟨e.id, n⟩ ∧ s.world.tree.find? m = none ∧
          (h.attempt e n budget s).2.world.tree.find? m = some .directory) ∧
      (∀ r, (h.attempt e n budget s).1 = .ok (some r) →
        (∀ m f, h.results.runLocation ⟨e.id, n⟩ <+: m →
          (h.attempt e n budget s).2.world.tree.find? m = some f →
            m ∈ h.places ⟨e.id, n⟩ ∨
              h.executor.Does ⟨e, n, budget, (h.results.runLocation ⟨e.id, n⟩).path⟩ (.put m f)) ∧
          (r.Loadable →
            Store.load h.results (h.attempt e n budget s).2.world.tree ⟨e.id, n⟩ =
              .ok (some { r with message := Text.truncate r.message 500 }))) ∧
      ((h.attempt e n budget s).1 = .ok none → ∀ m, h.results.runLocation ⟨e.id, n⟩ <+: m →
        (h.attempt e n budget s).2.world.tree.find? m = none) ∧
      ∀ a, (h.attempt e n budget s).1 = .ok a →
        h.attempt e n budget s =
            h.attempt e n budget (s.cut (h.results.runLocation ⟨e.id, n⟩)) ∧
          ∀ name, ∃ c, (h.attempt e n budget s).2.claims.claim name ⟨e.id, n⟩ = .ok c := by
  have hd : h.results.location.Proper := by
    obtain ⟨cwd, p, hcwd, hr⟩ := hres
    rw [hr]
    exact Path.proper_locate hcwd p
  refine ⟨Harness.attempt_differs ht hset hd htool, fun r ha => ?_,
    Harness.attempt_vacant ht hset hd htool, fun a ha => ?_⟩
  · refine ⟨fun m f hm hf => Harness.attempt_explains ht ha hm hf, fun hl => ?_⟩
    have hholds := Harness.holds_attempt ha
    have hload := Store.load_of_documents hholds.1 hholds.2 hl.1 hl.2
    rwa [h.key_attempt ha] at hload
  · exact ⟨Harness.attempt_cut ht ha, Harness.attempt_releases ha⟩

/-- A file that an earlier attempt left. -/
def staleFile : Location := sampleHarness.results.runLocation ⟨1, 1⟩ ++ ["old.txt"]

/-- A world in which only this file stands. -/
def staleWorld : World := .start (Step.run .empty
  [.makeDirs (sampleHarness.results.runLocation ⟨1, 1⟩), .write staleFile .empty]).1 ⟨1772359200, 0⟩

theorem sound_staleWorld : staleWorld.tree.Sound :=
  Step.sound_run Tree.sound_empty (by simp [Step.Regular])

theorem attempt_stale : (sampleCatalog.endpoints.any fun e =>
    e.id == 1 && recordsWith (sampleHarness.attempt e 1 60 (.start staleWorld)).1 fun r =>
      decide r.Loadable) = true := by
  decide +kernel

theorem attempt_isolated_stale :
    staleWorld.tree.Sound ∧ sampleHarness.executor.settings.check = .ok () ∧
      staleWorld.tree.isFile staleFile = true ∧
      ∃ e r, e.id = 1 ∧ (sampleHarness.attempt e 1 60 (.start staleWorld)).1 = .ok (some r) ∧
        (sampleHarness.attempt e 1 60 (.start staleWorld)).2.world.tree.find? staleFile = none ∧
        Store.load sampleHarness.results
          (sampleHarness.attempt e 1 60 (.start staleWorld)).2.world.tree ⟨1, 1⟩ =
            .ok (some { r with message := Text.truncate r.message 500 }) := by
  obtain ⟨e, -, he⟩ := List.any_eq_true.mp attempt_stale
  rw [Bool.and_eq_true, beq_iff_eq] at he
  obtain ⟨hid, he⟩ := he
  obtain ⟨r, hr, hl⟩ := of_recordsWith he
  have hconf := confined_sampleHarness sampleOptions
  obtain ⟨-, hrecorded, -⟩ := @attempt_isolated sampleHarness e 1 60 (.start staleWorld)
    sound_staleWorld hconf.settings hconf.results (hconf.tool e 1)
  obtain ⟨hexplained, hload⟩ := hrecorded r hr
  rw [hid] at hexplained hload
  refine ⟨sound_staleWorld, hconf.settings, by decide, e, r, hid, hr, ?_,
    hload (by simpa using hl)⟩
  by_contra hf
  obtain ⟨f, hf⟩ := Option.ne_none_iff_exists'.mp hf
  rcases hexplained staleFile f (List.prefix_append _ _) hf with hp | ⟨command, t, p, -, hp, ha⟩
  · have hnot : staleFile ∉ sampleHarness.places ⟨1, 1⟩ := by decide
    exact hnot hp
  · cases hp
    rcases ha with ha | ha | ⟨wait, ms, ha⟩ <;> cases ha

end SuiteBench
