import SuiteBench.Proofs.Store.Records

/-!
# Proofs.Store.Ownership — whose record a run directory holds

Loading compares the two documents of a directory with each other and not with the run the directory
is named for.  Documents that were copied there are therefore loaded as that run's record; but nothing
the store itself does makes such a directory.
-/

namespace SuiteBench

namespace Store

variable {d : ResultsDir} {t u : Tree} {k : RunKey} {r : RunRecord}

/-- Whether the documents in the directory of a run make up the record of another run. -/
def Foreign (d : ResultsDir) (t : Tree) (k : RunKey) : Prop :=
  ∃ m s, metricsOf? d t k = some m ∧ statusOf? d t k = some s ∧ m.key = s.key ∧ m.key ≠ k

theorem ofHalves_eq_ok_iff {m : ResourceMetrics} {s : ExitStatus} :
    (∃ r, RunRecord.ofHalves m s = .ok r ∧ r.key = k) ↔ m.key = s.key ∧ m.key = k := by
  rw [RunRecord.ofHalves]
  split
  · next h => simp [h]
  · next h => simp [h]

/-- A record that is loaded for a run belongs to another run just where its documents do. -/
theorem foreign_iff : Foreign d t k ↔ ∃ r, load d t k = .ok (some r) ∧ r.key ≠ k := by
  simp only [load_eq_some_iff]
  constructor
  · rintro ⟨m, s, hm, hs, hms, hk⟩
    obtain ⟨r, hr, hrk⟩ := ofHalves_eq_ok_iff.mpr ⟨hms, rfl⟩
    exact ⟨r, ⟨m, s, hm, hs, hr⟩, hrk ▸ hk⟩
  · rintro ⟨r, ⟨m, s, hm, hs, hr⟩, hk⟩
    obtain ⟨hms, hrk⟩ := ofHalves_eq_ok_iff.mp ⟨r, hr, rfl⟩
    exact ⟨m, s, hm, hs, hms, hrk ▸ hk⟩

theorem foreign_congr (h : load d u k = load d t k) : Foreign d u k ↔ Foreign d t k := by
  rw [foreign_iff, foreign_iff, h]

theorem not_foreign_of_metrics {m : ResourceMetrics} (hm : metricsOf? d t k = some m)
    (hk : m.key = k) : ¬ Foreign d t k := by
  rintro ⟨m', s, hm', -, -, hne⟩
  rw [hm] at hm'
  cases hm'
  exact hne hk

theorem hasRecord_of_foreign (h : Foreign d t k) : hasRecord d t k = true := by
  obtain ⟨r, hr, -⟩ := foreign_iff.mp h
  simp [hasRecord, hr]

/-! ### Saving -/

/-- What a save leaves behind: nothing new, or the directory of the run with either the new first
document or both documents as they were. -/
theorem save_cases (d : ResultsDir) (t : Tree) (k : RunKey) (r : RunRecord) :
    (Claims.save k d t r).1 = t ∨ r.key = k ∧ ∃ v, t.makeDirs (d.runLocation k) = .ok v ∧
      (∀ m, ¬ d.runLocation k <+: m → (Claims.save k d t r).1.find? m = v.find? m) ∧
      ((Claims.save k d t r).1.read (metricsAt d k) = .ok r.metrics.toJson.fileText ∨
        ∀ name ∈ [Layout.resourceMetrics, Layout.exitStatus], ∀ p, p <+: d.runLocation k ++ [name] →
          (Claims.save k d t r).1.find? p = v.find? p) := by
  rw [Claims.save]
  split
  case isFalse => exact .inl rfl
  case isTrue hk =>
    subst hk
    rw [saveSteps_eq]
    cases hv : t.makeDirs (d.runLocation r.key) with
    | error e => exact .inl (by simp [Step.run, Step.apply, hv])
    | ok v =>
      refine .inr ⟨rfl, v, rfl, ?_⟩
      rw [Step.run_cons_ok (s := .makeDirs (d.runLocation r.key)) hv]
      cases hu : Step.run v (Step.replace (metricsAt d r.key) r.metrics.toJson.fileText ++
        Step.replace (statusAt d r.key) r.exitStatus.toJson.fileText) with
      | mk u e =>
        rcases Step.run_append_cases hu with ⟨w, hw, hu⟩ | ⟨e', hw⟩
        · refine ⟨fun m hm => ?_, .inl ?_⟩
          · exact (Step.find?_replace_outside hu hm).trans (Step.find?_replace_outside hw hm)
          · have hsib := fun {p} => Step.find?_replace_sibling (p := p) hu
              (show Layout.exitStatus ≠ Layout.resourceMetrics by decide)
              (Step.hiddenName_ne (by decide))
            exact (Tree.read_congr fun p hp => hsib hp).trans
              (Step.run_replace hw (metricsAt_ne_nil d r.key)).1
        · refine ⟨fun m hm => Step.find?_replace_outside hw hm, .inr fun name hn p hp => ?_⟩
          refine Step.find?_replace_cut hw fun hh => ?_
          rw [metricsAt, Step.hidden_concat] at hh
          have heq := (hh.trans hp).eq_of_length (by simp)
          simp only [List.append_cancel_left_eq, List.cons.injEq, and_true] at heq
          simp only [List.mem_cons, List.not_mem_nil, or_false] at hn
          rcases hn with rfl | rfl
          · exact Step.hiddenName_ne (by decide) heq
          · exact Step.hiddenName_ne (by decide) heq

/-! ### What the store does -/

/-- What a holder of a claim does with the run. -/
inductive Access where
  | save (key : RunKey) (record : RunRecord)
  | discard (key : RunKey)

namespace Access

/-- The tree after the access, also when a file operation cuts it short. -/
def perform (d : ResultsDir) (t : Tree) : Access → Tree
  | save k r => (Claims.save k d t r).1
  | discard k => (Step.run t (discardSteps d t k)).1

/-- Whether a record that is saved can be written down. -/
def Writable : Access → Prop
  | save _ r => r.Fits ∧ ∀ x ∈ r.figures, Json.ReadsBack x
  | discard _ => True

end Access

theorem metricsOf?_of_read (hm : t.read (metricsAt d k) = .ok r.metrics.toJson.fileText)
    (hr : r.Fits) (hf : ∀ x ∈ r.figures, Json.ReadsBack x) : metricsOf? d t k = some r.metrics := by
  rw [metricsOf?, hm]
  simp only [Except.toOption, Option.bind_some]
  rw [Json.ofBytes?_fileText (ResourceMetrics.plain_toJson hr hf), Option.bind_some,
    ResourceMetrics.ofJson?_toJson hr]

/-- The documents of a run are read after its directory is made as before. -/
theorem load_of_unchanged {v : Tree} (ht : t.Sound) (hv : t.makeDirs (d.runLocation k) = .ok v)
    (hu : ∀ name ∈ [Layout.resourceMetrics, Layout.exitStatus], ∀ p,
      p <+: d.runLocation k ++ [name] → u.find? p = v.find? p) : load d u k = load d t k := by
  have hread : ∀ name ∈ [Layout.resourceMetrics, Layout.exitStatus],
      u.read (d.runLocation k ++ [name]) = t.read (d.runLocation k ++ [name]) := by
    intro name hn
    rw [Tree.read_congr (hu name hn)]
    refine ht.read_makeDirs hv fun hl => ?_
    have := hl.length_le
    simp at this
  exact load_congr (hread _ (by simp)) (hread _ (by simp))

theorem not_foreign_save (ht : t.Sound) (hr : r.Fits) (hf : ∀ x ∈ r.figures, Json.ReadsBack x)
    {k' : RunKey} (h : ¬ Foreign d t k') : ¬ Foreign d (Claims.save k d t r).1 k' := by
  rcases save_cases d t k r with hu | ⟨hk, v, hv, hout, hdoc⟩
  · rwa [hu]
  · by_cases hkk : k' = k
    · subst hkk
      rcases hdoc with hm | hsame
      · exact not_foreign_of_metrics (metricsOf?_of_read hm hr hf) hk
      · rwa [foreign_congr (load_of_unchanged ht hv hsame)]
    · rwa [foreign_congr (load_of_makeDirs ht hv hout hkk)]

/-! ### Discarding -/

theorem discard_cases (d : ResultsDir) (t : Tree) (k : RunKey) :
    (Step.run t (discardSteps d t k)).1 = t ∨
      (Step.run t (discardSteps d t k)).1 = t.cut (d.runLocation k) := by
  rw [discardSteps]
  split
  · exact .inl rfl
  · cases h : (Step.remove (d.runLocation k)).apply t with
    | ok u =>
      rw [Step.run_cons_ok h]
      exact .inr (Step.apply_remove h).2
    | error e => exact .inl (by rw [Step.run, h])

/-- Nothing can be read below a location that was cut. -/
theorem read_cut_ne_ok {l m : Location} {c : ByteArray} (h : l <+: m) (hm : m ≠ []) :
    (t.cut l).read m ≠ .ok c := by
  intro hr
  obtain ⟨-, x, hf⟩ := Tree.read_eq_ok_iff.mp hr
  rw [Tree.find?_cut_below t h hm] at hf
  cases hf

/-- The documents of another run are read as before when a run is cut off. -/
theorem read_cut {k' : RunKey} (hk : k' ≠ k) (name : String) :
    (t.cut (d.runLocation k)).read (d.runLocation k' ++ [name]) =
      t.read (d.runLocation k' ++ [name]) :=
  Tree.read_congr fun _ hp => Tree.find?_cut_elsewhere t fun h =>
    hk (Layout.eq_of_runLocation_prefix (List.prefix_append _ [name]) (h.trans hp))

theorem load_cut {k' : RunKey} (hk : k' ≠ k) :
    load d (t.cut (d.runLocation k)) k' = load d t k' :=
  load_congr (read_cut hk _) (read_cut hk _)

theorem not_foreign_discard {k' : RunKey} (h : ¬ Foreign d t k') :
    ¬ Foreign d (Step.run t (discardSteps d t k)).1 k' := by
  rcases discard_cases d t k with hu | hu
  · rwa [hu]
  · rw [hu]
    by_cases hkk : k' = k
    · subst hkk
      rintro ⟨m, s, hm, -⟩
      rw [metricsOf?] at hm
      cases hr : (t.cut (d.runLocation k')).read (metricsAt d k') with
      | error e => simp [hr, Except.toOption] at hm
      | ok c => exact read_cut_ne_ok (List.prefix_append _ _) (metricsAt_ne_nil d k') hr
    · rwa [foreign_congr (load_cut hkk)]

/-! ### Every history of the store -/

theorem sound_perform (ht : t.Sound) (a : Access) : (a.perform d t).Sound := by
  cases a with
  | save k r =>
    rw [Access.perform, Claims.save]
    split
    · refine Step.sound_run ht fun s hs => ?_
      rw [saveSteps_eq] at hs
      rcases List.mem_cons.mp hs with rfl | hs
      · trivial
      rcases List.mem_append.mp hs with hs | hs
      · exact Step.regular_replace (metricsAt_ne_nil d r.key) s hs
      · exact Step.regular_replace (statusAt_ne_nil d r.key) s hs
    · exact ht
  | discard k =>
    rcases discard_cases d t k with hu | hu
    · rwa [Access.perform, hu]
    · rw [Access.perform, hu]
      exact Tree.sound_cut ht

/-- No access makes a directory hold the record of another run. -/
theorem not_foreign_perform (ht : t.Sound) {a : Access} (ha : a.Writable)
    (h : ¬ Foreign d t k) : ¬ Foreign d (a.perform d t) k := by
  cases a with
  | save k' r => exact not_foreign_save ht ha.1 ha.2 h
  | discard k' => exact not_foreign_discard h

theorem not_foreign_history : ∀ (as : List Access) {t : Tree}, t.Sound →
    (∀ a ∈ as, a.Writable) → ¬ Foreign d t k → ¬ Foreign d (as.foldl (Access.perform d) t) k
  | [], _, _, _, h => h
  | a :: as, _, ht, ha, h =>
    not_foreign_history as (sound_perform ht a) (fun a' h' => ha a' (List.mem_cons_of_mem _ h'))
      (not_foreign_perform ht (ha a List.mem_cons_self) h)

end Store

open Store in
/-- A record that is loaded for a run is that run's own exactly if its directory does not hold the
documents of another run; if it does, the run counts as recorded.  Where the store itself wrote the
tree, whatever was saved, discarded or cut short, every loaded record is the run's own. -/
theorem load_own_iff (d : ResultsDir) (k : RunKey) :
    (∀ t : Tree, ((∀ r, load d t k = .ok (some r) → r.key = k) ↔ ¬ Foreign d t k) ∧
      (Foreign d t k → hasRecord d t k = true)) ∧
    ∀ (t : Tree) (accesses : List Access), t.Sound → (∀ a ∈ accesses, a.Writable) →
      (∀ r, load d t k = .ok (some r) → r.key = k) →
      ∀ r, load d (accesses.foldl (Access.perform d) t) k = .ok (some r) → r.key = k := by
  have hiff : ∀ t : Tree, (∀ r, load d t k = .ok (some r) → r.key = k) ↔ ¬ Foreign d t k := by
    intro t
    simp only [foreign_iff, not_exists, not_and, not_not]
  refine ⟨fun t => ⟨hiff t, hasRecord_of_foreign⟩, fun t accesses ht ha h => ?_⟩
  exact (hiff _).mpr (not_foreign_history accesses ht ha ((hiff t).mp h))

/-- The sample record saved under its own key, and the discarding of a run that never was. -/
def sampleAccesses : List Store.Access := [.save ⟨3, 7⟩ sampleRecord, .discard ⟨3, 8⟩]

open Store in
theorem load_own_sampleAccesses :
    Tree.empty.Sound ∧ (∀ a ∈ sampleAccesses, a.Writable) ∧
      load sampleDir .empty ⟨3, 7⟩ = .ok none ∧
      ∀ r, load sampleDir (sampleAccesses.foldl (Access.perform sampleDir) .empty) ⟨3, 7⟩ =
        .ok (some r) → r.key = ⟨3, 7⟩ := by
  have hw : ∀ a ∈ sampleAccesses, a.Writable := by
    simpa [sampleAccesses, Access.Writable, fits_sampleRecord] using readsBack_sampleRecord
  have hl : load sampleDir .empty ⟨3, 7⟩ = .ok none := rfl
  exact ⟨Tree.sound_empty, hw, hl,
    (load_own_iff sampleDir ⟨3, 7⟩).2 .empty sampleAccesses Tree.sound_empty hw (by simp [hl])⟩

/-- A tree in which the documents of run 7 were copied to the directory of run 8. -/
def copiedTree : Tree := ⟨[
  (["results"], .directory), (["results", "endpoint_03"], .directory),
  (["results", "endpoint_03", "run_08"], .directory),
  (["results", "endpoint_03", "run_08", Layout.resourceMetrics],
    .file sampleRecord.metrics.toJson.fileText false),
  (["results", "endpoint_03", "run_08", Layout.exitStatus],
    .file sampleRecord.exitStatus.toJson.fileText false)]⟩

open Store in
theorem load_copied : load sampleDir copiedTree ⟨3, 8⟩ = .ok (some sampleRecord.stored) ∧
    sampleRecord.stored.key ≠ ⟨3, 8⟩ ∧ hasRecord sampleDir copiedTree ⟨3, 8⟩ = true := by
  have hm : copiedTree.read (metricsAt sampleDir ⟨3, 8⟩) =
      .ok sampleRecord.metrics.toJson.fileText := rfl
  have hs : copiedTree.read (statusAt sampleDir ⟨3, 8⟩) =
      .ok sampleRecord.exitStatus.toJson.fileText := rfl
  have h := load_of_documents hm hs fits_sampleRecord readsBack_sampleRecord
  exact ⟨h, by decide, by rw [hasRecord, h]⟩

end SuiteBench
