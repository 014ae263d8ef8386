import SuiteBench.Proofs.Run.Documents
import SuiteBench.Proofs.Store.Paths
import SuiteBench.Proofs.Store.Sound
import SuiteBench.Store.Claims

/-!
# Proofs.Store.Records — what is saved is what is loaded

A saved record is loaded again with its message cut, and saving what was loaded changes no byte.
Nothing else in the results tree is read differently, since no two runs share a directory.
-/

namespace SuiteBench

namespace Store

variable {d : ResultsDir} {t u : Tree} {k : RunKey} {r : RunRecord}

/-- The location of the first document of a run. -/
def metricsAt (d : ResultsDir) (k : RunKey) : Location := d.runLocation k ++ [Layout.resourceMetrics]

/-- The location of the second document of a run. -/
def statusAt (d : ResultsDir) (k : RunKey) : Location := d.runLocation k ++ [Layout.exitStatus]

/-! ### Loading -/

theorem load_congr (hm : t.read (metricsAt d k) = u.read (metricsAt d k))
    (hs : t.read (statusAt d k) = u.read (statusAt d k)) : load d t k = load d u k := by
  simp only [load, readDocument]
  rw [show d.runLocation k ++ [Layout.resourceMetrics] = metricsAt d k from rfl,
    show d.runLocation k ++ [Layout.exitStatus] = statusAt d k from rfl, hm, hs]

/-- Documents are loaded as the record that they were made of, in whatever directory they stand. -/
theorem load_of_documents (hm : t.read (metricsAt d k) = .ok r.metrics.toJson.fileText)
    (hs : t.read (statusAt d k) = .ok r.exitStatus.toJson.fileText) (hr : r.Fits)
    (hf : ∀ x ∈ r.figures, Json.ReadsBack x) : load d t k = .ok (some r.stored) := by
  have hdm : (Json.ofBytes? r.metrics.toJson.fileText).bind ResourceMetrics.ofJson? =
      some r.metrics := by
    rw [Json.ofBytes?_fileText (ResourceMetrics.plain_toJson hr hf), Option.bind_some,
      ResourceMetrics.ofJson?_toJson hr]
  have hds : (Json.ofBytes? r.exitStatus.toJson.fileText).bind ExitStatus.ofJson? =
      some r.exitStatus := by
    rw [Json.ofBytes?_fileText (ExitStatus.plain_toJson hr), Option.bind_some,
      ExitStatus.ofJson?_toJson hr]
  simp only [load, readDocument]
  rw [show d.runLocation k ++ [Layout.resourceMetrics] = metricsAt d k from rfl,
    show d.runLocation k ++ [Layout.exitStatus] = statusAt d k from rfl, hm, hs]
  simp only [hdm, hds, bind, Except.bind]
  rw [RunRecord.ofHalves_halves]
  rfl

/-- Whether both documents of a record stand in the directory of its run. -/
def Holds (d : ResultsDir) (t : Tree) (r : RunRecord) : Prop :=
  t.read (metricsAt d r.key) = .ok r.metrics.toJson.fileText ∧
    t.read (statusAt d r.key) = .ok r.exitStatus.toJson.fileText

/-- The first document that stands in the directory of a run, if it can be decoded. -/
def metricsOf? (d : ResultsDir) (t : Tree) (k : RunKey) : Option ResourceMetrics :=
  (t.read (metricsAt d k)).toOption.bind fun bytes =>
    (Json.ofBytes? bytes).bind ResourceMetrics.ofJson?

/-- The second document that stands in the directory of a run, if it can be decoded. -/
def statusOf? (d : ResultsDir) (t : Tree) (k : RunKey) : Option ExitStatus :=
  (t.read (statusAt d k)).toOption.bind fun bytes =>
    (Json.ofBytes? bytes).bind ExitStatus.ofJson?

theorem readDocument_eq_some_iff {α : Type} {l : Location} {p : Path} {decode : Json → Option α}
    {a : α} : readDocument t l p decode = .ok (some a) ↔
      ((t.read l).toOption.bind fun bytes => (Json.ofBytes? bytes).bind decode) = some a := by
  unfold readDocument
  split
  · next h => simp [h, Except.toOption]
  · next h => simp [h, Except.toOption]
  · next bytes h =>
    rw [h]
    simp only [Except.toOption, Option.bind_some]
    split
    · next x hx => rw [hx]; simp
    · next hx => rw [hx]; simp

/-- A run has a record when both documents in its directory name one run, whichever it is. -/
theorem load_eq_some_iff : load d t k = .ok (some r) ↔
    ∃ m s, metricsOf? d t k = some m ∧ statusOf? d t k = some s ∧ RunRecord.ofHalves m s = .ok r := by
  have hm : ∀ m, metricsOf? d t k = some m ↔ readDocument t (metricsAt d k)
      ((d.runDir k).join Layout.resourceMetrics) ResourceMetrics.ofJson? = .ok (some m) :=
    fun m => readDocument_eq_some_iff.symm
  have hs : ∀ s, statusOf? d t k = some s ↔ readDocument t (statusAt d k)
      ((d.runDir k).join Layout.exitStatus) ExitStatus.ofJson? = .ok (some s) :=
    fun s => readDocument_eq_some_iff.symm
  simp only [hm, hs, load, metricsAt, statusAt]
  cases readDocument t (d.runLocation k ++ [Layout.resourceMetrics])
      ((d.runDir k).join Layout.resourceMetrics) ResourceMetrics.ofJson? with
  | error e => simp [bind, Except.bind]
  | ok m =>
    cases readDocument t (d.runLocation k ++ [Layout.exitStatus])
        ((d.runDir k).join Layout.exitStatus) ExitStatus.ofJson? with
    | error e => simp [bind, Except.bind]
    | ok s =>
      cases m with
      | none => cases s <;> simp [bind, Except.bind]
      | some m =>
        cases s with
        | none => simp [bind, Except.bind]
        | some s =>
          cases hj : RunRecord.ofHalves m s <;>
            simp [bind, Except.bind, Except.mapError, Except.map, hj]

/-! ### Saving -/

theorem metricsAt_ne_nil (d : ResultsDir) (k : RunKey) : metricsAt d k ≠ [] := by simp [metricsAt]

theorem statusAt_ne_nil (d : ResultsDir) (k : RunKey) : statusAt d k ≠ [] := by simp [statusAt]

theorem saveSteps_eq (d : ResultsDir) (r : RunRecord) :
    saveSteps d r = .makeDirs (d.runLocation r.key) ::
      (Step.replace (metricsAt d r.key) r.metrics.toJson.fileText ++
        Step.replace (statusAt d r.key) r.exitStatus.toJson.fileText) := rfl

/-- What saving a record does: it makes the directory of the run, and both documents in it. -/
theorem run_saveSteps (h : Step.run t (saveSteps d r) = (u, none)) :
    ∃ v, t.makeDirs (d.runLocation r.key) = .ok v ∧ Holds d u r ∧
      (∀ m, ¬ d.runLocation r.key <+: m → u.find? m = v.find? m) ∧
      u.find? (Step.hidden (metricsAt d r.key)) = none ∧
      u.find? (Step.hidden (statusAt d r.key)) = none := by
  rw [saveSteps_eq, Step.run_cons_eq_none] at h
  obtain ⟨v, hv, h⟩ := h
  obtain ⟨w, hw, h⟩ := Step.run_append_eq_none.mp h
  obtain ⟨hm, hmh⟩ := Step.run_replace hw (metricsAt_ne_nil d r.key)
  obtain ⟨hs, hsh⟩ := Step.run_replace h (statusAt_ne_nil d r.key)
  have hne : Layout.exitStatus ≠ Layout.resourceMetrics := by decide
  have hsib := fun {p} => Step.find?_replace_sibling (p := p) h hne (Step.hiddenName_ne (by decide))
  refine ⟨v, hv, ⟨?_, hs⟩, fun m hmd => ?_, ?_, hsh⟩
  · exact (Tree.read_congr fun p hp => hsib hp).trans hm
  · rw [Step.find?_replace_outside h hmd, Step.find?_replace_outside hw hmd]
  · rw [metricsAt, Step.hidden_concat] at hmh ⊢
    rw [Step.find?_replace_sibling h (by decide) (by decide) (List.prefix_refl _), hmh]

theorem isDirectory_of_read {l : Location} {c : ByteArray} (h : t.read l = .ok c) :
    t.isDirectory l = false := by
  obtain ⟨-, x, hf⟩ := Tree.read_eq_ok_iff.mp h
  simp [Tree.isDirectory, hf, Entry.isDirectory]

theorem isDirectory_of_none {l : Location} (h : t.find? l = none) : t.isDirectory l = false := by
  simp [Tree.isDirectory, h]

/-- Where a record was saved, one of the same run can be saved again. -/
theorem saveSteps_succeeds (hr : Holds d t r) (hm : t.find? (Step.hidden (metricsAt d r.key)) = none)
    (hs : t.find? (Step.hidden (statusAt d r.key)) = none) {r' : RunRecord} (hk : r'.key = r.key) :
    ∃ u, Step.run t (saveSteps d r') = (u, none) := by
  obtain ⟨hrm, hrs⟩ := hr
  have hd : t.find? (d.runLocation r.key) = some .directory :=
    Tree.find?_of_read hrm (List.prefix_append _ _) (by simp [metricsAt])
  have hmake : (Step.makeDirs (d.runLocation r.key)).apply t = .ok t := by
    rw [Step.apply, Tree.makeDirs_eq, hd]
  obtain ⟨v, hv⟩ := Step.replace_succeeds (metricsAt_ne_nil d r.key)
    (Tree.read_eq_ok_iff.mp hrm).1 (isDirectory_of_read hrm) (isDirectory_of_none hm)
    r'.metrics.toJson.fileText
  have hsame : ∀ p, p <+: statusAt d r.key → v.find? p = t.find? p := fun p hp =>
    Step.find?_replace_sibling hv (by decide) (Step.hiddenName_ne (by decide)) hp
  have hrs' : v.read (statusAt d r.key) = .ok r.exitStatus.toJson.fileText :=
    (Tree.read_congr hsame).trans hrs
  have hs' : v.find? (Step.hidden (statusAt d r.key)) = none := by
    rw [statusAt, Step.hidden_concat] at hs ⊢
    rw [Step.find?_replace_sibling hv (by decide) (by decide) (List.prefix_refl _), hs]
  obtain ⟨w, hw⟩ := Step.replace_succeeds (statusAt_ne_nil d r.key)
    (Tree.read_eq_ok_iff.mp hrs').1 (isDirectory_of_read hrs') (isDirectory_of_none hs')
    r'.exitStatus.toJson.fileText
  refine ⟨w, ?_⟩
  rw [saveSteps_eq, hk]
  exact Step.run_cons_eq_none.mpr ⟨t, hmake, Step.run_append_eq_none.mpr ⟨v, hv, hw⟩⟩

/-! ### Isolation -/

/-- The documents of another run are read as before. -/
theorem read_of_makeDirs_other {v : Tree} {k : RunKey} (ht : t.Sound)
    (hv : t.makeDirs (d.runLocation k) = .ok v)
    (hu : ∀ m, ¬ d.runLocation k <+: m → u.find? m = v.find? m) {k' : RunKey} (hk : k' ≠ k)
    (name : String) : u.read (d.runLocation k' ++ [name]) = t.read (d.runLocation k' ++ [name]) := by
  have hpre : ∀ p, p <+: d.runLocation k' ++ [name] → ¬ d.runLocation k <+: p := fun p hp h =>
    hk (Layout.eq_of_runLocation_prefix (List.prefix_append _ [name]) (h.trans hp))
  rw [Tree.read_congr fun p hp => hu p (hpre p hp)]
  refine ht.read_makeDirs hv fun hl => ?_
  have hlen := hl.length_le
  simp only [List.length_append, List.length_singleton, ResultsDir.runLocation,
    Layout.length_runLocation] at hlen
  omega

theorem load_of_makeDirs {v : Tree} {k : RunKey} (ht : t.Sound)
    (hv : t.makeDirs (d.runLocation k) = .ok v)
    (hu : ∀ m, ¬ d.runLocation k <+: m → u.find? m = v.find? m) {k' : RunKey} (hk : k' ≠ k) :
    load d u k' = load d t k' :=
  load_congr (read_of_makeDirs_other ht hv hu hk _) (read_of_makeDirs_other ht hv hu hk _)

end Store

namespace RunRecord

theorem truncate_truncate (s : String) (n : Nat) :
    Text.truncate (Text.truncate s n) n = Text.truncate s n := by
  simp [Text.truncate, List.take_take]

theorem metrics_stored (r : RunRecord) : r.stored.metrics = r.metrics := rfl

theorem exitStatus_stored (r : RunRecord) : r.stored.exitStatus = r.exitStatus := by
  rw [exitStatus, exitStatus, stored, truncate_truncate]
  rfl

end RunRecord

theorem Store.claims_save_iff {d : ResultsDir} {t u : Tree} {k : RunKey} {r : RunRecord} :
    Claims.save k d t r = (u, none) ↔
      k = r.key ∧ Step.run t (Store.saveSteps d r) = (u, none) := by
  rw [Claims.save]
  split
  · next hk =>
    cases Step.run t (Store.saveSteps d r) with
    | mk v e => cases e <;> simp [hk]
  · next hk => simp [hk]

open Store in
/-- A saved record is loaded with its message cut; saving it again succeeds and changes no byte of its
documents; and every other run is loaded as before. -/
theorem load_saved {d : ResultsDir} {t u : Tree} {k : RunKey} {r : RunRecord} (ht : t.Sound)
    (hk : r.key = k) (hr : r.Fits) (hf : ∀ x ∈ r.figures, Json.ReadsBack x)
    (hs : Claims.save k d t r = (u, none)) :
    load d u k = .ok (some { r with message := Text.truncate r.message 500 }) ∧
      (∃ v, Claims.save k d u { r with message := Text.truncate r.message 500 } = (v, none) ∧
        ∀ l ∈ [metricsAt d k, statusAt d k], ∃ bytes, u.read l = .ok bytes ∧ v.read l = .ok bytes) ∧
      ∀ k', k' ≠ k → load d u k' = load d t k' := by
  subst hk
  obtain ⟨v, hv, hold, hout, hm, hst⟩ := run_saveSteps (claims_save_iff.mp hs).2
  have hkey : r.stored.key = r.key := rfl
  obtain ⟨w, hw⟩ := saveSteps_succeeds hold hm hst hkey
  obtain ⟨-, -, hold', -, -, -⟩ := run_saveSteps hw
  rw [Holds, RunRecord.metrics_stored, RunRecord.exitStatus_stored, hkey] at hold'
  refine ⟨load_of_documents hold.1 hold.2 hr hf, ⟨w, claims_save_iff.mpr ⟨rfl, hw⟩, ?_⟩,
    fun k' hk' => load_of_makeDirs ht hv hout hk'⟩
  intro l hl
  simp only [List.mem_cons, List.not_mem_nil, or_false] at hl
  rcases hl with rfl | rfl
  · exact ⟨_, hold.1, hold'.1⟩
  · exact ⟨_, hold.2, hold'.2⟩

/-- A record with a coverage figure that is not available and a message that is cut. -/
def sampleRecord : RunRecord where
  key := ⟨3, 7⟩
  startedAt := ⟨1772359200, 0⟩
  finishedAt := ⟨1772359263, 127000000⟩
  durationSeconds := 63.127
  searchBudget := 60
  exitCode := 0
  timedOut := false
  status := .success
  diagnosis := .noError
  message := Text.repeatChar 501 'x'
  errorCounts := ⟨0, 0, 0⟩
  resources := ⟨38.5, 512.25, 63⟩
  artifacts := ⟨12, 30, 41⟩
  coverage := ⟨some 0.75, some 40, none⟩

theorem fits_sampleRecord : sampleRecord.Fits where
  endpoint := by decide
  run := by decide
  startedAt := by decide
  finishedAt := by decide
  searchBudget := by decide
  exitCode := by decide
  samples := by decide
  artifacts := by decide
  goals := by decide
  errors := by decide

/-- A results directory. -/
def sampleDir : ResultsDir := ⟨⟨"/results"⟩, ["results"]⟩

/-- The empty tree with a record saved. -/
def sampleTree : Tree := (Claims.save ⟨3, 7⟩ sampleDir .empty sampleRecord).1

theorem save_sampleRecord :
    Claims.save ⟨3, 7⟩ sampleDir .empty sampleRecord = (sampleTree, none) := by
  have h : (Claims.save ⟨3, 7⟩ sampleDir .empty sampleRecord).2 = none := by decide
  rw [sampleTree, ← h]

theorem readsBack_sampleRecord : ∀ x ∈ sampleRecord.figures, Json.ReadsBack x := by decide

open Store in
theorem load_saved_sampleRecord :
    Tree.empty.Sound ∧ sampleRecord.Fits ∧ (∀ x ∈ sampleRecord.figures, Json.ReadsBack x) ∧
      Claims.save ⟨3, 7⟩ sampleDir .empty sampleRecord = (sampleTree, none) ∧
      load sampleDir sampleTree ⟨3, 7⟩ =
        .ok (some { sampleRecord with message := Text.truncate sampleRecord.message 500 }) ∧
      load sampleDir sampleTree ⟨3, 8⟩ = load sampleDir .empty ⟨3, 8⟩ := by
  have h := load_saved Tree.sound_empty rfl fits_sampleRecord readsBack_sampleRecord
    save_sampleRecord
  exact ⟨Tree.sound_empty, fits_sampleRecord, readsBack_sampleRecord, save_sampleRecord, h.1,
    h.2.2 _ (by decide)⟩

end SuiteBench
