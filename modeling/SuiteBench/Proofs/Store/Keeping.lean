import SuiteBench.Proofs.Store.Atomicity
import SuiteBench.Proofs.Store.Listing
import SuiteBench.Proofs.Store.Within

/-!
# Proofs.Store.Keeping — a results directory as the store keeps it

Whatever is asked of a store, its directory holds endpoint directories with run directories under their
own names, and no exit status of a run that is not the directory's.  Only the second document has to
fit its fields for this: it alone tells the run of a record, and it holds no figures.
-/

namespace SuiteBench

namespace Store

variable {d : ResultsDir} {t u : Tree} {k : RunKey} {r : RunRecord}

/-- Whether every exit status that can be read is one of the run that its directory is named for. -/
def OwnStatus (d : ResultsDir) (t : Tree) : Prop := ∀ k s, statusOf? d t k = some s → s.key = k

theorem statusOf?_congr (h : u.read (statusAt d k) = t.read (statusAt d k)) :
    statusOf? d u k = statusOf? d t k := by
  rw [statusOf?, statusOf?, h]

/-- A record whose exit status is its directory's own is a record of the run. -/
theorem OwnStatus.key_of_load (h : OwnStatus d t) (hl : load d t k = .ok (some r)) : r.key = k := by
  obtain ⟨m, s, -, hs, hr⟩ := load_eq_some_iff.mp hl
  rw [← h k s hs]
  rw [RunRecord.ofHalves] at hr
  split at hr
  · next hk =>
    cases hr
    exact hk
  · cases hr

/-- Whether a tree holds a results directory as the store keeps it. -/
structure Kept (d : ResultsDir) (t : Tree) : Prop where
  sound : t.Sound
  distinct : t.Distinct
  root : t.find? d.location = some .directory
  wellNamed : WellNamed d t
  endpoints : ∀ id, t.isFile (d.endpointLocation id) = false
  status : OwnStatus d t

/-- A directory in which nothing stands. -/
theorem kept_of_empty (ht : t.Sound) (hd : t.Distinct) (hroot : t.find? d.location = some .directory)
    (hempty : ∀ m, m ≠ [] → t.find? (d.location ++ m) = none) : Kept d t where
  sound := ht
  distinct := hd
  root := hroot
  wellNamed k name hk := by
    have hf := ((isRunDir_iff ht).mp hk).1
    rw [ResultsDir.endpointLocation, Layout.endpointLocation, List.append_assoc,
      hempty _ (by simp)] at hf
    cases hf
  endpoints id := by
    rw [Tree.isFile, ResultsDir.endpointLocation, Layout.endpointLocation, hempty _ (by simp)]
    rfl
  status k s hs := by
    have hvacant : Vacant d t k := fun m hm => by
      obtain ⟨rest, rfl⟩ := hm
      rw [ResultsDir.runLocation, Layout.runLocation, List.append_assoc]
      exact hempty _ (by simp)
    rw [statusOf?_of_vacant hvacant] at hs
    cases hs

/-! ### What the store does -/

/-- Whether a record that is saved fits its fields. -/
def Access.Fits : Access → Prop
  | save _ r => r.Fits
  | discard _ => True

theorem ownStatus_save (ht : t.Sound) (hr : r.Fits) (h : OwnStatus d t) :
    OwnStatus d (Claims.save k d t r).1 := by
  intro k' s hs
  rcases save_cases d t k r with hu | ⟨rfl, v, hv, hout, -⟩
  · rw [hu] at hs
    exact h k' s hs
  by_cases hk : k' = r.key
  · subst hk
    have hp := progress_take (d := d) ht r (saveSteps d r).length
    rw [List.take_length] at hp
    rw [Claims.save, if_pos rfl] at hs
    cases hp with
    | untouched _ hstat | between _ hstat => exact h _ s (statusOf?_congr hstat ▸ hs)
    | complete hold =>
      have hnew := statusOf?_of_read hold.2 hr
      cases hnew.symm.trans hs
      rfl
  · exact h k' s (statusOf?_congr (read_of_makeDirs_other ht hv hout hk _) ▸ hs)

theorem ownStatus_discard (h : OwnStatus d t) :
    OwnStatus d (Step.run t (discardSteps d t k)).1 := by
  intro k' s hs
  rcases discard_cases d t k with hu | hu
  · rw [hu] at hs
    exact h k' s hs
  rw [hu] at hs
  by_cases hk : k' = k
  · subst hk
    have hvacant : Vacant d (t.cut (d.runLocation k')) k' := fun m hm =>
      Tree.find?_cut_below t hm fun hm0 =>
        runLocation_ne_nil d k' (List.prefix_nil.mp (hm0 ▸ hm))
    rw [statusOf?_of_vacant hvacant] at hs
    cases hs
  · exact h k' s (statusOf?_congr (read_cut hk _) ▸ hs)

/-- An access changes nothing outside the directory of its run. -/
theorem differs_perform (a : Access) : ∃ k, t.DiffersWithin (d.runLocation k) (a.perform d t) := by
  cases a with
  | save k r =>
    refine ⟨r.key, ?_⟩
    rw [Access.perform, Claims.save]
    split
    · exact Step.differs_run within_saveSteps
    · exact .refl _ _
  | discard k => exact ⟨k, Step.differs_run within_discardSteps⟩

theorem not_runLocation_prefix_endpoint (d : ResultsDir) (k : RunKey) (id : Nat) :
    ¬ d.runLocation k <+: d.endpointLocation id := fun hp => by
  have hlen := hp.length_le
  simp [ResultsDir.runLocation, Layout.runLocation, ResultsDir.endpointLocation,
    Layout.endpointLocation] at hlen

theorem not_runLocation_prefix_root (d : ResultsDir) (k : RunKey) :
    ¬ d.runLocation k <+: d.location := fun hp => by
  have hlen := hp.length_le
  simp [ResultsDir.runLocation, Layout.runLocation] at hlen

/-- An access keeps a results directory. -/
theorem Kept.perform (h : Kept d t) {a : Access} (ha : a.Fits) : Kept d (a.perform d t) := by
  obtain ⟨k, hdiff⟩ := differs_perform (d := d) (t := t) a
  refine ⟨sound_perform h.sound a, distinct_perform h.distinct a, ?_,
    wellNamed_perform h.sound h.wellNamed a, fun id => ?_, ?_⟩
  · rcases hdiff _ (not_runLocation_prefix_root d k) with hsame | ⟨-, -, hnew⟩
    · rw [hsame, h.root]
    · exact hnew
  · rcases hdiff _ (not_runLocation_prefix_endpoint d k id) with hsame | ⟨-, -, hnew⟩
    · rw [Tree.isFile, hsame]
      exact h.endpoints id
    · rw [Tree.isFile, hnew]
      rfl
  · cases a with
    | save k r => exact ownStatus_save h.sound ha h.status
    | discard k => exact ownStatus_discard h.status

end Store

/-! ### What is asked of a store -/

namespace Custody

variable {d : ResultsDir} {s : Custody}

/-- Whether a record that is to be saved fits its fields. -/
def Request.Fits : Request → Prop
  | save _ r => r.Fits
  | claim .. | drop _ | discard _ => True

/-- What a request does to the tree: nothing, or what a holder of a claim does with its run. -/
theorem tree_perform {q : Request} (hq : q.Fits) : (s.perform d q).2.tree = s.tree ∨
    ∃ a : Store.Access, a.Fits ∧ (s.perform d q).2.tree = a.perform d s.tree := by
  cases q with
  | claim name k =>
    rw [perform]
    split
    · exact .inl rfl
    · exact .inl rfl
  | save name r =>
    rw [perform]
    split
    · exact .inl rfl
    · next k _ => exact .inr ⟨.save k r, hq, rfl⟩
  | drop name =>
    rw [perform]
    split
    · exact .inl rfl
    · exact .inl rfl
  | discard name =>
    rw [perform]
    split
    · exact .inl rfl
    · next k _ => exact .inr ⟨.discard k, trivial, rfl⟩

/-- Whatever is asked of a store, its directory stays as the store keeps it. -/
theorem kept_after {requests : List Request} (hq : ∀ q ∈ requests, q.Fits)
    (h : Store.Kept d s.tree) : Store.Kept d (s.after d requests).tree := by
  induction requests generalizing s with
  | nil => exact h
  | cons q requests ih =>
    obtain ⟨hq, hrest⟩ := List.forall_mem_cons.mp hq
    refine ih hrest ?_
    rcases tree_perform (d := d) (s := s) hq with hsame | ⟨a, ha, hsame⟩
    · rwa [hsame]
    · rw [hsame]
      exact h.perform ha

end Custody

end SuiteBench
