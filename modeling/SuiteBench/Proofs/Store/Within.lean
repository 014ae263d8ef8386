import SuiteBench.Proofs.Store.Sparing

/-!
# Proofs.Store.Within — what changes nothing outside one directory

Saving and discarding a run change nothing outside its directory but make the way to it.  A run that
is discarded is cut off, so that nothing of it is left, and saving puts nothing in its directory but
the two documents.
-/

namespace SuiteBench

/-! ### Trees that differ within a directory -/

/-- Whether two trees are the same outside a directory, but for directories made on the way to it. -/
def Tree.DiffersWithin (dir : Location) (t u : Tree) : Prop :=
  ∀ m, ¬ dir <+: m →
    u.find? m = t.find? m ∨ m <+: dir ∧ t.find? m = none ∧ u.find? m = some .directory

/-- Whether a step makes directories on the way to a directory or changes something in it. -/
def Step.Within (dir : Location) : Step → Prop
  | makeDirs l => l <+: dir ∨ dir <+: l
  | write l _ | remove l => dir <+: l
  | rename source target => dir <+: source ∧ dir <+: target

namespace Tree.DiffersWithin

variable {dir m : Location} {t u v : Tree}

theorem refl (dir : Location) (t : Tree) : DiffersWithin dir t t := fun _ _ => .inl rfl

theorem trans (h : DiffersWithin dir t u) (h' : DiffersWithin dir u v) : DiffersWithin dir t v := by
  intro m hm
  rcases h m hm with hut | ⟨hmd, ht, hu⟩
  · rcases h' m hm with hvu | ⟨hmd, hu, hv⟩
    · exact .inl (hvu.trans hut)
    · exact .inr ⟨hmd, hut ▸ hu, hv⟩
  · rcases h' m hm with hvu | ⟨-, hu', -⟩
    · exact .inr ⟨hmd, ht, hvu.trans hu⟩
    · rw [hu] at hu'
      cases hu'

end Tree.DiffersWithin

namespace Step

variable {dir l m : Location} {t u : Tree} {s : Step} {steps : List Step} {c : ByteArray}

theorem Within.makes {l : Location} (h : (makeDirs l).Within dir) (hm : ¬ dir <+: m)
    (hml : m <+: l) : m <+: dir :=
  h.elim hml.trans fun hdl => (List.prefix_or_prefix_of_prefix hml hdl).resolve_right hm

/-- What a step in a directory takes is in it. -/
theorem Within.replaces (h : s.Within dir) (hr : s.Replaces m) : dir <+: m := by
  cases s with
  | makeDirs l => exact hr.elim
  | write l c =>
    obtain rfl : m = l := hr
    exact h
  | rename a b =>
    rcases hr with hr | rfl
    · exact h.1.trans hr
    · exact h.2
  | remove l => exact h.trans hr

/-- What a step in a directory touches is in it or on the way to it. -/
theorem Within.touches (h : s.Within dir) (ht : s.Touches m) : dir <+: m ∨ m <+: dir := by
  by_cases hm : dir <+: m
  · exact .inl hm
  · cases s with
    | makeDirs l => exact .inr (h.makes hm ht)
    | write l c | rename a b | remove l => exact .inl (h.replaces ht)

theorem Within.differs (hw : s.Within dir) (h : s.apply t = .ok u) : t.DiffersWithin dir u := by
  intro m hm
  cases s with
  | makeDirs l =>
    by_cases hml : m <+: l
    · by_cases hl : t.find? l = none
      · have hnew := Tree.makeDirs_way h hl hml
        cases ht : t.find? m with
        | none => exact .inr ⟨hw.makes hm hml, rfl, hnew⟩
        | some e => exact .inl ((Tree.makeDirs_spec h).2.2 m e ht)
      · rw [Tree.makeDirs_eq_self h hl]
        exact .inl rfl
    · exact .inl (find?_apply h hml)
  | write l c => exact .inl (find?_apply h fun hml : m = l => hm (hml ▸ hw))
  | rename a b =>
    refine .inl (find?_apply h ?_)
    rintro (ham | hmb)
    · exact hm (hw.1.trans ham)
    · exact hm (hmb ▸ hw.2)
  | remove l => exact .inl (find?_apply h fun hlm => hm (hw.trans hlm))

theorem differs_run (h : ∀ s ∈ steps, s.Within dir) : t.DiffersWithin dir (run t steps).1 :=
  run_induction (P := t.DiffersWithin dir) steps
    (fun s hs _ _ ha hv => hv.trans ((h s hs).differs ha)) (.refl dir t)

/-- A single step that fails changes nothing. -/
theorem eq_of_run_singleton {f : FileError} (h : run t [s] = (u, some f)) : u = t := by
  cases ha : s.apply t with
  | ok v =>
    rw [run_cons_ok ha] at h
    cases h
  | error f' =>
    rw [run, ha] at h
    exact (Prod.mk.inj h).1.symm

theorem within_replace {name : String} (h : dir <+: l) :
    ∀ s ∈ replace (l ++ [name]) c, s.Within dir := by
  have hin : ∀ x, dir <+: l ++ [x] := fun x => h.trans (List.prefix_append l [x])
  intro s hs
  rw [replace_eq, hidden_concat] at hs
  rcases List.mem_cons.mp hs with rfl | hs
  · exact hin _
  · obtain rfl := List.mem_singleton.mp hs
    exact ⟨hin _, hin _⟩

end Step

/-! ### Clearing and saving a run -/

namespace Store

variable {d : ResultsDir} {t u : Tree} {k : RunKey} {r : RunRecord} {m : Location} {e : Entry}

theorem within_discardSteps : ∀ s ∈ discardSteps d t k, s.Within (d.runLocation k) := by
  intro s hs
  rw [discardSteps] at hs
  split at hs
  · cases hs
  · obtain rfl := List.mem_singleton.mp hs
    exact List.prefix_refl _

theorem within_saveSteps : ∀ s ∈ saveSteps d r, s.Within (d.runLocation r.key) := by
  intro s hs
  rw [saveSteps_eq] at hs
  rcases List.mem_cons.mp hs with rfl | hs
  · exact .inl (List.prefix_refl _)
  · rcases List.mem_append.mp hs with hs | hs
    · exact Step.within_replace (List.prefix_refl _) s hs
    · exact Step.within_replace (List.prefix_refl _) s hs

theorem runLocation_ne_nil (d : ResultsDir) (k : RunKey) : d.runLocation k ≠ [] := by
  simp [ResultsDir.runLocation, Layout.runLocation]

/-- A run whose directory is not found leaves nothing in a sound tree. -/
theorem vacant_of_notFound (ht : t.Sound) (hg : t.get (d.runLocation k) = .error .notFound) :
    Vacant d t k := by
  intro m hm
  by_contra hf
  have hdir : t.find? (d.runLocation k) ≠ none := by
    by_cases he : d.runLocation k = m
    · rwa [he]
    · simp [ht m hf _ hm he]
  obtain ⟨x, hx⟩ := Option.ne_none_iff_exists'.mp hdir
  rw [Tree.get_eq_ok_iff.mpr ⟨ht.obstacle? hdir, hx⟩] at hg
  cases hg

/-- Where nothing of a run is left, there is nothing to cut. -/
theorem cut_of_vacant (hv : Vacant d t k) : t.cut (d.runLocation k) = t := by
  obtain ⟨entries⟩ := t
  refine congrArg Tree.mk (List.filter_eq_self.mpr ?_)
  rintro ⟨m, e⟩ hme
  rw [Bool.not_eq_true', Bool.eq_false_iff]
  intro hp
  have hm := List.isPrefixOf_iff_prefix.mp hp
  have hne : m ≠ [] := by
    rintro rfl
    exact runLocation_ne_nil d k (List.prefix_nil.mp hm)
  have hnone := hv m hm
  rw [Tree.find?_of_ne_nil _ hne, List.lookup_eq_none_iff] at hnone
  simpa using hnone _ hme

/-- A run that is discarded is cut off, and there is nothing to discard any more. -/
theorem discard_eq_cut (ht : t.Sound) (h : Step.run t (discardSteps d t k) = (u, none)) :
    u = t.cut (d.runLocation k) ∧ Vacant d u k ∧ discardSteps d u k = [] := by
  cases hg : t.get (d.runLocation k) with
  | error f =>
    rw [discardSteps, hg] at h
    cases f with
    | notFound =>
      cases h
      have hv := vacant_of_notFound ht hg
      exact ⟨(cut_of_vacant hv).symm, hv, by rw [discardSteps, hg]⟩
    | _ => simp [Step.run, Step.apply, hg] at h
  | ok e =>
    rw [discardSteps, hg] at h
    obtain ⟨v, hv, hu⟩ := Step.run_cons_eq_none.mp h
    cases hu
    obtain ⟨-, rfl⟩ := Step.apply_remove hv
    have hvacant : Vacant d (t.cut (d.runLocation k)) k := fun m hm =>
      Tree.find?_cut_below t hm fun hm0 =>
        runLocation_ne_nil d k (List.prefix_nil.mp (hm0 ▸ hm))
    have hway : (t.cut (d.runLocation k)).obstacle? (d.runLocation k).dropLast = none := by
      refine Tree.obstacle?_eq_none_iff.mpr fun p hp => ?_
      rw [Tree.find?_cut_elsewhere t fun hdp => ?_]
      · exact Tree.obstacle?_eq_none_iff.mp (Tree.get_eq_ok_iff.mp hg).1 p hp
      · have hlen := (hdp.trans hp).length_le
        simp [ResultsDir.runLocation, Layout.length_runLocation] at hlen
    have hget : (t.cut (d.runLocation k)).get (d.runLocation k) = .error .notFound := by
      rw [Tree.get, hway, hvacant _ (List.prefix_refl _)]
    exact ⟨rfl, hvacant, by rw [discardSteps, hget]⟩

/-- Saving adds nothing to the directory of a run but the two documents. -/
theorem find?_saveSteps (h : Step.run t (saveSteps d r) = (u, none))
    (hm : d.runLocation r.key <+: m) (he : u.find? m = some e) :
    m ∈ [d.runLocation r.key, metricsAt d r.key, statusAt d r.key] ∨ t.find? m = some e := by
  rw [saveSteps_eq, Step.run_cons_eq_none] at h
  obtain ⟨v, hv, h⟩ := h
  obtain ⟨w, hw, h⟩ := Step.run_append_eq_none.mp h
  rcases Step.find?_of_replaced h he with rfl | he
  · exact .inl (by simp)
  rcases Step.find?_of_replaced hw he with rfl | he
  · exact .inl (by simp)
  by_cases hmd : m <+: d.runLocation r.key
  · have hlen := Nat.le_antisymm hmd.length_le hm.length_le
    exact .inl (by simp [hmd.eq_of_length hlen])
  · exact .inr ((Step.find?_apply hv hmd).symm.trans he)

end Store

end SuiteBench
