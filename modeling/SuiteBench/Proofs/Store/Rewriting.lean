import SuiteBench.Proofs.Store.Sound

/-!
# Proofs.Store.Rewriting — trees in which some files were replaced

Replacing files and making directories leaves everything else in its place and in its order.  What is
read of a tree without looking at these files is therefore read of the new tree as well.
-/

namespace SuiteBench

namespace Step

variable {t u : Tree} {l : Location} {c : ByteArray}

theorem hidden_ne_nil (hl : l ≠ []) : hidden l ≠ [] := fun h0 => by
  have hlen := hidden_length hl
  rw [h0] at hlen
  exact hl (List.length_eq_zero_iff.mp hlen.symm)

/-- A file can be replaced only where no directory stands, and then it stands in its place. -/
theorem replace_inv (h : run t (replace l c) = (u, none)) (hl : l ≠ []) :
    t.isDirectory l = false ∧ t.isDirectory (hidden l) = false ∧
      ∃ x, u = ((t.set (hidden l) (.file c x)).cut (hidden l)).set l (.file c x) := by
  rw [replace_eq, run_cons_eq_none] at h
  obtain ⟨v, hw, h⟩ := h
  obtain ⟨w, hr, h⟩ := run_cons_eq_none.mp h
  cases h
  have hh : t.isDirectory (hidden l) = false := Bool.eq_false_iff.mpr fun hd => by
    simp only [apply, Tree.isDirectory_iff.mp hd] at hw
    split at hw <;> cases hw
  obtain ⟨-, x, rfl⟩ := apply_write hw
  obtain ⟨-, hd, e, hg, rfl⟩ := apply_rename hr
  have he : e = .file c x := by
    have hf := (Tree.get_eq_ok_iff.mp hg).2
    rw [Tree.find?_set _ _ (hidden_ne_nil hl)] at hf
    exact (Option.some.inj hf).symm
  subst he
  refine ⟨?_, hh, x, rfl⟩
  rwa [Tree.isDirectory, Tree.find?_set_of_ne _ _ (hidden_ne hl).symm] at hd

end Step

namespace Tree

variable {t u v : Tree} {l m : Location} {files dirs : List Location} {e : Entry}

/-! ### What stands aside -/

/-- Whether a location is neither that of one of the files nor that of a hidden neighbour. -/
def Aside (files : List Location) (m : Location) : Prop :=
  m ∉ files ∧ m ∉ files.map Step.hidden

instance (files : List Location) (m : Location) : Decidable (Aside files m) :=
  inferInstanceAs (Decidable (_ ∧ _))

theorem aside_append {files' : List Location} :
    Aside (files ++ files') m ↔ Aside files m ∧ Aside files' m := by
  simp only [Aside, List.map_append, List.mem_append, not_or]
  exact and_and_and_comm

theorem find?_isSome_of_mem {x : Location × Entry} (hx : x ∈ t.entries) :
    (t.find? x.1).isSome = true := by
  by_cases h0 : x.1 = []
  · rw [h0]
    rfl
  · rw [find?_of_ne_nil t h0, Option.isSome_iff_ne_none, Ne, List.lookup_eq_none_iff]
    intro hall
    simpa using hall x hx

/-- The entries that stand aside, in their order, of those that another tree has. -/
def entriesAside (files : List Location) (t u : Tree) : List (Location × Entry) :=
  u.entries.filter fun x => decide (Aside files x.1) && (t.find? x.1).isSome

theorem entriesAside_append (files files' : List Location) (t w : Tree) :
    entriesAside (files ++ files') t w =
      (entriesAside files t w).filter fun x => decide (Aside files' x.1) := by
  rw [entriesAside, entriesAside, List.filter_filter]
  refine List.filter_congr fun x _ => ?_
  simp only [aside_append, Bool.decide_and]
  cases decide (Aside files' x.1) <;> simp

theorem lookup_entriesAside (files : List Location) (t u : Tree) (m : Location) :
    (entriesAside files t u).lookup m =
      if Aside files m ∧ (t.find? m).isSome = true then u.entries.lookup m else none := by
  rw [entriesAside, lookup_filter_fst (fun k => decide (Aside files k) && (t.find? k).isSome)]
  simp

theorem entriesAside_set (w : Tree) (hl : Aside files l → t.find? l = none) :
    entriesAside files t (w.set l e) = entriesAside files t w := by
  have hnew : (decide (Aside files l) && (t.find? l).isSome) = false := by
    by_cases ha : Aside files l
    · simp [hl ha]
    · simp [ha]
  rw [entriesAside, set, List.filter_append, List.filter_filter, List.filter_singleton, hnew,
    cond_false, List.append_nil]
  refine List.filter_congr fun x _ => ?_
  by_cases hx : x.1 = l
  · rw [hx, hnew, Bool.false_and]
  · simp [hx]

theorem entriesAside_cut (w : Tree) (hl : ∀ m, Aside files m → t.find? m ≠ none → ¬ l <+: m) :
    entriesAside files t (w.cut l) = entriesAside files t w := by
  rw [entriesAside, cut, List.filter_filter]
  refine List.filter_congr fun x _ => ?_
  by_cases ha : Aside files x.1
  · cases hs : t.find? x.1 with
    | none => simp
    | some e =>
      have hp : l.isPrefixOf x.1 = false := Bool.eq_false_iff.mpr fun hp =>
        hl x.1 ha (by simp [hs]) (List.isPrefixOf_iff_prefix.mp hp)
      simp [ha, hp]
  · simp [ha]

/-- The files below a location are the same where all that is picked from below it is. -/
theorem filesBelow_congr (h : ∀ f : Location × Entry → Option (Location × ByteArray),
    (∀ x, f x ≠ none → l <+: x.1) → u.entries.filterMap f = t.entries.filterMap f) :
    u.filesBelow l = t.filesBelow l := by
  refine h _ ?_
  rintro ⟨m, e⟩ hne
  cases e with
  | directory => exact absurd rfl hne
  | file c x =>
    by_contra hp
    have hpre : l.isPrefixOf m = false :=
      Bool.eq_false_iff.mpr fun hb => hp (List.isPrefixOf_iff_prefix.mp hb)
    simp [hpre] at hne

/-! ### Trees in which files were replaced -/

/-- Whether a tree comes from another by replacing files and making directories: no directory stood
where the files or their hidden neighbours stand, what stands aside kept its place and its order, and
nothing came to it but directories on the way to those that were made. -/
structure Rewrites (files dirs : List Location) (t u : Tree) : Prop where
  blank : ∀ l ∈ files, t.isDirectory l = false ∧ t.isDirectory (Step.hidden l) = false
  kept : entriesAside files t u = entriesAside files t t
  made : ∀ m, Aside files m → t.find? m = none →
    u.find? m = none ∨ (∃ d ∈ dirs, m <+: d) ∧ u.find? m = some .directory

namespace Rewrites

theorem find?_of_some (h : Rewrites files dirs t u) (hm : Aside files m)
    (he : t.find? m = some e) : u.find? m = some e := by
  by_cases h0 : m = []
  · subst h0
    exact he
  · have hlook := congrArg (List.lookup m) h.kept
    have hif : Aside files m ∧ (t.find? m).isSome = true := ⟨hm, by simp [he]⟩
    rw [lookup_entriesAside, lookup_entriesAside, if_pos hif, if_pos hif] at hlook
    rw [find?_of_ne_nil _ h0, hlook, ← find?_of_ne_nil _ h0, he]

/-- What stands aside is the same, but for directories that were made. -/
theorem find?_cases (h : Rewrites files dirs t u) (hm : Aside files m) :
    u.find? m = t.find? m ∨
      (∃ d ∈ dirs, m <+: d) ∧ t.find? m = none ∧ u.find? m = some .directory := by
  cases he : t.find? m with
  | some e => exact .inl (h.find?_of_some hm he)
  | none => exact (h.made m hm he).imp_right fun hd => ⟨hd.1, rfl, hd.2⟩

theorem aside_of_isDirectory (h : Rewrites files dirs t u) (hd : t.find? m = some .directory) :
    Aside files m := by
  have hdir := isDirectory_iff.mpr hd
  refine ⟨fun hm => ?_, fun hm => ?_⟩
  · rw [(h.blank m hm).1] at hdir
    cases hdir
  · obtain ⟨l, hl, rfl⟩ := List.mem_map.mp hm
    rw [(h.blank l hl).2] at hdir
    cases hdir

theorem refl (t : Tree) : Rewrites [] [] t t where
  blank l hl := by cases hl
  kept := rfl
  made m _ hm := .inl hm

/-- The entries that stand aside of further files, taken from those of the tree in between. -/
theorem filter_entriesAside {files' : List Location} (h : Rewrites files dirs t v) (w : Tree) :
    (entriesAside files' v w).filter (fun x => decide (Aside files x.1) && (t.find? x.1).isSome) =
      entriesAside (files ++ files') t w := by
  rw [entriesAside_append, entriesAside, entriesAside, List.filter_filter, List.filter_filter]
  refine List.filter_congr fun x _ => ?_
  by_cases ha : Aside files x.1
  · cases ht : t.find? x.1 with
    | none => simp
    | some e => simp [ha, h.find?_of_some ha ht]
  · simp [ha]

theorem trans {files' dirs' : List Location} (h : Rewrites files dirs t v)
    (h' : Rewrites files' dirs' v u) : Rewrites (files ++ files') (dirs ++ dirs') t u where
  blank l hl := by
    rcases List.mem_append.mp hl with hl | hl
    · exact h.blank l hl
    · have hnone : ∀ k, v.isDirectory k = false → t.isDirectory k = false := fun k hk =>
        Bool.eq_false_iff.mpr fun hd => by
          have hdir := isDirectory_iff.mp hd
          rw [isDirectory_iff.mpr (h.find?_of_some (h.aside_of_isDirectory hdir) hdir)] at hk
          cases hk
      exact ⟨hnone _ (h'.blank l hl).1, hnone _ (h'.blank l hl).2⟩
  kept := by
    rw [← h.filter_entriesAside u, h'.kept, h.filter_entriesAside v, entriesAside_append, h.kept,
      ← entriesAside_append]
  made m hm ht := by
    obtain ⟨hm, hm'⟩ := aside_append.mp hm
    rcases h.made m hm ht with hv | ⟨⟨d, hd, hp⟩, hv⟩
    · exact (h'.made m hm' hv).imp_right fun hx =>
        ⟨hx.1.imp fun d hd => ⟨List.mem_append_right _ hd.1, hd.2⟩, hx.2⟩
    · exact .inr ⟨⟨d, List.mem_append_left _ hd, hp⟩, h'.find?_of_some hm' hv⟩

/-! ### One step -/

theorem entries_foldlM_makeDir : ∀ (ps : List Location) {v u : Tree}, ps.foldlM makeDir v = .ok u →
    (∀ m e, t.find? m = some e → v.find? m = some e) →
      entriesAside [] t u = entriesAside [] t v
  | [], _, _, h, _ => by
    cases h
    rfl
  | p :: ps, v, u, h, hv => by
    rw [List.foldlM_cons] at h
    cases hp : v.makeDir p with
    | error e =>
      rw [hp] at h
      cases h
    | ok w =>
      rw [hp] at h
      have hw := (makeDir_spec hp).2.2
      rw [entries_foldlM_makeDir ps h fun m e he => hw m e (hv m e he)]
      unfold makeDir at hp
      split at hp
      · cases hp
        rfl
      · cases hp
      · next hnone =>
        cases hp
        -- the new directory is not one of the first tree
        have hnew : t.find? p = none := by
          by_contra hsome
          obtain ⟨e, he⟩ := Option.ne_none_iff_exists'.mp hsome
          rw [hv p e he] at hnone
          cases hnone
        exact entriesAside_set v fun _ => hnew

theorem of_makeDirs {d : Location} (h : t.makeDirs d = .ok u) : Rewrites [] [d] t u where
  blank l hl := by cases hl
  kept := by
    rw [makeDirs_eq] at h
    split at h
    · cases h
      rfl
    · cases h
    · exact entries_foldlM_makeDir _ h fun _ _ he => he
  made m _ hm := by
    by_cases hmd : m <+: d
    · by_cases hd : t.find? d = none
      · exact .inr ⟨⟨d, List.mem_singleton_self d, hmd⟩, makeDirs_way h hd hmd⟩
      · rw [makeDirs_eq_self h hd]
        exact .inl hm
    · rw [(makeDirs_spec h).2.1 m hmd]
      exact .inl hm

theorem of_replace (ht : t.Sound) {c : ByteArray} (hl : l ≠ [])
    (h : Step.run t (Step.replace l c) = (u, none)) : Rewrites [l] [] t u := by
  obtain ⟨hd, hh, x, rfl⟩ := Step.replace_inv h hl
  refine ⟨fun k hk => ?_, ?_, fun m hm hnone => .inl ?_⟩
  · obtain rfl := List.mem_singleton.mp hk
    exact ⟨hd, hh⟩
  · rw [entriesAside_set _ fun ha => absurd (List.mem_singleton_self l) ha.1,
      entriesAside_cut _ fun m ha hm hp => ?_, entriesAside_set _ fun ha => absurd (by simp) ha.2]
    -- nothing stands below the hidden neighbour, which is no directory
    have hmh : Step.hidden l ≠ m := fun he => ha.2 (by simp [he])
    rw [isDirectory, ht m hm _ hp hmh] at hh
    cases hh
  · obtain ⟨hml, hmh⟩ := hm
    rw [find?_set_of_ne _ _ (by simpa using hml)]
    by_cases hp : Step.hidden l <+: m
    · refine find?_cut_below _ hp fun h0 => ?_
      rw [h0] at hnone
      cases hnone
    · rw [find?_cut_elsewhere _ hp, find?_set_of_ne _ _ (by simpa using hmh), hnone]

/-! ### What is read of the new tree -/

/-- What is picked from entries of the old tree that stand aside is picked from the new tree, in its
order. -/
theorem filterMap_entries {α : Type} {f : Location × Entry → Option α} (h : Rewrites files dirs t u)
    (ht : ∀ x ∈ t.entries, f x ≠ none → Aside files x.1)
    (hu : ∀ x ∈ u.entries, f x ≠ none → Aside files x.1 ∧ t.find? x.1 ≠ none) :
    u.entries.filterMap f = t.entries.filterMap f := by
  have hpick : ∀ w : Tree, (∀ x ∈ w.entries, f x ≠ none → Aside files x.1 ∧ t.find? x.1 ≠ none) →
      w.entries.filterMap f = (entriesAside files t w).filterMap f := fun w hw => by
    rw [entriesAside, List.filterMap_filter]
    refine List.filterMap_congr fun x hx => ?_
    by_cases hf : f x = none
    · simp [hf]
    · obtain ⟨ha, hs⟩ := hw x hx hf
      simp [ha, Option.isSome_iff_ne_none.mpr hs]
  have hold : ∀ x ∈ t.entries, f x ≠ none → Aside files x.1 ∧ t.find? x.1 ≠ none := fun x hx hf =>
    ⟨ht x hx hf, Option.isSome_iff_ne_none.mp (find?_isSome_of_mem hx)⟩
  rw [hpick u hu, hpick t hold, h.kept]

/-- What is picked from below a location is the same if nothing below it is one of the files or of the
directories. -/
theorem filterMap_below {α : Type} {f : Location × Entry → Option α} (h : Rewrites files dirs t u)
    (hl : ∀ m, l <+: m → Aside files m ∧ u.find? m = t.find? m)
    (hf : ∀ x, f x ≠ none → l <+: x.1) : u.entries.filterMap f = t.entries.filterMap f := by
  refine h.filterMap_entries (fun x _ hne => (hl _ (hf x hne)).1) fun x hx hne => ?_
  obtain ⟨haside, hsame⟩ := hl _ (hf x hne)
  exact ⟨haside, hsame ▸ Option.isSome_iff_ne_none.mp (find?_isSome_of_mem hx)⟩

end Rewrites

end Tree

end SuiteBench
