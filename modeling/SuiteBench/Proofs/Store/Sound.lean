import SuiteBench.Proofs.Store.Steps

/-!
# Proofs.Store.Sound — trees in which everything stands in a directory

Every step keeps a tree sound.  In a sound tree what can be reached at a location depends on what
stands there and on the files on the way alone, so that making a directory is seen only where it
stands.
-/

namespace SuiteBench

namespace Tree

variable {t u : Tree} {l m d : Location}

/-- Whether all that stands in the tree stands in directories. -/
def Sound (t : Tree) : Prop :=
  ∀ l, t.find? l ≠ none → ∀ p, p <+: l → p ≠ l → t.find? p = some .directory

theorem sound_empty : empty.Sound := by
  intro l hl
  cases l with
  | nil => intro p hp hne; exact absurd (List.prefix_nil.mp hp) hne
  | cons a l => simp [empty, find?] at hl

theorem Sound.obstacle? (h : t.Sound) (hl : t.find? l ≠ none) : t.obstacle? l.dropLast = none := by
  refine obstacle?_eq_none_iff.mpr fun p hp => ?_
  by_cases h0 : l = []
  · subst h0
    rw [List.prefix_nil.mp hp]
    rfl
  · refine h l hl p (hp.trans (List.dropLast_prefix l)) ?_
    rintro rfl
    have hlen := hp.length_le
    have hpos := List.length_pos_iff.mpr h0
    rw [List.length_dropLast] at hlen
    omega

/-- In a sound tree what stands at a location can be reached. -/
theorem Sound.get_eq_ok_iff {e : Entry} (h : t.Sound) : t.get l = .ok e ↔ t.find? l = some e :=
  Tree.get_eq_ok_iff.trans (and_iff_right_of_imp fun hf => h.obstacle? (by simp [hf]))

theorem Sound.directory_of_prefix (h : t.Sound) (hl : t.find? l = some .directory) {p : Location}
    (hp : p <+: l) : t.find? p = some .directory := by
  by_cases hpl : p = l
  · rw [hpl, hl]
  · exact h l (by simp [hl]) p hp hpl

theorem prefix_dropLast {p : Location} (hp : p <+: l) (hne : p ≠ l) : p <+: l.dropLast := by
  rcases List.eq_nil_or_concat l with rfl | ⟨q, a, rfl⟩
  · exact absurd (List.prefix_nil.mp hp) hne
  · rw [List.concat_eq_append] at hp hne ⊢
    rw [List.dropLast_concat]
    exact (List.prefix_concat_iff.mp hp).resolve_left hne

/-- A tree is sound if each of its entries can be reached. -/
theorem sound_of_entries (h : ∀ x ∈ t.entries, t.obstacle? x.1.dropLast = none) : t.Sound := by
  intro l hl p hp hne
  by_cases h0 : l = []
  · subst h0
    exact absurd (List.prefix_nil.mp hp) hne
  · obtain ⟨e, he⟩ := Option.ne_none_iff_exists'.mp hl
    rw [find?_of_ne_nil t h0] at he
    obtain ⟨front, back, hsplit, -⟩ := List.lookup_eq_some_iff.mp he
    have hmem : (l, e) ∈ t.entries := hsplit ▸ List.mem_append_right _ List.mem_cons_self
    exact obstacle?_eq_none_iff.mp (h _ hmem) p (prefix_dropLast hp hne)

/-! ### Steps keep a tree sound -/

theorem sound_set {e : Entry} (h : t.Sound) (hl : l ≠ []) (ho : t.obstacle? l.dropLast = none)
    (he : t.find? l = some .directory → e = .directory) : (t.set l e).Sound := by
  intro k hk p hp hne
  have hdir : p ≠ l → t.find? p = some .directory → (t.set l e).find? p = some .directory := by
    intro hpl hpd
    rw [find?_set_of_ne t e hpl, hpd]
  by_cases hkl : k = l
  · subst hkl
    exact hdir hne (obstacle?_eq_none_iff.mp ho p (prefix_dropLast hp hne))
  · rw [find?_set_of_ne t e hkl] at hk
    have hd := h k hk p hp hne
    by_cases hpl : p = l
    · subst hpl
      rw [he hd, find?_set t _ hl]
    · exact hdir hpl hd

theorem sound_cut (h : t.Sound) : (t.cut l).Sound := by
  intro k hk p hp hne
  have hlk : ¬ l <+: k := by
    intro hlk
    by_cases h0 : k = []
    · subst h0
      exact hne (List.prefix_nil.mp hp)
    · exact hk (find?_cut_below t hlk h0)
  rw [find?_cut_elsewhere t hlk] at hk
  rw [find?_cut_elsewhere t fun hlp => hlk (hlp.trans hp)]
  exact h k hk p hp hne

/-- A tree with more directories is sound if each of them stands in directories. -/
theorem Sound.of_added (h : t.Sound)
    (hkeep : ∀ m e, t.find? m = some e → u.find? m = some e)
    (hnew : ∀ m, u.find? m ≠ t.find? m → ∀ p, p <+: m → u.find? p = some .directory) :
    u.Sound := by
  intro k hk p hp hne
  by_cases hkt : u.find? k = t.find? k
  · rw [hkt] at hk
    exact hkeep _ _ (h k hk p hp hne)
  · exact hnew k hkt p hp

/-- Nothing changes where the directory is already. -/
theorem makeDirs_eq_self (hm : t.makeDirs d = .ok u) (hd : t.find? d ≠ none) : u = t := by
  rw [makeDirs_eq] at hm
  cases hf : t.find? d with
  | none => exact absurd hf hd
  | some e =>
    rw [hf] at hm
    cases e with
    | directory => exact (Except.ok.inj hm).symm
    | file c x => cases hm

theorem sound_makeDirs (h : t.Sound) (hm : t.makeDirs d = .ok u) : u.Sound := by
  obtain ⟨-, h2, h3⟩ := makeDirs_spec hm
  by_cases hn : t.find? d = none
  · refine h.of_added h3 fun m hne p hp => makeDirs_way hm hn (hp.trans ?_)
    by_contra hmd
    exact hne (h2 m hmd)
  · rw [makeDirs_eq_self hm hn]
    exact h

/-! ### What can be reached in a sound tree -/

theorem way_pairwise (l : Location) : l.way.Pairwise (· <+: ·) := by
  rw [Location.way, List.pairwise_map]
  exact List.pairwise_lt_range.imp fun h => List.take_prefix_take_left (by omega)

theorem isFile_iff : t.isFile l = true ↔ ∃ c x, t.find? l = some (.file c x) := by
  rw [isFile]
  cases t.find? l with
  | none => simp
  | some e => cases e <;> simp [Entry.isDirectory]

theorem isDirectory_iff : t.isDirectory l = true ↔ t.find? l = some .directory := by
  rw [isDirectory]
  cases t.find? l with
  | none => simp
  | some e => cases e <;> simp [Entry.isDirectory]

/-- Nothing can be reached beyond a file. -/
theorem Sound.get_of_isFile (h : t.Sound) (hp : m <+: l) (hne : m ≠ l) (hf : t.isFile m = true) :
    t.get l = .error .notADirectory := by
  obtain ⟨c, x, hf⟩ := isFile_iff.mp hf
  have hm : m ∈ Location.way l.dropLast := by
    refine mem_way.mpr ⟨?_, prefix_dropLast hp hne⟩
    rintro rfl
    cases hf
  have ho : t.obstacle? l.dropLast = some .notADirectory := by
    cases ho : t.obstacle? l.dropLast with
    | none =>
      rw [obstacle?_eq_none_iff.mp ho m (mem_way.mp hm).2] at hf
      cases hf
    | some o =>
      obtain ⟨before, q, after, hway, hq, hbefore⟩ := List.findSome?_eq_some_iff.mp ho
      have hpair := way_pairwise l.dropLast
      rw [hway] at hm hpair
      rcases List.mem_append.mp hm with hm | hm
      · have := hbefore m hm
        rw [hf] at this
        cases this
      rcases List.mem_cons.mp hm with rfl | hm
      · rw [hf] at hq
        exact hq.symm
      · -- what is missing before the file would be missing at the file too
        have hqm : q <+: m := (List.pairwise_cons.mp (List.pairwise_append.mp hpair).2.1).1 m hm
        by_cases heq : q = m
        · subst heq
          rw [hf] at hq
          exact hq.symm
        · have hd := h m (by rw [hf]; simp) q hqm heq
          rw [hd] at hq
          cases hq
  rw [get, ho]

/-- Where no file is on the way, what is not there is not found. -/
theorem get_of_no_file (hn : t.find? l = none) (hno : ∀ p, p <+: l → t.isFile p = false) :
    t.get l = .error .notFound := by
  rw [get]
  cases ho : t.obstacle? l.dropLast with
  | none => simp [hn]
  | some o =>
    obtain ⟨before, q, after, hway, hq, -⟩ := List.findSome?_eq_some_iff.mp ho
    have hql : q <+: l :=
      (mem_way.mp (by rw [hway]; simp)).2.trans (List.dropLast_prefix l)
    cases hf : t.find? q with
    | none =>
      rw [hf] at hq
      exact congrArg Except.error (Option.some.inj hq).symm
    | some e =>
      cases e with
      | directory => rw [hf] at hq; cases hq
      | file c x =>
        have := isFile_iff.mpr ⟨c, x, hf⟩
        rw [hno q hql] at this
        cases this

/-- What is missing in a directory cannot be found. -/
theorem Sound.get_concat_of_none {a : String} (h : t.Sound) (hd : t.find? l = some .directory)
    (hn : t.find? (l ++ [a]) = none) : t.get (l ++ [a]) = .error .notFound := by
  have ho : t.obstacle? (l ++ [a]).dropLast = none := by
    rw [List.dropLast_concat]
    exact obstacle?_eq_none_iff.mpr fun p hp => h.directory_of_prefix hd hp
  rw [get, ho, hn]

/-- Making a directory is seen only where directories on the way to it stand. -/
theorem Sound.get_makeDirs (h : t.Sound) (hm : t.makeDirs d = .ok u) (hl : ¬ l <+: d) :
    u.get l = t.get l := by
  by_cases hd : t.find? d = none
  · obtain ⟨-, h2, h3⟩ := makeDirs_spec hm
    have hu := sound_makeDirs h hm
    cases hf : t.find? l with
    | some e =>
      have hfu : u.find? l = some e := by rw [h2 l hl, hf]
      rw [h.get_eq_ok_iff.mpr hf, hu.get_eq_ok_iff.mpr hfu]
    | none =>
      have hfu : u.find? l = none := by rw [h2 l hl, hf]
      by_cases hfile : ∃ p, p <+: l ∧ t.isFile p = true
      · obtain ⟨p, hp, hpf⟩ := hfile
        have hne : p ≠ l := by
          rintro rfl
          simp [isFile, hf] at hpf
        obtain ⟨c, x, hpc⟩ := isFile_iff.mp hpf
        rw [h.get_of_isFile hp hne hpf,
          hu.get_of_isFile hp hne (isFile_iff.mpr ⟨c, x, h3 _ _ hpc⟩)]
      · have hno : ∀ p, p <+: l → t.isFile p = false := fun p hp =>
          Bool.eq_false_iff.mpr fun hpf => hfile ⟨p, hp, hpf⟩
        rw [get_of_no_file hf hno, get_of_no_file hfu fun p hp => ?_]
        by_cases hpd : p <+: d
        · simp [isFile, makeDirs_way hm hd hpd, Entry.isDirectory]
        · rw [isFile, h2 p hpd]
          exact hno p hp
  · rw [makeDirs_eq_self hm hd]

theorem Sound.read_makeDirs (h : t.Sound) (hm : t.makeDirs d = .ok u) (hl : ¬ l <+: d) :
    u.read l = t.read l := by
  rw [read, read, h.get_makeDirs hm hl]

end Tree

namespace Step

open SuiteBench.Tree

variable {t u : Tree} {s : Step} {l : Location} {c : ByteArray}

/-- Whether a step moves nothing into itself. -/
def Regular : Step → Prop
  | rename source target => ¬ source <+: target
  | _ => True

theorem sound_apply (h : t.Sound) (hr : s.Regular) (hs : s.apply t = .ok u) : u.Sound := by
  cases s with
  | makeDirs d => exact sound_makeDirs h hs
  | write l c =>
    by_cases h0 : l = []
    · subst h0
      cases hs
    · have hd : t.find? l ≠ some .directory := by
        intro hd
        simp only [apply, hd] at hs
        split at hs <;> cases hs
      obtain ⟨ho, x, rfl⟩ := apply_write hs
      exact sound_set h h0 ho fun he => absurd he hd
  | rename a b =>
    obtain ⟨ho, hd, e, hg, rfl⟩ := apply_rename hs
    have hb : t.find? b ≠ some .directory := fun hb => by
      simp [isDirectory, hb, Entry.isDirectory] at hd
    have hcut : ∀ p, p <+: b → (t.cut a).find? p = t.find? p := fun p hp =>
      find?_cut_elsewhere t fun hap => hr (hap.trans hp)
    refine sound_set (sound_cut h) (by rintro rfl; exact hb rfl) ?_ fun he => ?_
    · rw [obstacle?_congr fun p hp => hcut p (hp.trans (List.dropLast_prefix b)), ho]
    · rw [hcut b (List.prefix_refl b)] at he
      exact absurd he hb
  | remove d =>
    obtain ⟨-, rfl⟩ := apply_remove hs
    exact sound_cut h

theorem sound_run (h : t.Sound) {steps : List Step} (hr : ∀ s ∈ steps, s.Regular) :
    (run t steps).1.Sound :=
  run_induction steps (fun s hs _ _ ha hv => sound_apply hv (hr s hs) ha) h

theorem regular_replace (hl : l ≠ []) : ∀ s ∈ replace l c, s.Regular := by
  intro s hs
  rw [replace_eq] at hs
  rcases List.mem_cons.mp hs with rfl | hs
  · trivial
  · obtain rfl := List.mem_singleton.mp hs
    exact not_hidden_prefix hl

theorem sound_replace (h : t.Sound) (hl : l ≠ []) (hr : run t (replace l c) = (u, none)) :
    u.Sound := by
  have hs := sound_run h (regular_replace hl (c := c))
  rwa [hr] at hs

end Step

end SuiteBench
